/-
The standard vocabulary. Every word belongs to one class only, in small letters too, so the lexicon is valid.
-/
import Playscript.Lexicon

namespace Playscript.Lexicon

def standardNouns : WordClass where
  positive := [
    "angel", "aunt", "brother", "cousin", "fellow", "father", "flower", "god", "grandfather", "grandmother",
    "happiness", "heaven", "hero", "horse", "joy", "king", "kingdom", "lord", "mother", "nephew", "niece",
    "plum", "rose", "sister", "son", "squirrel", "uncle"]
  neutral := [
    "animal", "cat", "chihuahua", "cow", "daughter", "door", "face", "fish", "goat", "hair", "moon", "nose",
    "road", "sky", "stone", "sun", "tree", "wind"]
  negative := [
    "bastard", "beggar", "blister", "codpiece", "coward", "curse", "death", "devil", "draught", "famine",
    "hell", "hog", "leech", "lie", "pig", "plague", "starvation", "toad", "war", "wolf"]

def standardAdjectives : WordClass where
  positive := [
    "amazing", "beautiful", "blossoming", "bold", "brave", "charming", "clearest", "cunning", "cute",
    "delicious", "embroidered", "fair", "fine", "gentle", "golden", "good", "handsome", "happy", "healthy",
    "honest", "lovely", "loving", "mighty", "noble", "peaceful", "pretty", "prompt", "proud", "reddest",
    "rich", "smooth", "sunny", "sweet", "sweetest", "trustworthy", "warm"]
  neutral := [
    "big", "black", "blue", "bluest", "bottomless", "furry", "green", "hard", "huge", "large", "little",
    "normal", "old", "purple", "red", "rural", "small", "tiny", "white", "yellow"]
  negative := [
    "bad", "cowardly", "cursed", "damned", "dirty", "disgusting", "distasteful", "dusty", "evil", "fat",
    "fatherless", "foul", "hairy", "half-witted", "horrible", "horrid", "infected", "lying", "miserable",
    "misused", "oozing", "rotten", "smelly", "snotty", "sorry", "stinking", "stuffed", "stupid", "vile",
    "villainous", "worried"]

def standardComparatives : Comparatives where
  positive := [
    "better", "bigger", "fresher", "friendlier", "nicer", "jollier"]
  negative := [
    "worse", "punier", "weaker"]

def standardPronouns : Pronouns where
  firstPerson := [⟨"I", "me", "myself", "am"⟩]
  secondPerson := [⟨"you", "you", "yourself", "are"⟩, ⟨"thou", "thee", "thyself", "art"⟩]

def standardNumerals : List String := [
  "I", "II", "III", "IV", "V", "VI", "VII", "VIII", "IX", "X", "XI", "XII", "XIII", "XIV", "XV", "XVI", "XVII",
  "XVIII", "XIX", "XX", "XXI", "XXII", "XXIII", "XXIV", "XXV", "XXVI", "XXVII", "XXVIII", "XXIX", "XXX"]

def standardCast : List String := [
  "Romeo", "Juliet", "Hamlet", "Ophelia", "Macbeth", "Lady Macbeth", "Othello", "Desdemona", "Puck", "Titania",
  "Oberon", "Portia", "Antonio", "Viola", "Orsino", "Prospero", "Miranda", "Ariel", "Falstaff", "Cordelia",
  "Lear", "Horatio", "Iago", "Rosalind", "Beatrice", "Benedick", "Helena", "Hermia", "Lysander", "Demetrius"]

/-- the vocabulary used unless another is given -/
def standard : Lexicon where
  nouns := standardNouns
  adjectives := standardAdjectives
  comparatives := standardComparatives
  pronouns := standardPronouns
  numerals := standardNumerals
  cast := standardCast

end Playscript.Lexicon
