/-
Values and integers come back from their phrases, whatever lexicon they are spelled with.

- `meaning_spell`: under a valid lexicon and any cast that can come about, every phrase of a value means the value in
  its canonical form, and every phrase of an integer means that integer.
-/
import Playscript.Proofs.Cast.Reached
import Playscript.Proofs.Phrase.Spelling
import Playscript.Proofs.Vocabulary

namespace Playscript.Phrase

/-- **Values come back from their phrases**, in canonical form, and integers as they are. Nothing is asked of the
lexicon but that it is valid, and nothing of the words chosen or of the clause they are chosen for. -/
theorem meaning_spell {lexicon : Lexicon} (hvalid : lexicon.validate = .ok ()) {cast : Cast} (hcast : cast.Reached)
    (subject : Option Role) (g : Generator) :
    (∀ value phrase, (spell (Vocabulary.of lexicon cast) subject value g).1 = .ok phrase →
        meaning (Vocabulary.of lexicon cast) phrase = .ok value.canonical) ∧
      ∀ n phrase, (spellInteger (Stock.of lexicon cast) n g).1 = .ok phrase →
        meaning (Vocabulary.of lexicon cast) phrase = .ok (.constant n) := by
  obtain ⟨names, drawn⟩ := Cast.drawn_of_reached hcast
  refine ⟨fun value phrase h => ?_, fun n phrase h => ?_⟩
  · have follows : (Vocabulary.of lexicon cast).cast.Follows cast id fun _ => True := drawn.follows_self
    have understood := spell_yields hvalid rfl follows subject (fun _ _ => trivial) g phrase h
    rw [Value.rename_id] at understood
    exact understood.means
  · exact (spellInteger_yields hvalid n g phrase h).2 (Vocabulary.of lexicon cast) rfl

/-- the least integer and a character whose name was given out while a text was filled in that asks for one name too
many -/
theorem meaning_spell_short_of_names :
    let cast := ((Cast.ofNames ["Hamlet", "Ophelia"]).substitute "\x7ba\x7d meets \x7bb\x7d and \x7bc\x7d").2
    let value : Value := .binary .sub (.constant (-9223372036854775808)) (.character ⟨"b"⟩)
    Lexicon.standard.validate = .ok () ∧ cast.Reached ∧
      (∃ phrase, (spell (Vocabulary.of Lexicon.standard cast) (some .speaker) value (Generator.ofSeed 3)).1 = .ok phrase ∧
        meaning (Vocabulary.of Lexicon.standard cast) phrase = .ok value.canonical) ∧
      ∃ phrase, (spellInteger (Stock.of Lexicon.standard cast) (-9223372036854775808) (Generator.ofSeed 3)).1 =
          .ok phrase ∧
        meaning (Vocabulary.of Lexicon.standard cast) phrase = .ok (.constant (-9223372036854775808)) := by
  intro cast value
  have hvalid := Lexicon.standard_valid
  have hcast : cast.Reached := (Cast.Reached.fresh _).substituted _
  have members : cast.members = [(⟨"a"⟩, "Hamlet"), (⟨"b"⟩, "Ophelia")] := by decide +kernel
  have hnames : ∀ name ∈ cast.names, name ∈ Lexicon.standardCast := by
    rw [Cast.names, members]
    decide
  have ample := Vocabulary.ample_of_standard hnames
  have round := meaning_spell hvalid hcast (some .speaker) (Generator.ofSeed 3)
  have named : ∀ id ∈ value.mentions, ∃ name, cast.nameOf id = some name := by
    intro id hid
    have hb : id = ⟨"b"⟩ := by simpa [value, Value.mentions] using hid
    exact ⟨"Ophelia", by rw [Cast.nameOf, members, hb]; rfl⟩
  obtain ⟨phrase, hphrase⟩ := (spell_succeeds ample (some .speaker) value (Generator.ofSeed 3)).2 named
  obtain ⟨digits, hdigits⟩ := (spellBits_succeeds ample _ _ (Generator.ofSeed 3)).2 trivial
  exact ⟨hvalid, hcast, ⟨phrase, hphrase, round.1 value phrase hphrase⟩, digits, hdigits, round.2 _ digits hdigits⟩

end Playscript.Phrase
