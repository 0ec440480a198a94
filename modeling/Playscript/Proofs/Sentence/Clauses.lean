/-
What a hearer makes of the words of a clause.

The hearer reads the standard vocabulary and knows characters by names of its cast. Each lemma takes the words that one
kind of sentence is made of, with phrases that are understood as some values, to the statement: assignments with and
without a comparison (`readAssignment_plain`, `readAssignment_likeness`), questions about a partner and about a value
(`parseClause_role`, `parseClause_value`), and remembering (`parseClause_remember`).
-/
import Playscript.Proofs.Sentence.Opening
import Playscript.Proofs.Vocabulary

namespace Playscript

namespace Phrase

theorem words_eq_cons {vocabulary : Vocabulary} (hv : vocabulary.Readable) {phrase : NounPhrase}
    (h : phrase.Over vocabulary.lexicon vocabulary.cast.names) :
    ∃ first rest, phrase.words = first :: rest ∧ Text.same first "as" = false := by
  cases phrase with
  | nothing => exact ⟨_, _, NounPhrase.words_nothing, by decide⟩
  | noun adjectives word =>
    obtain ⟨⟨polarity, hn⟩, ha⟩ := h
    refine ⟨_, _, NounPhrase.words_noun (hv.single _ hn) fun a hmem => ?_, ?_⟩
    · obtain ⟨p, hp⟩ := ha a hmem
      exact hv.single _ hp
    · rcases articleFor_mem (adjectives.headD word) with e | e <;> rw [e] <;> decide
  | pronoun word =>
    obtain ⟨role, hw⟩ := h
    exact ⟨word, [], hv.single _ hw, hv.pronoun_plain word role hw "as" (by decide)⟩
  | name name =>
    have hname : name ∈ vocabulary.cast.names := h
    obtain ⟨hne, hwords⟩ := hv.name_words name hname
    have hplain := hv.name_plain name hname "as" (by decide)
    have heq : (NounPhrase.name name).words = Text.words name := hwords
    cases hw : Text.words name with
    | nil => exact absurd hw hne
    | cons first rest =>
      rw [Words.initial, hw, List.headD_cons] at hplain
      exact ⟨first, rest, heq.trans hw, hplain⟩
  | binary op lhs rhs =>
    rw [NounPhrase.words_binary]
    cases op <;> exact ⟨_, _, rfl, by decide⟩
  | unary op operand =>
    rw [NounPhrase.words_unary]
    cases op <;> exact ⟨_, _, rfl, by decide⟩
  | twice operand => exact ⟨_, _, NounPhrase.words_twice operand, by decide⟩

theorem readValue_words {vocabulary : Vocabulary} (hv : vocabulary.Readable) {value : Value} {phrase : NounPhrase}
    (h : Understood vocabulary.lexicon vocabulary value phrase) (rest : Words) :
    readValue vocabulary (phrase.words ++ rest) = .ok (value, rest) := by
  simp only [readValue, read_words hv h.within, bind, Except.bind, h.means]
  rfl

end Phrase

namespace Sentence

open Lexicon Phrase

/-- a hearer of standard sentences: the standard vocabulary, and characters named from its cast -/
structure Hearer (hearer : Vocabulary) : Prop where
  lexicon : hearer.lexicon = standard
  names : ∀ name ∈ hearer.cast.names, name ∈ standardCast

variable {hearer : Vocabulary} (hh : Hearer hearer)
include hh

theorem Hearer.readable : hearer.Readable := Vocabulary.readable_of_standard hh.lexicon hh.names

theorem readValue_phrase {value : Value} {phrase : NounPhrase} (h : Understood standard hearer value phrase)
    (rest : Words) : Sentence.readValue hearer (phrase.words ++ rest) = .ok (value, rest) := by
  rw [Sentence.readValue, readValue_words hh.readable (hh.lexicon ▸ h)]
  rfl

theorem readLastValue_phrase {value : Value} {phrase : NounPhrase} (h : Understood standard hearer value phrase) :
    readLastValue hearer phrase.words = .ok value := by
  have hread := readValue_phrase hh h []
  rw [List.append_nil] at hread
  simp only [readLastValue, hread, bind, Except.bind]
  rfl

theorem readLikeness_words {adjective : String} {polarity : Polarity}
    (ha : (adjective, .adjective polarity) ∈ standard.entries) (rest : Words) :
    readLikeness hearer (adjective :: "as" :: rest) = .ok rest := by
  have known : (hearer.lexicon.adjectivePolarity adjective).isSome = true := by
    rw [hh.lexicon, adjectivePolarity_of_mem standard_valid ha]
    rfl
  simp only [readLikeness, readAdjective, known, if_true]
  rfl

/-! ## Assignments -/

theorem parseClause_addressee (sentence : String) (ws : Words) :
    parseClause hearer sentence ("you" :: "are" :: ws) = readAssignment hearer ws := by
  have opens : opensAssignment hearer ("you" :: "are" :: ws) = true := by
    simp only [opensAssignment, List.headD_cons, hh.lexicon, standard_openings.you, List.getD_cons_succ,
      List.getD_cons_zero, Text.same_refl]
  have noRecall : Words.eat "recall" ("you" :: "are" :: ws) = none := rfl
  have noRemember : Words.eat "remember" ("you" :: "are" :: ws) = none := rfl
  simp only [parseClause, noRecall, noRemember, opens, if_true, List.drop_succ_cons, List.drop_zero]

theorem readAssignment_plain {value : Value} {phrase : NounPhrase} (h : Understood standard hearer value phrase) :
    readAssignment hearer phrase.words = .ok (.assign value) := by
  obtain ⟨first, rest, hwords, has⟩ := words_eq_cons hh.readable (hh.lexicon ▸ h.within)
  have noLikeness : Words.eat "as" phrase.words = none := by rw [hwords, Words.eat_eq_none has]
  simp only [readAssignment, noLikeness, readLastValue_phrase hh h, bind, Except.bind]
  rfl

theorem readAssignment_likeness {adjective : String} {polarity : Polarity}
    (ha : (adjective, .adjective polarity) ∈ standard.entries) {value : Value} {phrase : NounPhrase}
    (h : Understood standard hearer value phrase) :
    readAssignment hearer ("as" :: adjective :: "as" :: phrase.words) = .ok (.assign value) := by
  have likeness : Words.eat "as" ("as" :: adjective :: "as" :: phrase.words) =
      some (adjective :: "as" :: phrase.words) := rfl
  simp only [readAssignment, likeness, readLikeness_words hh ha, readLastValue_phrase hh h, bind, Except.bind]
  rfl

theorem parseClause_remember (sentence : String) {value : Value} {phrase : NounPhrase}
    (h : Understood standard hearer value phrase) :
    parseClause hearer sentence ("remember" :: phrase.words) = .ok (.remember value) := by
  have noRecall : Words.eat "recall" ("remember" :: phrase.words) = none := rfl
  have remembered : Words.eat "remember" ("remember" :: phrase.words) = some phrase.words := rfl
  simp only [parseClause, noRecall, remembered, readLastValue_phrase hh h, bind, Except.bind]
  rfl

/-! ## Questions -/

omit hh in
/-- words that ask for a relation and do not begin with "not" -/
def Relates (hearer : Vocabulary) (relation : Relation) (ws : Words) : Prop :=
  (∀ rest, readRelation hearer (ws ++ rest) = .ok (relation, rest)) ∧
    ∃ first more, ws = first :: more ∧ Text.same first "not" = false

theorem relates_likeness {adjective : String} {polarity : Polarity}
    (ha : (adjective, .adjective polarity) ∈ standard.entries) : Relates hearer .equal ["as", adjective, "as"] := by
  refine ⟨fun rest => ?_, _, _, rfl, by decide⟩
  have likeness : Words.eat "as" (["as", adjective, "as"] ++ rest) = some (adjective :: "as" :: rest) := rfl
  simp only [readRelation, likeness, readLikeness_words hh ha, bind, Except.bind]
  rfl

theorem relates_comparative {comparative : String} {polarity : Polarity}
    (hc : (comparative, polarity) ∈ standard.comparatives.entries) :
    Relates hearer (relationOf polarity) [comparative, "than"] := by
  have has := standard_words.comparatives _ hc "as" (by simp)
  have hnot := standard_words.comparatives _ hc "not" (by simp)
  have hentry : (comparative, .comparative polarity) ∈ standard.entries := mem_entries_comparative.2 hc
  refine ⟨fun rest => ?_, comparative, ["than"], rfl, hnot⟩
  have known : hearer.lexicon.comparativePolarity comparative = some polarity := by
    rw [hh.lexicon, comparativePolarity_of_mem standard_valid hentry]
  have than : expect "than" ("than" :: rest) = .ok rest := rfl
  simp only [readRelation, List.cons_append, List.nil_append, Words.eat_eq_none has, readComparative, List.head?_cons,
    Option.bind_some, known, List.tail_cons, than, bind, Except.bind]
  rfl

/-- the word of a question that turns its answer round -/
def negation (negated : Bool) : Words := if negated then ["not"] else []

theorem readQuestion_words {relation : Relation} {ws : Words} (hws : Relates hearer relation ws) (negated : Bool)
    (lhs : Value) {rhs : Value} {phrase : NounPhrase} (h : Understood standard hearer rhs phrase) :
    readQuestion hearer lhs (negation negated ++ (ws ++ phrase.words)) = .ok (.compare ⟨relation, negated, lhs, rhs⟩) := by
  obtain ⟨hread, first, more, rfl, hnot⟩ := hws
  have after : (Words.eat "not" (negation negated ++ (first :: more ++ phrase.words))).getD
        (negation negated ++ (first :: more ++ phrase.words)) = first :: more ++ phrase.words ∧
      (Words.eat "not" (negation negated ++ (first :: more ++ phrase.words))).isSome = negated := by
    cases negated with
    | true => exact ⟨rfl, rfl⟩
    | false =>
      simp only [negation, Bool.false_eq_true, if_false, List.nil_append, List.cons_append, Words.eat_eq_none hnot]
      exact ⟨rfl, rfl⟩
  simp only [readQuestion, after.1, after.2, hread, readLastValue_phrase hh h, bind, Except.bind]
  rfl

/-- the words that open a question about a partner, in small letters -/
def questionWords : Role → String × String
  | .speaker => ("am", "I")
  | .addressee => ("are", "you")

theorem opensQuestion_role (role : Role) (ws : Words) :
    opensQuestion hearer ((questionWords role).1 :: (questionWords role).2 :: ws) = some role := by
  unfold opensQuestion
  rw [hh.lexicon]
  cases role with
  | speaker =>
    simp only [questionWords, List.headD_cons, standard_openings.am, List.getD_cons_succ, List.getD_cons_zero,
      Text.same_refl, if_true]
  | addressee =>
    simp only [questionWords, List.headD_cons, standard_openings.are, List.getD_cons_succ, List.getD_cons_zero,
      Text.same_refl, if_true]

/-- no verb is the subject of an assignment -/
theorem opensAssignment_verb {verb : String} (hverb : verb ∈ ["am", "are", "is"]) (ws : Words) :
    opensAssignment hearer (verb :: ws) = false := by
  simp only [opensAssignment, List.headD_cons, hh.lexicon, standard_openings.no_subject verb hverb]

theorem parseClause_role (sentence : String) (role : Role) (ws : Words) :
    parseClause hearer sentence ((questionWords role).1 :: (questionWords role).2 :: ws) =
      readQuestion hearer (.role role) ws := by
  have noAssignment := opensAssignment_verb hh (show (questionWords role).1 ∈ ["am", "are", "is"] by cases role <;> simp [questionWords])
    ((questionWords role).2 :: ws)
  have noRecall : Words.eat "recall" ((questionWords role).1 :: (questionWords role).2 :: ws) = none := by
    cases role <;> rfl
  have noRemember : Words.eat "remember" ((questionWords role).1 :: (questionWords role).2 :: ws) = none := by
    cases role <;> rfl
  simp only [parseClause, noRecall, noRemember, noAssignment, Bool.false_eq_true, if_false,
    opensQuestion_role hh role ws, List.drop_succ_cons, List.drop_zero]

theorem parseClause_value (sentence : String) {lhs : Value} {phrase : NounPhrase}
    (h : Understood standard hearer lhs phrase) (ws : Words) :
    parseClause hearer sentence ("is" :: (phrase.words ++ ws)) = readQuestion hearer lhs ws := by
  have noAssignment := opensAssignment_verb hh (show "is" ∈ ["am", "are", "is"] by simp) (phrase.words ++ ws)
  have noQuestion : opensQuestion hearer ("is" :: (phrase.words ++ ws)) = none := by
    simp only [opensQuestion, List.headD_cons, hh.lexicon, standard_openings.no_verb]
  have noRecall : Words.eat "recall" ("is" :: (phrase.words ++ ws)) = none := rfl
  have noRemember : Words.eat "remember" ("is" :: (phrase.words ++ ws)) = none := rfl
  have asked : Words.eat "is" ("is" :: (phrase.words ++ ws)) = some (phrase.words ++ ws) := rfl
  simp only [parseClause, noRecall, noRemember, noAssignment, Bool.false_eq_true, if_false, noQuestion, asked,
    readValue_phrase hh h ws]
  rfl

end Sentence

end Playscript
