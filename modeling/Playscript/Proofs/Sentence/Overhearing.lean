/-
Sentences and directions overheard by a smaller cast.

- `parse_refines`: a sentence that the smaller cast understands is the same statement to the larger, about characters of
  the smaller only;
- `Direction.parse_refines`: the same of stage directions.
-/
import Playscript.Proofs.Phrase.Overhearing
import Playscript.Sentence.Direction

namespace Playscript

variable {lexicon : Lexicon} {small large : Cast}

namespace Sentence

theorem reading_refines {ε α β : Type} {R : α → β → Prop} {wrap : ε → SentenceError} {x : Except (Stopped ε) α}
    {y : Except (Stopped ε) β} (h : Refines R x y) : Refines R (reading wrap x) (reading wrap y) := by
  cases x with
  | error stopped => exact refines_error _ _
  | ok a =>
    obtain ⟨b, rfl, hab⟩ := h a rfl
    exact refines_ok hab

/-- a sentence of input or output mentions nobody -/
theorem readTransfer?_refines {ws : Words} {answer : Except SentenceError (Statement × Words)}
    (h : readTransfer? ws = some answer) : Refines (Agree fun found => found.1.mentions = []) answer answer := by
  unfold readTransfer? at h
  split at h
  · cases h
    refine refines_same _ fun rest => ?_
    cases Words.eat "mind" rest with
    | some rest => exact refines_ok ⟨rfl, rfl⟩
    | none => exact refines_same _ fun rest => refines_ok ⟨rfl, rfl⟩
  · split at h
    · cases h
      exact refines_same _ fun rest => refines_same _ fun rest => refines_ok ⟨rfl, rfl⟩
    · split at h
      · cases h
        exact refines_same _ fun rest => refines_same _ fun rest => refines_ok ⟨rfl, rfl⟩
      · cases h

variable (h : small.Within lexicon large)
include h

theorem readValue_refines (ws : Words) :
    Refines (Agree fun answer => small.HasAll answer.1.mentions)
      (readValue (Vocabulary.of lexicon small) ws) (readValue (Vocabulary.of lexicon large) ws) :=
  reading_refines (Phrase.readValue_refines h ws)

theorem readLastValue_refines (ws : Words) :
    Refines (Agree fun value => small.HasAll value.mentions)
      (readLastValue (Vocabulary.of lexicon small) ws) (readLastValue (Vocabulary.of lexicon large) ws) :=
  (readValue_refines h ws).step fun _ hvalue => refines_same _ fun _ => refines_ok ⟨rfl, hvalue⟩

theorem readAssignment_refines (ws : Words) :
    Refines (Agree fun statement : Statement => small.HasAll statement.mentions)
      (readAssignment (Vocabulary.of lexicon small) ws) (readAssignment (Vocabulary.of lexicon large) ws) := by
  have assigned : ∀ rest, Refines (Agree fun statement : Statement => small.HasAll statement.mentions)
      (readLastValue (Vocabulary.of lexicon small) rest >>= fun value => .ok (Statement.assign value))
      (readLastValue (Vocabulary.of lexicon large) rest >>= fun value => .ok (Statement.assign value)) :=
    fun rest => (readLastValue_refines h rest).step fun value hvalue => refines_ok ⟨rfl, hvalue⟩
  unfold readAssignment
  cases Words.eat "as" ws with
  | some rest => exact refines_same (readLikeness (Vocabulary.of lexicon small) rest) assigned
  | none => exact assigned ws

theorem readQuestion_refines {lhs : Value} (hlhs : small.HasAll lhs.mentions) (ws : Words) :
    Refines (Agree fun statement : Statement => small.HasAll statement.mentions)
      (readQuestion (Vocabulary.of lexicon small) lhs ws) (readQuestion (Vocabulary.of lexicon large) lhs ws) := by
  refine refines_same (readRelation (Vocabulary.of lexicon small) ((Words.eat "not" ws).getD ws)) fun ⟨relation, rest⟩ => ?_
  refine (readLastValue_refines h rest).step fun rhs hrhs => refines_ok ⟨rfl, fun id hid => ?_⟩
  exact (List.mem_append.1 hid).elim (hlhs id) (hrhs id)

theorem parseClause_refines (sentence : String) (ws : Words) :
    Refines (Agree fun statement : Statement => small.HasAll statement.mentions)
      (parseClause (Vocabulary.of lexicon small) sentence ws)
      (parseClause (Vocabulary.of lexicon large) sentence ws) := by
  unfold parseClause
  cases Words.eat "recall" ws with
  | some _ => exact refines_ok ⟨rfl, nofun⟩
  | none =>
  cases Words.eat "remember" ws with
  | some rest => exact (readLastValue_refines h rest).step fun value hvalue => refines_ok ⟨rfl, hvalue⟩
  | none =>
  have opens : opensAssignment (Vocabulary.of lexicon large) ws = opensAssignment (Vocabulary.of lexicon small) ws := rfl
  have asks : opensQuestion (Vocabulary.of lexicon large) ws = opensQuestion (Vocabulary.of lexicon small) ws := rfl
  rw [opens, asks]
  cases opensAssignment (Vocabulary.of lexicon small) ws with
  | true => exact readAssignment_refines h _
  | false =>
  cases opensQuestion (Vocabulary.of lexicon small) ws with
  | some role => exact readQuestion_refines h (by simp [Cast.HasAll, Value.mentions]) _
  | none =>
  cases Words.eat "is" ws with
  | some rest => exact (readValue_refines h rest).step fun answer hanswer => readQuestion_refines h hanswer _
  | none => exact refines_error _ _

theorem parseSimple_refines (sentence : String) (ws : Words) :
    Refines (Agree fun statement : Statement => small.HasAll statement.mentions)
      (parseSimple (Vocabulary.of lexicon small) sentence ws)
      (parseSimple (Vocabulary.of lexicon large) sentence ws) := by
  refine refines_same (reading .jump (Jump.read lexicon ws)) fun ⟨target, rest⟩ => ?_
  cases target with
  | some target => exact refines_same _ fun _ => refines_ok ⟨rfl, nofun⟩
  | none =>
    dsimp only
    cases htransfer : readTransfer? rest with
    | none => exact parseClause_refines h sentence rest
    | some answer =>
      refine (readTransfer?_refines htransfer).step fun ⟨statement, rest⟩ hnobody => ?_
      exact refines_same _ fun _ => refines_ok ⟨rfl, by simp [Cast.HasAll, show statement.mentions = [] from hnobody]⟩

/-- **A sentence overheard is the sentence spoken**, about nobody who is not known. -/
theorem parse_refines (sentence : String) :
    Refines (Agree fun statement : Statement => small.HasAll statement.mentions)
      (parse (Vocabulary.of lexicon small) sentence) (parse (Vocabulary.of lexicon large) sentence) := by
  unfold parse
  rcases Jump.readMarker (Words.ofText sentence) with ⟨_ | polarity, ws⟩
  · exact parseSimple_refines h sentence ws
  · exact (parseSimple_refines h sentence ws).step fun body hbody => refines_ok ⟨rfl, hbody⟩

end Sentence

namespace Direction

variable (h : small.Within lexicon large)
include h

theorem readName_refines (ws : Words) :
    Refines (Agree fun answer => answer.1 ∈ small.members.map (·.1)) (readName small ws) (readName large ws) := by
  unfold readName
  cases hsmall : Words.eatLongest small.names ws with
  | none => cases ws <;> exact refines_error _ _
  | some found =>
    obtain ⟨name, rest⟩ := found
    rw [h.named ws _ hsmall]
    dsimp only
    cases hid : small.identOf name with
    | none => exact refines_error _ _
    | some id =>
      rw [h.ident name id hid]
      exact refines_ok ⟨rfl, Cast.mem_of_identOf hid⟩

theorem readMoreNames_refines (count : Nat) (ws : Words) :
    Refines (Agree fun ids => small.HasAll ids) (readMoreNames small count ws)
      (readMoreNames large count ws) := by
  induction count generalizing ws with
  | zero => cases ws <;> exact refines_ok ⟨rfl, nofun⟩
  | succ count ih =>
    cases ws with
    | nil => exact refines_ok ⟨rfl, nofun⟩
    | cons word ws =>
      refine refines_same _ fun rest => (readName_refines h rest).step fun ⟨id, rest⟩ hid => ?_
      exact (ih rest).step fun ids hids => refines_ok ⟨rfl, List.forall_mem_cons.2 ⟨hid, hids⟩⟩

theorem readNames_refines (ws : Words) :
    Refines (Agree fun ids => small.HasAll ids) (readNames small ws) (readNames large ws) := by
  cases ws with
  | nil => exact refines_ok ⟨rfl, nofun⟩
  | cons word ws =>
    refine (readName_refines h (word :: ws)).step fun ⟨id, rest⟩ hid => ?_
    exact (readMoreNames_refines h _ rest).step fun ids hids => refines_ok ⟨rfl, List.forall_mem_cons.2 ⟨hid, hids⟩⟩

/-- **A direction overheard is the direction given**, to nobody who is not known. -/
theorem parse_refines (text : String) :
    Refines (Agree fun direction => small.HasAll direction.mentions) (parse small text) (parse large text) := by
  unfold parse
  dsimp only
  generalize Words.ofText (String.ofList (dropBrackets (Text.trimChars text.toList))) = ws
  cases Words.eat "enter" ws with
  | some rest =>
    refine (readNames_refines h rest).step fun ids hids => ?_
    cases ids with
    | nil => exact refines_error _ _
    | cons id ids => exact refines_ok ⟨rfl, hids⟩
  | none =>
  cases Words.eat "exit" ws with
  | some rest =>
    refine (readName_refines h rest).step fun ⟨id, rest⟩ hid => refines_same _ fun _ => refines_ok ⟨rfl, ?_⟩
    exact List.forall_mem_singleton.2 hid
  | none =>
  cases Words.eat "exeunt" ws with
  | some rest => exact (readNames_refines h rest).step fun ids hids => refines_ok ⟨rfl, hids⟩
  | none => exact refines_error _ _

end Direction

end Playscript
