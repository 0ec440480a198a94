/-
Programs under other identifiers. A renaming changes the identifiers of a program and nothing else, so it passes
through folding, and a renaming of nothing changes nothing.
-/
import Playscript.Program
import Playscript.Sentence

namespace Playscript

def Value.rename (f : Ident → Ident) : Value → Value
  | .constant n => .constant n
  | .binary op lhs rhs => .binary op (lhs.rename f) (rhs.rename f)
  | .unary op operand => .unary op (operand.rename f)
  | .character id => .character (f id)
  | .role partner => .role partner

def Statement.rename (f : Ident → Ident) : Statement → Statement
  | .assign value => .assign (value.rename f)
  | .compare c => .compare { c with lhs := c.lhs.rename f, rhs := c.rhs.rename f }
  | .conditional polarity body => .conditional polarity (body.rename f)
  | .jump target => .jump target
  | .input channel => .input channel
  | .output channel => .output channel
  | .remember value => .remember (value.rename f)
  | .recall => .recall

def StageDirection.rename (f : Ident → Ident) : StageDirection → StageDirection
  | .enter ids => .enter (ids.map f)
  | .exit id => .exit (f id)
  | .exeunt ids => .exeunt (ids.map f)

namespace Value

theorem combine_rename (f : Ident → Ident) (op : BinaryOp) (lhs rhs : Value) :
    (combine op lhs rhs).rename f = combine op (lhs.rename f) (rhs.rename f) := by
  cases op <;> try rfl
  cases lhs <;> cases rhs <;> try rfl
  simp only [combine, rename]
  split <;> rfl

theorem rename_id (value : Value) : value.rename id = value := by
  induction value with
  | binary op lhs rhs ihl ihr => rw [rename, ihl, ihr]
  | unary op operand ih => rw [rename, ih]
  | _ => rfl

theorem mentions_combine (op : BinaryOp) (lhs rhs : Value) :
    (combine op lhs rhs).mentions = lhs.mentions ++ rhs.mentions := by
  cases op <;> try rfl
  cases lhs <;> cases rhs <;> try rfl
  simp only [combine]
  split <;> rfl

theorem mentions_rename (f : Ident → Ident) (value : Value) : (value.rename f).mentions = value.mentions.map f := by
  induction value with
  | binary op lhs rhs ihl ihr => rw [rename, mentions, ihl, ihr, mentions, List.map_append]
  | unary op operand ih => exact ih
  | _ => rfl

/-- folding keeps every mention -/
theorem mentions_canonical (value : Value) : value.canonical.mentions = value.mentions := by
  induction value with
  | binary op lhs rhs ihl ihr => rw [canonical, mentions_combine, ihl, ihr, mentions]
  | unary op operand ih => rw [canonical, mentions, ih, mentions]
  | _ => rfl

/-- the speaker is called by role, so only others are mentioned -/
theorem mem_mentions_withSpeakerAsRole {speaker id : Ident} {value : Value} :
    id ∈ (value.withSpeakerAsRole speaker).mentions ↔ id ∈ value.mentions ∧ id ≠ speaker := by
  induction value with
  | binary op lhs rhs ihl ihr =>
    simp only [withSpeakerAsRole, mentions, List.mem_append, ihl, ihr, or_and_right]
  | unary op operand ih => exact ih
  | character other =>
    unfold withSpeakerAsRole
    split
    · rename_i h
      simp only [mentions, List.not_mem_nil, List.mem_singleton, ne_eq, false_iff, not_and, Decidable.not_not]
      exact fun e => e.trans h
    · rename_i h
      simp only [mentions, List.mem_singleton, iff_self_and]
      exact fun e => e ▸ h
  | _ => simp [withSpeakerAsRole, mentions]

end Value

/-- characters that a statement calls by their identifiers -/
def Statement.mentions : Statement → List Ident
  | .assign value => value.mentions
  | .compare c => c.lhs.mentions ++ c.rhs.mentions
  | .conditional _ body => body.mentions
  | .remember value => value.mentions
  | _ => []

/-- characters that a line calls by their identifiers -/
def Line.mentions : Line → List Ident
  | .direction d => d.mentions
  | .speech speaker statements => speaker :: statements.flatMap Statement.mentions

/-- whoever a statement mentions the line mentions -/
theorem Line.mem_mentions_of_mem {speaker id : Ident} {statements : List Statement} {s : Statement}
    (hs : s ∈ statements) (hid : id ∈ s.mentions) : id ∈ (Line.speech speaker statements).mentions :=
  List.mem_cons_of_mem _ (List.mem_flatMap.2 ⟨s, hs, hid⟩)

theorem StageDirection.rename_id (direction : StageDirection) : direction.rename id = direction := by
  cases direction <;> simp [rename]

theorem Statement.rename_id (statement : Statement) : statement.rename id = statement := by
  induction statement with
  | conditional polarity body ih => rw [rename, ih]
  | compare c => simp only [rename, Value.rename_id]
  | assign value => rw [rename, Value.rename_id]
  | remember value => rw [rename, Value.rename_id]
  | _ => rfl

end Playscript
