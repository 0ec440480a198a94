/-
Reading characters and integers from one input, in any order.

- `LineInput.answers`: the answers to a row of readings, and the input that is left;
- `LineInput.Within`: the input stands somewhere in a text, inside one of its lines or between two;
- `LineInput.Answered`: what a reading may answer and what it leaves, told by the text that is left alone; no reading
  fails, and it leaves the input within the text (`answered_of_within`);
- `Answered.ink`: what is not blank is either answered or left;
- `input_conserved`: so whatever is read in whatever order, nothing is lost and nothing is read twice.
-/
import Playscript.Proofs.Console.Lines
import Playscript.Proofs.Text.Trimming

namespace Playscript

namespace LineInput

/-- the two ways to read -/
inductive Call where
  | character
  | integer
  deriving DecidableEq, Repr

def answer (input : LineInput) : Call → Except ConsoleError String × LineInput
  | .character => input.readCharacter
  | .integer => input.readInteger

/-- the answers to readings one after the other, and the input after all of them -/
def answers (input : LineInput) : List Call → List (Except ConsoleError String) × LineInput
  | [] => ([], input)
  | call :: calls =>
    let (first, next) := input.answer call
    let (rest, last) := next.answers calls
    (first :: rest, last)

/-- the text of lines that are still to come -/
def unreadText (input : LineInput) : List Char := input.unread.flatMap (·.getD [])

/-- all that is left to read -/
def left (input : LineInput) : List Char := input.pending ++ input.unreadText

/-- the input of a program that is given a text -/
def ofText (text : String) : LineInput := ofLines (linesOfBytes text.toUTF8.data.toList)

/-! ## Where an input stands -/

/-- some lines of the text have been taken, the last of them perhaps not to its end -/
def Within (text : List Char) (input : LineInput) : Prop :=
  ∃ taken rest, textLines text = taken ++ rest ∧ input.unread = rest.map some ∧
    input.pending <:+ taken.getLast?.getD []

theorem within_ofText (text : String) : (ofText text).Within text.toList :=
  ⟨[], textLines text.toList, rfl, linesOfBytes_text text, List.suffix_rfl⟩

theorem left_ofText (text : String) : (ofText text).left = text.toList := by
  rw [left, unreadText, ofText, ofLines, linesOfBytes_text, List.nil_append, List.flatMap_map]
  exact List.flatMap_id'.trans (flatten_textLines text.toList)

theorem unreadText_of_unread {input : LineInput} {rest : List (List Char)} (h : input.unread = rest.map some) :
    input.unreadText = rest.flatten := by
  rw [unreadText, h, List.flatMap_map]
  exact List.flatMap_id'

/-- **What is left is the end of the text.** -/
theorem Within.left_suffix {text : List Char} {input : LineInput} (h : input.Within text) : input.left <:+ text := by
  obtain ⟨taken, rest, hlines, hunread, hpending⟩ := h
  have whole : text = taken.flatten ++ rest.flatten := by rw [← List.flatten_append, ← hlines, flatten_textLines]
  have pending : input.pending <:+ taken.flatten := by
    rcases List.eq_nil_or_concat taken with rfl | ⟨front, last, rfl⟩
    · exact hpending
    · rw [List.concat_eq_append] at hpending ⊢
      rw [List.getLast?_concat, Option.getD_some] at hpending
      rw [List.flatten_append, List.flatten_singleton]
      exact hpending.trans (List.suffix_append _ _)
  obtain ⟨front, hfront⟩ := pending
  exact ⟨front, by rw [left, unreadText_of_unread hunread, whole, ← hfront, List.append_assoc]⟩

/-! ## One reading -/

/-- what a reading may answer, and what it leaves of the text that was left before it -/
inductive Answered (text left : List Char) : Call → Except ConsoleError String × LineInput → Prop where
  /-- the first character that is left -/
  | character {c : Char} {next : LineInput} : left = c :: next.left →
    Answered text left .character (.ok (String.singleton c), next)
  /-- no text, at the end -/
  | noCharacter {next : LineInput} : left = [] → next.left = [] → Answered text left .character (.ok "", next)
  /-- the first line that is left with anything on it, or the rest of that line, trimmed -/
  | integer {blanks piece line : List Char} {next : LineInput} : Text.Blank blanks →
    left = blanks ++ piece ++ next.left → line ∈ textLines text → piece <:+ line → Text.trimChars piece ≠ [] →
    next.pending = [] → Answered text left .integer (.ok (String.ofList (Text.trimChars piece)), next)
  /-- no text, where only blanks are left -/
  | noInteger {next : LineInput} : Text.Blank left → next.left = [] → Answered text left .integer (.ok "", next)

section Integer

variable {text pending : List Char} {taken rest : List (List Char)}

theorem within_between (h : textLines text = taken ++ rest) (ended : Bool) : Within text ⟨[], rest.map some, ended⟩ :=
  ⟨taken, rest, h, rfl, List.nil_suffix⟩

/-- what is left of a line is read if it is not blank -/
theorem answered_line (hlines : textLines text = taken ++ rest) (hpending : pending <:+ taken.getLast?.getD [])
    (hink : ¬ Text.Blank pending) : Answered text (pending ++ rest.flatten) .integer
      (.ok (String.ofList (Text.trimChars pending)), ⟨[], rest.map some, false⟩) := by
  have line : taken.getLast?.getD [] ∈ textLines text := by
    cases hlast : taken.getLast? with
    | none =>
      rw [hlast] at hpending
      exact absurd (List.suffix_nil.1 hpending ▸ fun c hc => absurd hc List.not_mem_nil) hink
    | some line =>
      rw [hlines]
      exact List.mem_append_left rest (List.mem_of_getLast? hlast)
  have nothing : Text.Blank [] := nofun
  refine .integer nothing ?_ line hpending (mt Text.trimChars_eq_nil_iff.1 hink) rfl
  rw [left, unreadText_of_unread rfl, List.nil_append, List.nil_append]

/-- blanks in front do not matter to an integer -/
theorem Answered.skip {blanks left : List Char} (hblanks : Text.Blank blanks)
    {result : Except ConsoleError String × LineInput} (h : Answered text left .integer result) :
    Answered text (blanks ++ left) .integer result := by
  cases h with
  | integer hmore hleft hline hpiece hne hnext =>
    refine .integer (List.forall_mem_append.2 ⟨hblanks, hmore⟩) ?_ hline hpiece hne hnext
    rw [hleft, List.append_assoc, List.append_assoc, List.append_assoc]
  | noInteger hblank hnext => exact .noInteger (List.forall_mem_append.2 ⟨hblanks, hblank⟩) hnext

/-- **Blank lines are passed over one by one**, up to a line that holds anything or the end of the input. -/
theorem answered_readRest (hlines : textLines text = taken ++ rest) (hpending : pending <:+ taken.getLast?.getD []) :
    Answered text (pending ++ rest.flatten) .integer (readRest pending (rest.map some)) ∧
      (readRest pending (rest.map some)).2.Within text := by
  induction rest generalizing taken pending with
  | nil =>
    rw [List.map_nil, readRest]
    split
    · rename_i hblank
      refine ⟨.noInteger ?_ rfl, within_between hlines true⟩
      rw [List.flatten_nil, List.append_nil]
      exact Text.allBlank_iff.1 hblank
    · rename_i hink
      exact ⟨answered_line hlines hpending (mt Text.allBlank_iff.2 hink), within_between hlines false⟩
  | cons line rest ih =>
    have further : textLines text = (taken ++ [line]) ++ rest := by rw [hlines, List.append_assoc]; rfl
    rw [List.map_cons, readRest]
    split
    · rename_i hblank
      have current : (taken ++ [line]).getLast?.getD [] = line := by rw [List.getLast?_concat, Option.getD_some]
      obtain ⟨answered, within⟩ := ih further ⟨[], current.symm⟩
      exact ⟨List.flatten_cons ▸ answered.skip (Text.allBlank_iff.1 hblank), within⟩
    · rename_i hink
      exact ⟨answered_line hlines hpending (mt Text.allBlank_iff.2 hink), within_between hlines false⟩

end Integer

theorem answered_readCharacter {text : List Char} {input : LineInput} (h : input.Within text) :
    Answered text input.left .character input.readCharacter ∧ input.readCharacter.2.Within text := by
  obtain ⟨pending, unread, ended⟩ := input
  obtain ⟨taken, rest, hlines, rfl, hpending⟩ := h
  cases pending with
  | cons c pending =>
    refine ⟨.character rfl, taken, rest, hlines, rfl, ?_⟩
    exact (List.suffix_cons c pending).trans hpending
  | nil =>
    cases rest with
    | nil => exact ⟨.noCharacter rfl rfl, within_between hlines true⟩
    | cons line rest =>
      have further : textLines text = (taken ++ [line]) ++ rest := by rw [hlines, List.append_assoc]; rfl
      cases line with
      | nil => exact absurd rfl (ne_nil_of_mem_textLines (hlines ▸ List.mem_append_right taken List.mem_cons_self))
      | cons c line =>
        refine ⟨.character rfl, taken ++ [c :: line], rest, further, rfl, ?_⟩
        rw [List.getLast?_concat]
        exact List.suffix_cons c line

/-- **Every reading is answered**, and the input stays within the text. -/
theorem answered_of_within {text : List Char} {input : LineInput} (h : input.Within text) (call : Call) :
    Answered text input.left call (input.answer call) ∧ (input.answer call).2.Within text := by
  cases call with
  | character => exact answered_readCharacter h
  | integer =>
    obtain ⟨taken, rest, hlines, hunread, hpending⟩ := h
    have answered := answered_readRest hlines hpending
    rwa [← hunread, ← unreadText_of_unread hunread] at answered

/-- **What is not blank is either answered or left.** -/
theorem Answered.ink {text left : List Char} {call : Call} {result : Except ConsoleError String × LineInput}
    (h : Answered text left call result) :
    ∃ said, result.1 = .ok said ∧ Text.ink said.toList ++ Text.ink result.2.left = Text.ink left := by
  cases h with
  | @character c next hleft =>
    refine ⟨String.singleton c, rfl, ?_⟩
    rw [hleft, String.toList_singleton, ← Text.ink_append]
    rfl
  | noCharacter hleft hnext => exact ⟨"", rfl, by rw [hleft, hnext]; rfl⟩
  | @integer blanks piece line next hblanks hleft =>
    refine ⟨_, rfl, ?_⟩
    rw [hleft, String.toList_ofList, Text.ink_trimChars, Text.ink_append, Text.ink_append, Text.ink_blank hblanks,
      List.nil_append]
  | noInteger hblank hnext => exact ⟨"", rfl, by rw [hnext, Text.ink_blank hblank]; rfl⟩

/-! ## Many readings -/

/-- **A row of readings** answers or leaves all that is not blank, in order. -/
theorem answers_of_within {text : List Char} {input : LineInput} (h : input.Within text) (calls : List Call) :
    ∃ said : List String, (input.answers calls).1 = said.map .ok ∧
      Text.ink (said.flatMap String.toList) ++ Text.ink (input.answers calls).2.left = Text.ink input.left ∧
      (input.answers calls).2.Within text := by
  induction calls generalizing input with
  | nil => exact ⟨[], rfl, rfl, h⟩
  | cons call calls ih =>
    obtain ⟨answered, within⟩ := answered_of_within h call
    obtain ⟨said, hsaid, hink⟩ := answered.ink
    obtain ⟨more, hmore, hrest, hlast⟩ := ih within
    refine ⟨said :: more, ?_, ?_, hlast⟩
    · exact congrArg₂ List.cons hsaid hmore
    · rw [List.flatMap_cons, Text.ink_append, List.append_assoc, ← hink, ← hrest]
      rfl

/-- **Nothing is lost and nothing is read twice.** Let any text be the input of a program that reads characters and
integers in any order. Every reading is answered. The answers one after the other, what is pending of the current line
and the lines that are still unread are together the whole text, once blanks are left out; and what is left is the end
of the text. The next reading, whichever it is, answers the next character, or an integer's text from the first line
with anything left on it, or no text if there is nothing of that kind any more. -/
theorem input_conserved (text : String) (calls : List Call) (call : Call) :
    ∃ said input, (ofText text).answers calls = (said.map .ok, input) ∧
      Text.ink (String.join said).toList ++ Text.ink input.pending ++ Text.ink input.unreadText =
        Text.ink text.toList ∧
      input.left <:+ text.toList ∧ Answered text.toList input.left call (input.answer call) := by
  obtain ⟨said, hsaid, hink, hlast⟩ := answers_of_within (within_ofText text) calls
  refine ⟨said, _, Prod.ext hsaid rfl, ?_, hlast.left_suffix, (answered_of_within hlast call).1⟩
  rw [left_ofText] at hink
  rw [String.toList_join, List.append_assoc, ← Text.ink_append, ← hink]
  rfl

-- an integer takes the rest of its line, and a character after it begins the next line
example : (answers (ofLines ((textLines "a\n \n 42 b\nc".toList).map some))
    [.character, .integer, .character, .integer, .character]).1 = [.ok "a", .ok "42 b", .ok "c", .ok "", .ok ""] := rfl

end LineInput

end Playscript
