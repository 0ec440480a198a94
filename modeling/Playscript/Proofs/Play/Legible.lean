/-
Plays that come back from their text.

- `Play.Composed`: names cannot be taken for headings, and speeches are made of sentences;
- `Play.Fits`: free texts fit on their lines; a composed play is `Play.Legible` if they are `Neat` as well;
- `Nameable.heading?_eq_none`: no line that begins with a name of such a play is a heading;
- `Draft.Passes`: text in front of more text that takes a draft to another draft (`passes_line`, `Passes.append`).
-/
import Playscript.Proofs.Play.Sentences

namespace Playscript

/-! ## Legible plays -/

/-- free text that fits on a line and has no blanks at its ends -/
def Neat (text : String) : Prop := '\n' ∉ text.toList ∧ Text.trim text = text

instance (text : String) : Decidable (Neat text) :=
  inferInstanceAs (Decidable ('\n' ∉ text.toList ∧ Text.trim text = text))

/-- a name that a line may begin with: it has no comma, and no heading begins like it -/
structure Nameable (name : String) : Prop where
  running : Running name
  no_comma : ',' ∉ name.toList
  no_heading : ∀ keyword ∈ ["Act", "Scene"],
    Text.sameFolded (name.toList.take keyword.length) (keyword.toList.take name.length) = false

/-- one word that may number an act or a scene -/
def IsNumeral (numeral : String) : Prop := Running numeral ∧ ' ' ∉ numeral.toList

def PlayLine.Legible (names : List String) : PlayLine → Prop
  | .direction text => Running text
  | .speech speaker sentences => speaker ∈ names ∧ ∀ sentence ∈ sentences, IsSentence sentence

structure PlayScene.Composed (names : List String) (scene : PlayScene) : Prop where
  numeral : IsNumeral scene.numeral
  lines : ∀ line ∈ scene.lines, line.Legible names

structure PlayAct.Composed (names : List String) (act : PlayAct) : Prop where
  numeral : IsNumeral act.numeral
  scenes : ∀ scene ∈ act.scenes, scene.Composed names

/-- no two personae have names that differ in letter case only -/
def NamesApart (personae : List Persona) : Prop :=
  ∀ persona ∈ personae, ∀ other ∈ personae, Text.same other.name persona.name = true → other.name = persona.name

/-- all that is not free text in the play can be read on its own -/
structure Play.Composed (play : Play) : Prop where
  personae : ∀ persona ∈ play.personae, Nameable persona.name
  apart : NamesApart play.personae
  acts : ∀ act ∈ play.acts, act.Composed (play.personae.map (·.name))

/-! ## Free texts -/

def PlayAct.freeTexts (act : PlayAct) : List String := act.description :: act.scenes.map (·.description)

/-- the texts of a play that are not composed: its title and all descriptions -/
def Play.freeTexts (play : Play) : List String :=
  play.title :: (play.personae.map (·.description) ++ play.acts.flatMap PlayAct.freeTexts)

structure Play.Legible (play : Play) : Prop where
  composed : play.Composed
  titled : play.title ≠ ""
  neat : ∀ text ∈ play.freeTexts, Neat text

/-- every free text fits on its line: nothing but blanks follows a line feed in it or, in the title, precedes one -/
structure Play.Fits (play : Play) : Prop where
  title : '\n' ∉ (Text.trim play.title).toList
  descriptions : ∀ text ∈ play.freeTexts.tail, '\n' ∉ Text.dropBlankBack text.toList

def Persona.tidy (persona : Persona) : Persona := { persona with description := Text.trim persona.description }

def PlayScene.tidy (scene : PlayScene) : PlayScene := { scene with description := Text.trim scene.description }

def PlayAct.tidy (act : PlayAct) : PlayAct :=
  { act with description := Text.trim act.description, scenes := act.scenes.map PlayScene.tidy }

/-- the play with its free texts trimmed -/
def Play.tidy (play : Play) : Play :=
  ⟨Text.trim play.title, play.personae.map Persona.tidy, play.acts.map PlayAct.tidy⟩

theorem map_eq_self {α : Type} {f : α → α} {items : List α} (h : ∀ a ∈ items, f a = a) : items.map f = items :=
  (List.map_congr_left h).trans (List.map_id items)

theorem Play.tidy_eq_self {play : Play} (h : ∀ text ∈ play.freeTexts, Text.trim text = text) : play.tidy = play := by
  obtain ⟨title, descriptions⟩ := List.forall_mem_cons.1 h
  obtain ⟨personae, acts⟩ := List.forall_mem_append.1 descriptions
  have persona : ∀ persona ∈ play.personae, persona.tidy = persona := fun persona hpersona => by
    rw [Persona.tidy, personae _ (List.mem_map_of_mem hpersona)]
  have act : ∀ act ∈ play.acts, act.tidy = act := fun act hact => by
    obtain ⟨description, scenes⟩ := List.forall_mem_cons.1 fun text htext =>
      acts text (List.mem_flatMap.2 ⟨act, hact, htext⟩)
    have scene : ∀ scene ∈ act.scenes, scene.tidy = scene := fun scene hscene => by
      rw [PlayScene.tidy, scenes _ (List.mem_map_of_mem hscene)]
    rw [PlayAct.tidy, description, map_eq_self scene]
  rw [Play.tidy, title, map_eq_self persona, map_eq_self act]

/-- neat free texts fit -/
theorem Play.Legible.fits {play : Play} (h : play.Legible) : play.Fits where
  title hmem := by
    obtain ⟨hnewline, htrim⟩ := h.neat play.title List.mem_cons_self
    exact hnewline (htrim ▸ hmem)
  descriptions text htext hmem :=
    (h.neat text (List.mem_cons_of_mem _ htext)).1 (Text.mem_of_mem_dropBlankBack hmem)

/-! ## Single lines -/

theorem isBlank_of_isSimple {c : Char} (h : isSimple c = true) : Text.isBlank c = false :=
  isBlank_of_isSpoken (isSpoken_of_isSimple h)

theorem Running.tight {text : String} (h : Running text) : Text.Tight text.toList :=
  Text.Spaced.tight (fun _ => isBlank_of_isSimple) h

theorem Running.not_mem {text : String} (h : Running text) :
    '\n' ∉ text.toList ∧ ':' ∉ text.toList ∧ '[' ∉ text.toList := by
  refine ⟨fun hmem => ?_, fun hmem => ?_, fun hmem => ?_⟩
  all_goals
    rcases Text.Spaced.mem h hmem with hspace | hsimple
    · cases hspace
    · exact absurd hsimple (by decide)

/-- what is read of free text behind a space -/
theorem trim_behind_space (text : String) :
    String.ofList (Text.trimChars (Text.dropBlankBack (' ' :: text.toList))) = Text.trim text := by
  have hspace : Text.trimChars (' ' :: text.toList) = Text.trimChars text.toList := by
    simp [Text.trimChars, Text.dropBlankFront, Text.isBlank, Text.isAscii]
  rw [Text.trimChars_dropBlankBack, hspace]
  rfl

/-- free text behind a space has no more lines than the text -/
theorem newline_behind_space {text : String} (h : '\n' ∉ Text.dropBlankBack text.toList) :
    '\n' ∉ Text.dropBlankBack (' ' :: text.toList) := by
  rw [← spill_eq_nil_iff, spill_cons (by decide)]
  exact spill_eq_nil_iff.2 h

theorem sameFolded_take {a b : List Char} (h : Text.sameFolded a b = true) (n : Nat) :
    Text.sameFolded (a.take n) (b.take n) = true :=
  Text.sameFolded_iff.2 (Text.foldCase_take (Text.sameFolded_iff.1 h) n)

/-- no line that begins with such a name is a heading -/
theorem Nameable.heading?_eq_none {name : String} (h : Nameable name) {keyword : String}
    (hkeyword : keyword ∈ ["Act", "Scene"]) (rest : List Char) : heading? keyword (name.toList ++ rest) = none := by
  unfold heading?
  refine if_neg fun hsame => ?_
  have hfront := sameFolded_take hsame name.toList.length
  rw [List.take_take, Nat.min_comm, ← List.take_take, List.take_left, String.length_toList,
    h.no_heading keyword hkeyword] at hfront
  cases hfront

theorem IsNumeral.numbers {numeral : String} (h : IsNumeral numeral) : Numbers numeral := by
  obtain ⟨running, hspace⟩ := h
  obtain ⟨-, hcolon, -⟩ := running.not_mem
  refine ⟨running.tight.ne_nil, fun c hc => ?_, hcolon⟩
  rcases Text.Spaced.mem running hc with rfl | hsimple
  · exact absurd hc hspace
  · exact isBlank_of_isSimple hsimple

theorem Nameable.lineKind_speaker {name : String} (h : Nameable name) : lineKind (name.toList ++ [':']) = .speaker := by
  obtain ⟨-, -, hbracket⟩ := h.running.not_mem
  have hopen : (name.toList ++ [':']).head? ≠ some '[' := fun e => by
    have := List.mem_of_head? e
    simp [hbracket] at this
  exact lineKind_eq_speaker_iff.2
    ⟨h.heading?_eq_none (by simp) _, h.heading?_eq_none (by simp) _, hopen, List.getLast?_concat⟩

/-! ## Text in front of more text -/

namespace Draft

/-- text in front of whatever text leads from the first draft to the second -/
def Passes (first : Draft) (cs : List Char) (last : Draft) : Prop :=
  ∀ rest final, last.Reads (inkLines rest) final → first.Reads (inkLines (cs ++ rest)) final

theorem Passes.nil (draft : Draft) : draft.Passes [] draft := fun _ _ h => h

theorem Passes.append {first middle last : Draft} {cs ds : List Char} (h : first.Passes cs middle)
    (h' : middle.Passes ds last) : first.Passes (cs ++ ds) last := by
  intro rest final hrest
  rw [List.append_assoc]
  exact h _ final (h' rest final hrest)

theorem passes_blank {cs : List Char} (h : Text.Blank cs) (draft : Draft) : draft.Passes cs draft := by
  intro rest final hrest
  rwa [inkLines_blank_append h]

/-- whole lines -/
theorem Reads.passes {first last : Draft} {cs : List Char} (h : first.Reads (inkLines cs) last) :
    first.Passes (cs ++ "\n".toList) last := by
  intro rest final hrest
  have parts : cs ++ "\n".toList ++ rest = cs ++ '\n' :: rest := by simp
  rw [parts, inkLines_newline]
  exact h.append hrest

/-- one line that begins with some text -/
theorem passes_line {first last : Draft} {front rest : List Char} (htight : Text.Tight front) (hfront : '\n' ∉ front)
    (hrest : '\n' ∉ Text.dropBlankBack rest)
    (hstep : ∀ n, first.step (n, front ++ Text.dropBlankBack rest) = .ok last) :
    first.Passes (front ++ rest ++ "\n".toList) last := by
  refine Reads.passes ?_
  rw [inkLines_oneLine htight hfront hrest]
  exact .single hstep

end Draft

end Playscript
