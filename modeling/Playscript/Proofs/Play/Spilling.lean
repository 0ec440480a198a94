/-
Free text that changes a play.

- `Play.bare`: all of a play but its free texts;
- `inkLines_render`: the lines of a rendered play, part by part, and among them what its free texts spill;
- `Play.Outlined`: every part of the play begins on a line of its kind; the other lines are the `rest`;
- `tally_act`: lines weigh what the parts of the play weigh, and the rest comes on top of it;
- `rest_of_counts`: so in a play that is read as itself, but for its free texts, nothing of the rest begins anything;
- `spill_act`: but what an act spills would, since a text cannot go on below a heading;
- `fits_of_parse`: so its free texts spill nothing.
-/
import Playscript.Proofs.Play.Tally
import Mathlib.Algebra.BigOperators.Group.List.Basic
import Mathlib.Algebra.Ring.Nat

namespace Playscript

/-! ## Plays without their free texts -/

def Persona.bare (persona : Persona) : Persona := { persona with description := "" }

def PlayScene.bare (scene : PlayScene) : PlayScene := { scene with description := "" }

def PlayAct.bare (act : PlayAct) : PlayAct := { act with description := "", scenes := act.scenes.map PlayScene.bare }

/-- the play without its title and descriptions: names, numerals and lines are left, in their places -/
def Play.bare (play : Play) : Play := ⟨"", play.personae.map Persona.bare, play.acts.map PlayAct.bare⟩

theorem Play.bare_tidy (play : Play) : play.tidy.bare = play.bare := by
  simp [Play.tidy, Play.bare, Persona.tidy, Persona.bare, PlayAct.tidy, PlayAct.bare, PlayScene.tidy, PlayScene.bare,
    Function.comp_def]

theorem weigh_bare (w : LineKind → Nat) (acts : List PlayAct) : weigh w (acts.map PlayAct.bare) = weigh w acts := by
  have bare : ∀ act : PlayAct, act.bare.weight w = act.weight w := fun act => by
    rw [PlayAct.weight, PlayAct.bare, List.map_map]
    rfl
  rw [weigh, List.map_map]
  exact congrArg List.sum (List.map_congr_left fun act _ => bare act)

theorem counts_of_bare {play again : Play} (h : again.bare = play.bare) :
    again.personae.length = play.personae.length ∧ ∀ w, weigh w again.acts = weigh w play.acts := by
  refine ⟨by simpa [Play.bare] using congrArg (fun bare => bare.personae.length) h, fun w => ?_⟩
  rw [← weigh_bare, ← weigh_bare w play.acts]
  exact congrArg (weigh w) (congrArg Play.acts h)

/-! ## The lines of a rendered play -/

/-- text that ends where a line ends -/
def Whole (cs : List Char) : Prop := ∀ ds, inkLines (cs ++ ds) = inkLines cs ++ inkLines ds

theorem whole_newline (cs : List Char) : Whole (cs ++ "\n".toList) := by
  intro ds
  have parts : cs ++ "\n".toList ++ ds = cs ++ '\n' :: ds := by simp
  rw [parts, inkLines_newline, inkLines_append_newline]

theorem Whole.append {cs ds : List Char} (hcs : Whole cs) (hds : Whole ds) : Whole (cs ++ ds) := by
  intro es
  rw [List.append_assoc, hcs, hds, hcs, List.append_assoc]

theorem whole_flatten {α : Type} {f : α → List Char} (h : ∀ a, Whole (f a)) (items : List α) :
    Whole (items.map f).flatten := by
  induction items with
  | nil => exact fun ds => rfl
  | cons a items ih => exact (h a).append ih

theorem inkLines_flatten {α : Type} {f : α → List Char} (h : ∀ a, Whole (f a)) (items : List α) :
    inkLines (items.map f).flatten = items.flatMap fun a => inkLines (f a) := by
  induction items with
  | nil => rfl
  | cons a items ih => rw [List.map_cons, List.flatten_cons, h a, ih, List.flatMap_cons]

theorem whole_heading (blank keyword numeral description : String) :
    Whole (headingText blank keyword numeral description) := whole_newline _

theorem PlayLine.whole (line : PlayLine) : Whole line.text.toList := by
  cases line with
  | direction text =>
    rw [PlayLine.toList_direction, show "]\n".toList = [']'] ++ "\n".toList from rfl, ← List.append_assoc]
    exact whole_newline _
  | speech speaker sentences =>
    rw [PlayLine.toList_speech]
    exact whole_newline _

theorem Persona.whole (persona : Persona) : Whole persona.text.toList := by
  rw [persona.toList_text]
  exact whole_newline _

theorem PlayScene.whole (scene : PlayScene) : Whole scene.text.toList := by
  rw [scene.toList_text]
  exact (whole_heading _ _ _ _).append (whole_flatten PlayLine.whole _)

theorem PlayAct.whole (act : PlayAct) : Whole act.text.toList := by
  rw [act.toList_text]
  exact (whole_heading _ _ _ _).append (whole_flatten PlayScene.whole _)

/-- what free texts put on later lines than their own -/
def spilled (texts : List String) : List (List Char) := texts.flatMap fun text => spill text.toList

theorem spilled_cons (text : String) (texts : List String) :
    spilled (text :: texts) = spill text.toList ++ spilled texts := rfl

/-- **The lines of a rendered play**, part by part -/
theorem inkLines_render (play : Play) : inkLines play.render.toList = inkLines play.title.toList ++
    (play.personae.flatMap fun persona => inkLines persona.text.toList) ++
      play.acts.flatMap fun act => inkLines act.text.toList := by
  have title : Whole (play.title.toList ++ "\n\n".toList) := by
    rw [show "\n\n".toList = "\n".toList ++ "\n".toList from rfl, ← List.append_assoc]
    exact whole_newline _
  have titleLines : inkLines (play.title.toList ++ "\n\n".toList) = inkLines play.title.toList := by
    rw [show "\n\n".toList = "\n".toList ++ "\n".toList from rfl, ← List.append_assoc, inkLines_append_newline,
      inkLines_append_newline]
  have personae := whole_flatten Persona.whole play.personae
  rw [play.toList_render, List.flatMap_def, title.append personae, title, titleLines,
    inkLines_flatten Persona.whole, inkLines_flatten PlayAct.whole]

/-- a line that ends with free text, and what the text spills -/
theorem inkLines_described {front : List Char} (h : Text.Tight front) (hnewline : '\n' ∉ front) (text : String) :
    ∃ rest, inkLines (front ++ ' ' :: text.toList ++ "\n".toList) = (front ++ rest) :: spill text.toList := by
  rw [inkLines_append_newline, inkLines_spill h hnewline, spill_cons (by decide)]
  exact ⟨_, rfl⟩

theorem inkLines_heading (blank : String) {keyword numeral : String} (description : String)
    (hblank : Text.Blank blank.toList) (hkeyword : keyword ∈ ["Act", "Scene"]) (hnumeral : Numbers numeral) :
    ∃ row heading, inkLines (headingText blank keyword numeral description) = row :: spill description.toList ∧
      heading? keyword row = some heading ∧ keyword.toList <+: row := by
  obtain ⟨tight, hnewline⟩ := hnumeral.tight_heading hkeyword
  obtain ⟨rest, lines⟩ := inkLines_described tight hnewline description
  have parts : keyword.toList ++ (' ' :: numeral.toList ++ [':']) ++ rest =
      keyword.toList ++ ' ' :: numeral.toList ++ ':' :: rest := by simp
  have read : heading? keyword (keyword.toList ++ ' ' :: numeral.toList ++ ':' :: rest) = _ :=
    heading?_line hnumeral rest
  rw [headingText_eq, inkLines_blank_append hblank, lines]
  exact ⟨_, _, rfl, parts ▸ read, by simp [List.append_assoc]⟩

theorem PlayAct.inkLines_heading {act : PlayAct} (h : Numbers act.numeral) :
    ∃ row, inkLines (headingText "\n\n" "Act" act.numeral act.description) = row :: spill act.description.toList ∧
      lineKind row = .act := by
  obtain ⟨row, heading, lines, hact, -⟩ := Playscript.inkLines_heading "\n\n" act.description (by decide)
    (List.mem_cons_self) h
  exact ⟨row, lines, lineKind_act hact⟩

theorem PlayScene.inkLines_heading {scene : PlayScene} (h : Numbers scene.numeral) :
    ∃ row, inkLines (headingText "\n" "Scene" scene.numeral scene.description) =
        row :: spill scene.description.toList ∧ lineKind row = .scene := by
  obtain ⟨row, heading, lines, hscene, rest, rfl⟩ := Playscript.inkLines_heading "\n" scene.description (by decide)
    (List.mem_cons_of_mem _ List.mem_cons_self) h
  have noAct : heading? "Act" ("Scene".toList ++ rest) = none := rfl
  exact ⟨_, lines, lineKind_scene noAct hscene⟩

/-- a character is introduced on one line, and what the description spills -/
theorem inkLines_persona {persona : Persona} (h : Neat persona.name) :
    ∃ row, inkLines persona.text.toList = row :: spill persona.description.toList := by
  have tight : Text.Tight (persona.name.toList ++ [',']) :=
    Text.trimChars_of_trim h.2 ▸ Text.tight_mark persona.name.toList rfl
  obtain ⟨rest, lines⟩ := inkLines_described tight (by simp [h.1]) persona.description
  rw [persona.toList_text, lines]
  exact ⟨_, rfl⟩

theorem length_personae {personae : List Persona} (h : ∀ persona ∈ personae, Neat persona.name) :
    (personae.flatMap fun persona => inkLines persona.text.toList).length =
      personae.length + (spilled (personae.map (·.description))).length := by
  induction personae with
  | nil => rfl
  | cons persona personae ih =>
    obtain ⟨hpersona, hrest⟩ := List.forall_mem_cons.1 h
    obtain ⟨row, lines⟩ := inkLines_persona hpersona
    rw [List.flatMap_cons, lines, List.map_cons, spilled_cons, List.length_append, ih hrest]
    simp only [List.length_cons, List.length_append]
    omega

/-- the list of characters ends where the acts begin -/
theorem dropWhile_acts {acts : List PlayAct} (h : ∀ act ∈ acts, Numbers act.numeral) :
    let lines := acts.flatMap fun act => inkLines act.text.toList
    lines.takeWhile aboveActs = [] ∧ lines.dropWhile aboveActs = lines := by
  cases acts with
  | nil => exact ⟨rfl, rfl⟩
  | cons act acts =>
    obtain ⟨row, heading, kind⟩ := PlayAct.inkLines_heading (h act List.mem_cons_self)
    have stop : aboveActs row = false := by simp [aboveActs, kind]
    rw [List.flatMap_cons, act.toList_text, whole_heading, heading]
    simp [stop]

/-! ## What the lines weigh -/

/-- the lines on which a line of the play goes on: what is said in it -/
def PlayLine.said : PlayLine → List (List Char)
  | .direction _ => []
  | .speech _ sentences => inkLines (speechText sentences)

/-- the lines of a scene besides those that begin it and each of its lines -/
def PlayScene.rest (scene : PlayScene) : List (List Char) :=
  spill scene.description.toList ++ scene.lines.flatMap PlayLine.said

/-- the lines of an act besides those that begin it and each of its parts -/
def PlayAct.rest (act : PlayAct) : List (List Char) := spill act.description.toList ++ act.scenes.flatMap PlayScene.rest

/-- a line of the play that begins on a line of its kind -/
def PlayLine.Outlined (line : PlayLine) : Prop :=
  ∃ row, inkLines line.text.toList = row :: line.said ∧ lineKind row = line.kind

structure PlayScene.Outlined (scene : PlayScene) : Prop where
  numeral : Numbers scene.numeral
  lines : ∀ line ∈ scene.lines, line.Outlined

structure PlayAct.Outlined (act : PlayAct) : Prop where
  numeral : Numbers act.numeral
  scenes : ∀ scene ∈ act.scenes, scene.Outlined

/-- a play all parts of which begin on a line of their kind -/
structure Play.Outlined (play : Play) : Prop where
  personae : ∀ persona ∈ play.personae, Neat persona.name
  acts : ∀ act ∈ play.acts, act.Outlined

theorem outlined_direction {text : String} (h : '\n' ∉ text.toList) : (PlayLine.direction text).Outlined := by
  have tight : Text.Tight ('[' :: text.toList ++ [']']) := .append ⟨'[', rfl, rfl⟩ ⟨']', rfl, rfl⟩
  have parts : "\n[".toList ++ text.toList ++ "]\n".toList =
      "\n".toList ++ ('[' :: text.toList ++ [']'] ++ "\n".toList) := by simp
  refine ⟨_, ?_, lineKind_bracket (text.toList ++ [']'])⟩
  rw [PlayLine.toList_direction, parts, inkLines_blank_append (by decide), inkLines_append_newline,
    inkLines_tight tight (by simp [h])]
  rfl

theorem outlined_speech {personae : List Persona} {speaker : String} (h : Draft.Announces personae speaker)
    (sentences : List String) : (PlayLine.speech speaker sentences).Outlined := by
  have tight : Text.Tight (speaker.toList ++ [':']) :=
    Text.trimChars_of_trim h.neat.2 ▸ Text.tight_mark speaker.toList rfl
  have parts : "\n".toList ++ speaker.toList ++ ":\n".toList ++ speechText sentences ++ "\n".toList =
      "\n".toList ++ (speaker.toList ++ [':'] ++ "\n".toList ++ (speechText sentences ++ "\n".toList)) := by simp
  refine ⟨_, ?_, h.kind⟩
  rw [PlayLine.toList_speech, parts, inkLines_blank_append (by decide), whole_newline, inkLines_append_newline,
    inkLines_append_newline, inkLines_tight tight (by simp [h.neat.1])]
  rfl

theorem tally_flatMap {α : Type} (w : LineKind → Nat) (f : α → List (List Char)) (items : List α) :
    tally w (items.flatMap f) = (items.map fun a => tally w (f a)).sum := by
  induction items with
  | nil => rfl
  | cons a items ih => rw [List.flatMap_cons, tally_append, ih, List.map_cons, List.sum_cons]

/-- parts of which each has lines that weigh what it weighs and some more -/
theorem tally_parts {α : Type} {w : LineKind → Nat} {rows more : α → List (List Char)} {weight : α → Nat}
    {items : List α} (h : ∀ a ∈ items, tally w (rows a) = weight a + tally w (more a)) :
    tally w (items.flatMap rows) = (items.map weight).sum + tally w (items.flatMap more) := by
  rw [tally_flatMap, tally_flatMap, List.map_congr_left h, List.sum_map_add]

section Tally

variable {w : LineKind → Nat}

theorem tally_line {line : PlayLine} (h : line.Outlined) :
    tally w (inkLines line.text.toList) = w line.kind + tally w line.said := by
  obtain ⟨row, lines, kind⟩ := h
  rw [lines, tally_cons, kind]

theorem tally_scene {scene : PlayScene} (h : scene.Outlined) :
    tally w (inkLines scene.text.toList) = scene.weight w + tally w scene.rest := by
  obtain ⟨row, heading, kind⟩ := PlayScene.inkLines_heading h.numeral
  have lines : tally w (scene.lines.flatMap fun line => inkLines line.text.toList) =
      (scene.lines.map fun line => w line.kind).sum + tally w (scene.lines.flatMap PlayLine.said) :=
    tally_parts fun line hline => tally_line (h.lines line hline)
  rw [scene.toList_text, whole_heading, heading, inkLines_flatten PlayLine.whole, tally_append, tally_cons, kind, lines,
    PlayScene.weight, PlayScene.rest, tally_append]
  omega

/-- **The lines of an act weigh what it weighs**, and the rest of them comes on top of it. -/
theorem tally_act {act : PlayAct} (h : act.Outlined) :
    tally w (inkLines act.text.toList) = act.weight w + tally w act.rest := by
  obtain ⟨row, heading, kind⟩ := PlayAct.inkLines_heading h.numeral
  have scenes : tally w (act.scenes.flatMap fun scene => inkLines scene.text.toList) =
      (act.scenes.map (PlayScene.weight w)).sum + tally w (act.scenes.flatMap PlayScene.rest) :=
    tally_parts fun scene hscene => tally_scene (h.scenes scene hscene)
  rw [act.toList_text, whole_heading, heading, inkLines_flatten PlayScene.whole, tally_append, tally_cons, kind, scenes,
    PlayAct.weight, PlayAct.rest, tally_append]
  omega

theorem tally_acts {acts : List PlayAct} (h : ∀ act ∈ acts, act.Outlined) :
    tally w (acts.flatMap fun act => inkLines act.text.toList) = weigh w acts + tally w (acts.flatMap PlayAct.rest) :=
  tally_parts fun act hact => tally_act (h act hact)

end Tally

/-! ## Reading it back -/

/-- counts the acts -/
def perAct : LineKind → Nat
  | .act => 1
  | _ => 0

/-- counts all that the lines of a play begin: acts, scenes, directions and speeches -/
def perPart : LineKind → Nat
  | .text => 0
  | _ => 1

theorem tally_perAct_dropWhile (lines : List (List Char)) :
    tally perAct (lines.dropWhile aboveActs) = tally perAct lines := by
  induction lines with
  | nil => rfl
  | cons line lines ih =>
    rw [List.dropWhile_cons]
    split
    · rename_i habove
      have hkind : lineKind line ≠ .act := by simpa [aboveActs] using habove
      have none : perAct (lineKind line) = 0 := by
        unfold perAct
        split <;> simp_all
      rw [ih, tally_cons, none, Nat.zero_add]
    · rfl

/-- the first line that is spilled is no text -/
theorem spill_eq_nil {first last : Draft} {heading : List Char} {text : String} {rest : List (List Char)}
    (h : first.Run (heading :: spill text.toList ++ rest) last) (settled : first.Settled)
    (hheading : lineKind heading = .act ∨ first.acts ≠ [] ∧ lineKind heading = .scene)
    (htext : ∀ row ∈ spill text.toList, lineKind row = .text) : spill text.toList = [] := by
  cases hspill : spill text.toList with
  | nil => rfl
  | cons line lines =>
    rw [hspill] at h htext
    exact absurd (htext line List.mem_cons_self) (h.not_text settled hheading)

/-- what the free texts of an act spill is among the rest of its lines -/
theorem spill_subset_rest {act : PlayAct} {text : String} (h : text ∈ act.freeTexts) : spill text.toList ⊆ act.rest := by
  intro row hrow
  rw [PlayAct.rest, List.mem_append, List.mem_flatMap]
  rcases List.mem_cons.1 h with rfl | hscenes
  · exact .inl hrow
  · obtain ⟨scene, hscene, rfl⟩ := List.mem_map.1 hscenes
    exact .inr ⟨scene, hscene, List.mem_append_left _ hrow⟩

theorem spill_scene {scene : PlayScene} (houtlined : scene.Outlined) {first last : Draft}
    (h : first.Run (inkLines scene.text.toList) last) (settled : first.Settled) (hacts : first.acts ≠ [])
    (htext : ∀ row ∈ spill scene.description.toList, lineKind row = .text) : spill scene.description.toList = [] := by
  obtain ⟨row, heading, kind⟩ := PlayScene.inkLines_heading houtlined.numeral
  rw [scene.toList_text, whole_heading, heading, inkLines_flatten PlayLine.whole] at h
  exact spill_eq_nil h settled (.inr ⟨hacts, kind⟩) htext

/-- **An act that is read spills nothing** if it spills nothing but text. -/
theorem spill_act {act : PlayAct} (houtlined : act.Outlined) {first last : Draft}
    (h : first.Run (inkLines act.text.toList) last) (settled : first.Settled)
    (htext : ∀ text ∈ act.freeTexts, ∀ row ∈ spill text.toList, lineKind row = .text) :
    ∀ text ∈ act.freeTexts, spill text.toList = [] := by
  obtain ⟨row, heading, kind⟩ := PlayAct.inkLines_heading houtlined.numeral
  rw [act.toList_text, whole_heading, heading, inkLines_flatten PlayScene.whole] at h
  obtain ⟨hdescription, hscenes⟩ := List.forall_mem_cons.1 htext
  have own := spill_eq_nil h settled (.inl kind) hdescription
  -- so the scenes follow the heading at once
  rw [own] at h
  cases h with
  | cons hrow hrest =>
    obtain ⟨hacts, settled, -, -⟩ := hrow.adds (w := perPart) rfl settled (.inr kind)
    refine List.forall_mem_cons.2 ⟨own, List.forall_mem_map.2 fun scene hscene => ?_⟩
    obtain ⟨here, next, hread, settled, hkeeps⟩ := Draft.Run.at_mem hrest settled hscene
    exact spill_scene (houtlined.scenes scene hscene) hread settled (hkeeps hacts)
      (hscenes _ (List.mem_map_of_mem hscene))

theorem inkLines_title {title : String} (h : Text.trim title ≠ "") :
    ∃ line later, inkLines title.toList = line :: later ∧ (later = [] → '\n' ∉ (Text.trim title).toList) := by
  have titled : Text.trimChars title.toList ≠ [] := by simpa [Text.trim] using h
  obtain ⟨front, c, rest, hfront, hink, htitle, htrim⟩ := Text.trimChars_eq_cons titled
  refine ⟨_, spill rest, by rw [htitle, inkLines_blank_append hfront, inkLines_cons_ink hink], fun hnone hmem => ?_⟩
  rw [Text.trim, String.toList_ofList, htrim, List.mem_cons] at hmem
  rcases hmem with rfl | hmem
  · cases hink
  · exact spill_eq_nil_iff.1 hnone hmem

/-- **Lines that count what a play has** have no more than it has. Acts are counted first: no line above the first act's
own heading is the heading of one, so that it ends the list of characters. Then characters are counted, and then all
that the lines of the acts begin. -/
theorem rest_of_counts {play : Play} (h : play.Outlined) {later lines : List (List Char)}
    (hlines : lines = later ++ (play.personae.flatMap fun persona => inkLines persona.text.toList) ++
      play.acts.flatMap fun act => inkLines act.text.toList)
    (hpersonae : play.personae.length = (lines.takeWhile aboveActs).length)
    (hacts : ∀ w : LineKind → Nat, w .text = 0 → weigh w play.acts = tally w (lines.dropWhile aboveActs)) :
    later = [] ∧ spilled (play.personae.map (·.description)) = [] ∧
      (∀ persona ∈ play.personae, ∀ row ∈ inkLines persona.text.toList, lineKind row ≠ .act) ∧
      ∀ row ∈ play.acts.flatMap PlayAct.rest, lineKind row = .text := by
  have above : ∀ row ∈ later ++ play.personae.flatMap fun persona => inkLines persona.text.toList,
      aboveActs row = true := by
    have count := hacts perAct rfl
    rw [tally_perAct_dropWhile, hlines, tally_append, tally_acts h.acts] at count
    intro row hrow
    have hzero := tally_eq_zero_iff.1 (show tally perAct _ = 0 by omega) row hrow
    by_contra hact
    have kind : lineKind row = .act := by simpa [aboveActs] using hact
    rw [kind] at hzero
    cases hzero
  obtain ⟨htake, hdrop⟩ := dropWhile_acts fun act hact => (h.acts act hact).numeral
  rw [hlines, List.takeWhile_append_of_pos above, htake, List.append_nil, List.length_append,
    length_personae h.personae] at hpersonae
  have parts := hacts perPart rfl
  rw [hlines, List.dropWhile_append_of_pos above, hdrop, tally_acts h.acts] at parts
  refine ⟨List.length_eq_zero_iff.1 (by omega), List.length_eq_zero_iff.1 (by omega), fun persona hpersona row hrow => ?_,
    fun row hrow => ?_⟩
  · have habove := above row (List.mem_append_right _ (List.mem_flatMap.2 ⟨persona, hpersona, hrow⟩))
    simpa [aboveActs] using habove
  · have hzero := tally_eq_zero_iff.1 (show tally perPart _ = 0 by omega) row hrow
    unfold perPart at hzero
    split at hzero <;> simp_all

/-- a composed play is outlined -/
theorem Play.Composed.outlined {play : Play} (h : play.Composed) : play.Outlined where
  personae persona hpersona := (h.personae persona hpersona).running.neat
  acts act hact := by
    refine ⟨(h.acts act hact).numeral.numbers, fun scene hscene => ?_⟩
    obtain ⟨hnumeral, hlines⟩ := (h.acts act hact).scenes scene hscene
    refine ⟨hnumeral.numbers, fun line hline => ?_⟩
    have legible := hlines line hline
    cases line with
    | direction text => exact outlined_direction (Running.not_mem legible).1
    | speech speaker sentences =>
      obtain ⟨hspeaker, -⟩ := legible
      obtain ⟨persona, hpersona, hname⟩ := List.mem_map.1 hspeaker
      have nameable : Nameable speaker := hname ▸ h.personae persona hpersona
      exact outlined_speech (nameable.announces hspeaker h.apart) sentences

/-- **A composed play is read as itself, but for its free texts, only if they fit on their lines.** -/
theorem fits_of_parse {play again : Play} (h : play.Composed) (htitle : Text.trim play.title ≠ "")
    (hparse : Play.parse play.render = .ok again) (hbare : again.bare = play.bare) : play.Fits := by
  obtain ⟨line, later, titleLines, hfits⟩ := inkLines_title htitle
  have rows := inkLines_render play
  rw [titleLines, List.cons_append, List.cons_append] at rows
  obtain ⟨hpersonae, hacts⟩ := Draft.counts_of_parse hparse rows
  obtain ⟨samePersonae, sameActs⟩ := counts_of_bare hbare
  obtain ⟨noLater, noPersona, -, restText⟩ := rest_of_counts h.outlined rfl (samePersonae ▸ hpersonae) fun w htext =>
    sameActs w ▸ hacts w htext
  refine ⟨hfits noLater, fun text htext => spill_eq_nil_iff.1 ?_⟩
  rcases List.mem_append.1 htext with hdescription | hin
  · exact List.flatMap_eq_nil_iff.1 noPersona text hdescription
  · obtain ⟨act, hact, htext⟩ := List.mem_flatMap.1 hin
    obtain ⟨last, hrun, -, -⟩ := Draft.run_of_parse hparse rows
    obtain ⟨below, hfront, hback⟩ := hrun.split
    obtain ⟨settled, -⟩ := hfront.keeps (.of_none rfl)
    obtain ⟨here, next, hread, settled, -⟩ := hback.at_mem settled hact
    have onlyText : ∀ text ∈ act.freeTexts, ∀ row ∈ spill text.toList, lineKind row = .text := fun text htext row hrow =>
      restText row (List.mem_flatMap.2 ⟨act, hact, spill_subset_rest htext hrow⟩)
    exact spill_act (h.outlined.acts act hact) hread settled onlyText text htext

end Playscript
