/-
Plays that are read part by part.

- `Draft.Stands`: what a draft is once the speech that is going on has been put into its scene;
- `AddsLine`, `AddsScene`, `AddsAct`, `AddsPersona`: text that adds a part of a play, whatever has been read before;
- `addsScene`, `addsAct`: a part of a play is added by its heading and the texts that add its own parts;
- `parse_of_parts`: so a text made of such texts is parsed as the play made of these parts;
- `parse_composed`: any layout of a composed play whose free texts fit is parsed as the play with them trimmed;
- `parse_laidOut`: which is the play itself if it is legible.
-/
import Playscript.Proofs.Play.Legible

namespace Playscript

/-! ## The last element of a list -/

theorem modifyLast_append {α : Type} (f : α → α) (as : List α) (a : α) : modifyLast f (as ++ [a]) = as ++ [f a] := by
  induction as with
  | nil => rfl
  | cons b as ih =>
    cases as with
    | nil => rfl
    | cons c as => exact congrArg (b :: ·) ih

theorem isEmpty_modifyLast {α : Type} (f : α → α) (as : List α) : (modifyLast f as).isEmpty = as.isEmpty := by
  rcases List.eq_nil_or_concat as with rfl | ⟨front, a, rfl⟩
  · rfl
  · rw [List.concat_eq_append, modifyLast_append]
    cases front <;> rfl

namespace Draft

/-! ## What a draft stands for -/

theorem inScene_addLine (draft : Draft) (line : PlayLine) : (draft.addLine line).inScene = draft.inScene := by
  unfold inScene addLine
  rcases List.eq_nil_or_concat draft.acts with hnil | ⟨front, act, hacts⟩
  · rw [hnil]
    rfl
  · dsimp only
    rw [hacts, List.concat_eq_append, modifyLast_append, List.getLast?_concat, List.getLast?_concat]
    simp only [isEmpty_modifyLast]

section CloseSpeech

variable (draft : Draft)

@[simp] theorem title_closeSpeech : draft.closeSpeech.title = draft.title := by
  unfold closeSpeech
  split <;> rfl

@[simp] theorem personae_closeSpeech : draft.closeSpeech.personae = draft.personae := by
  unfold closeSpeech
  split <;> rfl

@[simp] theorem speech_closeSpeech : draft.closeSpeech.speech = none := by
  unfold closeSpeech
  split
  · assumption
  · rfl

@[simp] theorem isEmpty_acts_closeSpeech : draft.closeSpeech.acts.isEmpty = draft.acts.isEmpty := by
  unfold closeSpeech
  split
  · rfl
  · exact isEmpty_modifyLast _ _

@[simp] theorem inScene_closeSpeech : draft.closeSpeech.inScene = draft.inScene := by
  unfold closeSpeech
  split
  · rfl
  · exact inScene_addLine _ _

end CloseSpeech

/-- the play so far, once the speech that is going on has been put into its scene -/
structure Stands (draft : Draft) (title : String) (personae : List Persona) (acts : List PlayAct) : Prop where
  closed : draft.closeSpeech = ⟨some title, personae, acts, none⟩

namespace Stands

variable {draft : Draft} {title : String} {personae : List Persona} {acts : List PlayAct}

theorem of_closed : Stands ⟨some title, personae, acts, none⟩ title personae acts := ⟨rfl⟩

variable (h : draft.Stands title personae acts)
include h

theorem title_eq : draft.title = some title := by
  rw [← title_closeSpeech, h.closed]

theorem personae_eq : draft.personae = personae := by
  rw [← personae_closeSpeech, h.closed]

theorem isEmpty_acts : draft.acts.isEmpty = acts.isEmpty := by
  rw [← isEmpty_acts_closeSpeech, h.closed]

theorem inScene_eq : draft.inScene = inScene ⟨some title, personae, acts, none⟩ := by
  rw [← inScene_closeSpeech, h.closed]

end Stands

/-! ## Lines -/

section Steps

variable {draft : Draft} {title : String} {personae : List Persona} {acts : List PlayAct} {line : List Char}

theorem step_title (n : Nat) : blank.step (n, line) = .ok ⟨some (String.ofList line), [], [], none⟩ := rfl

theorem step_persona (hact : heading? "Act" line = none) {persona : Persona} (h : persona? line = some persona)
    (n : Nat) : step ⟨some title, personae, [], none⟩ (n, line) = .ok ⟨some title, personae ++ [persona], [], none⟩ := by
  simp [step, hact, h]

theorem step_act (h : draft.Stands title personae acts) {heading : Heading} (hact : heading? "Act" line = some heading)
    (n : Nat) : draft.step (n, line) =
      .ok ⟨some title, personae, acts ++ [⟨heading.numeral, heading.description, []⟩], none⟩ := by
  simp [step, h.title_eq, hact, h.closed]

variable {before : List PlayAct} {act : PlayAct}

theorem step_scene (h : draft.Stands title personae (before ++ [act])) (hact : heading? "Act" line = none)
    {heading : Heading} (hscene : heading? "Scene" line = some heading) (n : Nat) : draft.step (n, line) =
      .ok ⟨some title, personae,
        before ++ [{ act with scenes := act.scenes ++ [⟨heading.numeral, heading.description, []⟩] }], none⟩ := by
  have hacts : draft.acts.isEmpty = false := by simp [h.isEmpty_acts]
  simp [step, h.title_eq, hact, hacts, hscene, h.closed, addScene, modifyLast_append]

/-- a line that is no heading, in a scene -/
theorem step_readLine (h : draft.Stands title personae (before ++ [act])) (hact : heading? "Act" line = none)
    (hscene : heading? "Scene" line = none) (n : Nat) : draft.step (n, line) = draft.readLine n line := by
  have hacts : draft.acts.isEmpty = false := by simp [h.isEmpty_acts]
  simp [step, h.title_eq, hact, hacts, hscene]

variable {numeral description : String} {scenes : List PlayScene} {scene : PlayScene}

theorem inScene_append : inScene ⟨some title, personae, before ++ [⟨numeral, description, scenes ++ [scene]⟩], none⟩ =
    true := by
  simp [inScene]

theorem step_direction
    (h : draft.Stands title personae (before ++ [⟨numeral, description, scenes ++ [scene]⟩])) {text : String}
    (htext : Text.trim text = text) (n : Nat) : draft.step (n, '[' :: text.toList ++ [']']) =
      .ok ⟨some title, personae, before ++ [⟨numeral, description, scenes ++
        [{ scene with lines := scene.lines ++ [.direction text] }]⟩], none⟩ := by
  rw [List.cons_append, step_readLine h (heading?_bracket (by simp) _) (heading?_bracket (by simp) _)]
  have hinScene : draft.inScene = true := h.inScene_eq.trans inScene_append
  have trimmed := Text.trimChars_of_trim htext
  simp [readLine, hinScene, h.closed, addLine, modifyLast_append, trimmed]

/-- a name that is announced by a line of its own, and is then that of the first character who has it up to letter
case -/
structure Announces (personae : List Persona) (name : String) : Prop where
  neat : Neat name
  found : (personae.find? fun persona => Text.same persona.name name).map (·.name) = some name
  kind : lineKind (name.toList ++ [':']) = .speaker

theorem step_speaker
    (h : draft.Stands title personae (before ++ [⟨numeral, description, scenes ++ [scene]⟩])) {name : String}
    (hname : Announces personae name) (n : Nat) : draft.step (n, name.toList ++ [':']) = .ok ⟨some title, personae,
      before ++ [⟨numeral, description, scenes ++ [scene]⟩], some (name, "")⟩ := by
  obtain ⟨hact, hscene, hopen, hclose⟩ := lineKind_eq_speaker_iff.1 hname.kind
  rw [step_readLine h hact hscene]
  have hinScene : draft.inScene = true := h.inScene_eq.trans inScene_append
  have trimmed := Text.trimChars_of_trim hname.neat.2
  have hspeaker : draft.speaker? name = some name := by
    rw [speaker?, h.personae_eq]
    exact hname.found
  unfold readLine
  rw [if_neg hopen, if_pos hclose]
  simp [trimmed, hspeaker, hinScene, h.closed]

end Steps

/-! ## Text that adds a part of a play -/

/-- text that adds a line to the scene under way -/
def AddsLine (personae : List Persona) (line : PlayLine) (cs : List Char) : Prop :=
  ∀ (draft : Draft) (title : String) (before : List PlayAct) (numeral description : String) (scenes : List PlayScene)
    (scene : PlayScene), draft.Stands title personae (before ++ [⟨numeral, description, scenes ++ [scene]⟩]) →
    ∃ next, draft.Passes cs next ∧ next.Stands title personae
      (before ++ [⟨numeral, description, scenes ++ [{ scene with lines := scene.lines ++ [line] }]⟩])

/-- text that adds a scene to the act under way -/
def AddsScene (personae : List Persona) (scene : PlayScene) (cs : List Char) : Prop :=
  ∀ (draft : Draft) (title : String) (before : List PlayAct) (numeral description : String) (scenes : List PlayScene),
    draft.Stands title personae (before ++ [⟨numeral, description, scenes⟩]) →
    ∃ next, draft.Passes cs next ∧ next.Stands title personae (before ++ [⟨numeral, description, scenes ++ [scene]⟩])

/-- text that adds an act to the play -/
def AddsAct (personae : List Persona) (act : PlayAct) (cs : List Char) : Prop :=
  ∀ (draft : Draft) (title : String) (acts : List PlayAct), draft.Stands title personae acts →
    ∃ next, draft.Passes cs next ∧ next.Stands title personae (acts ++ [act])

/-- text that introduces a character -/
def AddsPersona (persona : Persona) (cs : List Char) : Prop :=
  ∀ (title : String) (personae : List Persona),
    Passes ⟨some title, personae, [], none⟩ cs ⟨some title, personae ++ [persona], [], none⟩

section Parts

variable {personae : List Persona}

theorem addsLine_direction {text : String} (h : Neat text) :
    AddsLine personae (.direction text) ("\n[".toList ++ text.toList ++ "]\n".toList) := by
  intro draft title before numeral description scenes scene hstands
  have tight : Text.Tight ('[' :: text.toList ++ [']']) := .append ⟨'[', rfl, rfl⟩ ⟨']', rfl, rfl⟩
  have parts : "\n[".toList ++ text.toList ++ "]\n".toList =
      "\n".toList ++ ('[' :: text.toList ++ [']'] ++ [] ++ "\n".toList) := by simp
  refine ⟨_, ?_, .of_closed⟩
  rw [parts]
  refine (passes_blank (by decide) draft).append (passes_line tight (by simp [h.1]) List.not_mem_nil fun n => ?_)
  have step := step_direction hstands h.2 n
  rwa [← List.append_nil ('[' :: text.toList ++ [']'])] at step

/-- a speech is added by the line of its speaker and a text that is read as what is said -/
theorem addsLine_speech {name : String} (hname : Announces personae name) {said : String} {body : List Char}
    (hbody : ∀ draft : Draft, draft.Speaking name "" → draft.Reads (inkLines body) (draft.speaking name said)) :
    AddsLine personae (.speech name (splitSentences said))
      ("\n".toList ++ name.toList ++ ":\n".toList ++ body ++ "\n".toList) := by
  intro draft title before numeral description scenes scene hstands
  have trimmed := Text.trimChars_of_trim hname.neat.2
  have tight : Text.Tight (name.toList ++ [':']) := trimmed ▸ Text.tight_mark name.toList rfl
  have parts : "\n".toList ++ name.toList ++ ":\n".toList ++ body ++ "\n".toList =
      "\n".toList ++ (name.toList ++ [':'] ++ [] ++ "\n".toList) ++ (body ++ "\n".toList) := by simp
  have newline := passes_blank (show Text.Blank "\n".toList by decide) draft
  have step := step_speaker hstands hname
  rw [← List.append_nil (name.toList ++ [':'])] at step
  have line := passes_line tight (by simp [hname.neat.1]) (show '\n' ∉ Text.dropBlankBack [] from List.not_mem_nil) step
  have read := hbody ⟨some title, personae, before ++ [⟨numeral, description, scenes ++ [scene]⟩], some (name, "")⟩
    ⟨by simp, by simp, rfl⟩
  rw [parts]
  refine ⟨_, (newline.append line).append read.passes, ⟨?_⟩⟩
  simp [closeSpeech, Draft.speaking, addLine, modifyLast_append]

/-- the heading of an act or a scene -/
theorem passes_heading {first last : Draft} (blank keyword : String) {numeral description : String}
    (hblank : Text.Blank blank.toList) (hkeyword : keyword ∈ ["Act", "Scene"]) (hnumeral : Numbers numeral)
    (hdescription : '\n' ∉ Text.dropBlankBack description.toList)
    (hstep : ∀ n rest, heading? keyword (keyword.toList ++ rest) = some ⟨numeral, Text.trim description⟩ →
      first.step (n, keyword.toList ++ rest) = .ok last) :
    first.Passes (headingText blank keyword numeral description) last := by
  obtain ⟨tight, hnewline⟩ := hnumeral.tight_heading hkeyword
  rw [headingText_eq]
  refine (passes_blank hblank first).append (passes_line tight hnewline ?_ fun n => ?_)
  · exact newline_behind_space hdescription
  · have read : heading? keyword (keyword.toList ++ (' ' :: numeral.toList ++ ':' ::
        Text.dropBlankBack (' ' :: description.toList))) = some ⟨numeral, Text.trim description⟩ := by
      rw [← List.append_assoc, heading?_line hnumeral, trim_behind_space]
    have step := hstep n _ read
    rw [List.append_assoc]
    simpa using step

/-- parts that each add themselves to what has been read add themselves in order -/
theorem passes_all {α : Type} {S : List α → Draft → Prop} {items : List α} {css : List (List Char)}
    (hadds : List.Forall₂ (fun item cs => ∀ done draft, S done draft →
      ∃ next, Passes draft cs next ∧ S (done ++ [item]) next) items css) {done : List α} {draft : Draft}
    (h : S done draft) : ∃ next, draft.Passes css.flatten next ∧ S (done ++ items) next := by
  induction hadds generalizing done draft with
  | nil => exact ⟨draft, .nil draft, by rwa [List.append_nil]⟩
  | cons hitem _ ih =>
    obtain ⟨middle, hmiddle, hS⟩ := hitem _ draft h
    obtain ⟨next, hnext, hS⟩ := ih hS
    exact ⟨next, hmiddle.append hnext, by rwa [List.append_cons]⟩

variable {numeral description : String} (hnumeral : Numbers numeral)
  (hdescription : '\n' ∉ Text.dropBlankBack description.toList)
include hnumeral hdescription

/-- **A scene is added by its heading and its lines.** -/
theorem addsScene {lines : List PlayLine} {css : List (List Char)} (h : List.Forall₂ (AddsLine personae) lines css) :
    AddsScene personae ⟨numeral, Text.trim description, lines⟩
      (headingText "\n" "Scene" numeral description ++ css.flatten) := by
  intro draft title before actNumeral actDescription scenes hstands
  have noAct : ∀ rest, heading? "Act" ("Scene".toList ++ rest) = none := fun _ => rfl
  have heading := passes_heading "\n" "Scene" (by decide) (by simp) hnumeral hdescription fun n rest hscene =>
    step_scene hstands (noAct rest) hscene n
  obtain ⟨next, hnext, hstands⟩ := passes_all (S := fun done draft => draft.Stands title personae
      (before ++ [⟨actNumeral, actDescription, scenes ++ [⟨numeral, Text.trim description, done⟩]⟩]))
    (h.imp fun _ _ hline done draft => hline draft title before actNumeral actDescription scenes
      ⟨numeral, Text.trim description, done⟩) .of_closed
  exact ⟨next, heading.append hnext, hstands⟩

/-- **An act is added by its heading and its scenes.** -/
theorem addsAct {scenes : List PlayScene} {css : List (List Char)}
    (h : List.Forall₂ (AddsScene personae) scenes css) : AddsAct personae ⟨numeral, Text.trim description, scenes⟩
      (headingText "\n\n" "Act" numeral description ++ css.flatten) := by
  intro draft title acts hstands
  have heading := passes_heading "\n\n" "Act" (by decide) (by simp) hnumeral hdescription fun n rest hact =>
    step_act hstands hact n
  obtain ⟨next, hnext, hstands⟩ := passes_all
    (S := fun done draft => draft.Stands title personae (acts ++ [⟨numeral, Text.trim description, done⟩]))
    (h.imp fun _ _ hscene done draft => hscene draft title acts numeral (Text.trim description) done) .of_closed
  exact ⟨next, heading.append hnext, hstands⟩

omit hnumeral in
/-- **A character is introduced by a line that is the heading of no act.** -/
theorem addsPersona {name : String} (hname : Neat name) (hcomma : ',' ∉ name.toList)
    (hact : heading? "Act" (name.toList ++ ',' :: ' ' :: description.toList) = none) :
    AddsPersona ⟨name, Text.trim description⟩ (Persona.text ⟨name, description⟩).toList := by
  intro title personae
  have trimmed := Text.trimChars_of_trim hname.2
  have comma : Text.isBlank ',' = false := rfl
  have tight : Text.Tight (name.toList ++ [',']) := trimmed ▸ Text.tight_mark name.toList comma
  rw [Persona.toList_text]
  refine passes_line tight (by simp [hname.1]) (newline_behind_space hdescription) fun n => ?_
  rw [List.append_assoc, List.singleton_append]
  refine step_persona ?_ ?_ n
  · rw [← Text.dropBlankBack_append comma, heading?_dropBlankBack, hact]
  · simp only [persona?, splitOnce_append hcomma, Option.map_some, trimmed, String.ofList_toList, trim_behind_space]

omit hnumeral hdescription

/-- the title, whatever it looks like -/
theorem passes_title {title : String} (hne : Text.trim title ≠ "") (hline : '\n' ∉ (Text.trim title).toList) :
    blank.Passes (title.toList ++ "\n\n".toList) ⟨some (Text.trim title), [], [], none⟩ := by
  have titled : Text.trimChars title.toList ≠ [] := by simpa [Text.trim] using hne
  obtain ⟨front, c, rest, hfront, hink, htitle, htrim⟩ := Text.trimChars_eq_cons titled
  have solid : Text.Tight [c] := ⟨⟨c, rfl, hink⟩, c, rfl, hink⟩
  rw [Text.trim, String.toList_ofList, htrim, List.mem_cons, not_or] at hline
  have line : inkLines title.toList = [Text.trimChars title.toList] := by
    rw [htrim, htitle, inkLines_blank_append hfront, ← List.singleton_append,
      inkLines_oneLine solid (by simpa using hline.1) hline.2]
    rfl
  have read : blank.Reads (inkLines title.toList) ⟨some (Text.trim title), [], [], none⟩ := by
    rw [line]
    exact .single step_title
  have parts : title.toList ++ "\n\n".toList = title.toList ++ "\n".toList ++ "\n".toList := by simp
  rw [parts]
  exact read.passes.append (passes_blank (by decide) _)

/-- **A text made of parts is parsed as the play made of them.** -/
theorem parse_of_parts {title : String} (hne : Text.trim title ≠ "") (hline : '\n' ∉ (Text.trim title).toList)
    {personaTexts : List (List Char)} (hpersonae : List.Forall₂ AddsPersona personae personaTexts)
    {acts : List PlayAct} {actTexts : List (List Char)} (hacts : List.Forall₂ (AddsAct personae) acts actTexts)
    {text : String}
    (htext : text.toList = title.toList ++ "\n\n".toList ++ personaTexts.flatten ++ actTexts.flatten) :
    Play.parse text = .ok ⟨Text.trim title, personae, acts⟩ := by
  obtain ⟨_, hintroduced, rfl⟩ := passes_all
    (S := fun done draft => draft = ⟨some (Text.trim title), done, [], none⟩)
    (hpersonae.imp fun _ _ hpersona done draft hdraft => ⟨_, hdraft ▸ hpersona _ done, rfl⟩) rfl
  obtain ⟨last, hlast, hstands⟩ := passes_all (S := fun done draft => draft.Stands (Text.trim title) personae done)
    (hacts.imp fun _ _ hact done draft => hact draft (Text.trim title) done) .of_closed
  have read : blank.Reads (inkLines text.toList) last := by
    have whole := ((passes_title hne hline).append hintroduced).append hlast [] last (.nil last)
    rwa [List.append_nil, ← htext] at whole
  have steps := read (numberedLines text) (numberedLines_snd text)
  rw [Play.parse, steps]
  simp only [bind, Except.bind, finish, hstands.title_eq, hstands.personae_eq, hstands.closed]
  rfl

end Parts

end Draft

/-! ## Composed plays -/

/-- whoever has a name of the list is found under it -/
theorem find?_of_mem {personae : List Persona} (hapart : NamesApart personae) {name : String}
    (hname : name ∈ personae.map (·.name)) :
    (personae.find? fun persona => Text.same persona.name name).map (·.name) = some name := by
  obtain ⟨persona, hpersona, rfl⟩ := List.mem_map.1 hname
  cases hfind : personae.find? fun other => Text.same other.name persona.name with
  | none => exact absurd (Text.same_refl _) (by simpa using List.find?_eq_none.1 hfind persona hpersona)
  | some other =>
    have hsame := List.find?_some hfind
    exact congrArg some (hapart persona hpersona other (List.mem_of_find?_eq_some hfind) hsame)

theorem Running.neat {text : String} (h : Running text) : Neat text :=
  ⟨h.not_mem.1, by rw [Text.trim, h.tight.trimChars, String.ofList_toList]⟩

theorem Nameable.announces {name : String} (h : Nameable name) {personae : List Persona}
    (hmem : name ∈ personae.map (·.name)) (hapart : NamesApart personae) : Draft.Announces personae name :=
  ⟨h.running.neat, find?_of_mem hapart hmem, h.lineKind_speaker⟩

section Composed

variable {personae : List Persona} (hnames : ∀ persona ∈ personae, Nameable persona.name)
  (hapart : NamesApart personae)
include hnames hapart

theorem PlayLine.Legible.adds {line : PlayLine} (h : line.Legible (personae.map (·.name))) {cs : List Char}
    (hlaid : line.LaidOut cs) : Draft.AddsLine personae line cs := by
  cases hlaid with
  | direction text => exact Draft.addsLine_direction (Running.neat h)
  | @speech speaker sentences body hwrapped =>
    obtain ⟨hmem, hsentences⟩ := h
    obtain ⟨persona, hpersona, hname⟩ := List.mem_map.1 hmem
    have nameable : Nameable speaker := hname ▸ hnames persona hpersona
    have spoken : (" ".intercalate sentences).toList = [] ∨
        Text.Spaced isSpoken (" ".intercalate sentences).toList := by
      by_cases hnone : sentences = []
      · exact .inl (by rw [hnone]; rfl)
      · exact .inr (spaced_sentences hnone hsentences)
    rw [← splitSentences_intercalate hsentences]
    refine Draft.addsLine_speech (nameable.announces hmem hapart) fun draft hspeaking => ?_
    have read := Draft.reads_speech hwrapped spoken hspeaking
    rwa [String.ofList_toList] at read

theorem PlayScene.Composed.adds {scene : PlayScene} (h : scene.Composed (personae.map (·.name)))
    (hdescription : '\n' ∉ Text.dropBlankBack scene.description.toList) {cs : List Char} (hlaid : scene.LaidOut cs) :
    Draft.AddsScene personae scene.tidy cs := by
  obtain ⟨lines, hlines, rfl⟩ := hlaid
  have adds := (List.forall₂_and_left _ _).2 ⟨h.lines, hlines⟩
  exact Draft.addsScene h.numeral.numbers hdescription (adds.imp fun _ _ h => h.1.adds hnames hapart h.2)

theorem PlayAct.Composed.adds {act : PlayAct} (h : act.Composed (personae.map (·.name)))
    (htexts : ∀ text ∈ act.freeTexts, '\n' ∉ Text.dropBlankBack text.toList) {cs : List Char}
    (hlaid : act.LaidOut cs) : Draft.AddsAct personae act.tidy cs := by
  obtain ⟨scenes, hscenes, rfl⟩ := hlaid
  obtain ⟨hdescription, htexts⟩ := List.forall_mem_cons.1 htexts
  have each : ∀ scene ∈ act.scenes, scene.Composed (personae.map (·.name)) ∧
      '\n' ∉ Text.dropBlankBack scene.description.toList := fun scene hscene =>
    ⟨h.scenes scene hscene, htexts _ (List.mem_map_of_mem hscene)⟩
  have adds := (List.forall₂_and_left _ _).2 ⟨each, hscenes⟩
  refine Draft.addsAct h.numeral.numbers hdescription (List.forall₂_map_left_iff.2 (adds.imp fun _ _ h => ?_))
  exact h.1.1.adds hnames hapart h.1.2 h.2

end Composed

theorem Nameable.adds {persona : Persona} (h : Nameable persona.name)
    (hdescription : '\n' ∉ Text.dropBlankBack persona.description.toList) :
    Draft.AddsPersona persona.tidy persona.text.toList :=
  Draft.addsPersona hdescription h.running.neat h.no_comma (h.heading?_eq_none (by simp) _)

/-- **A composed play whose free texts fit on their lines** is what any layout of it is parsed as, but for the blanks
around those texts. -/
theorem parse_composed {play : Play} (h : play.Composed) (hfits : play.Fits) (htitle : Text.trim play.title ≠ "")
    {text : String} (hlaid : play.LaidOut text) : Play.parse text = .ok play.tidy := by
  obtain ⟨acts, hacts, htext⟩ := hlaid
  obtain ⟨htexts, hactTexts⟩ := List.forall_mem_append.1 hfits.descriptions
  have names : (play.personae.map Persona.tidy).map (·.name) = play.personae.map (·.name) := by
    rw [List.map_map]
    rfl
  have nameable : ∀ persona ∈ play.personae.map Persona.tidy, Nameable persona.name :=
    List.forall_mem_map.2 h.personae
  have apart : NamesApart (play.personae.map Persona.tidy) :=
    List.forall_mem_map.2 fun persona hpersona => List.forall_mem_map.2 (h.apart persona hpersona)
  have introduced : List.Forall₂ Draft.AddsPersona (play.personae.map Persona.tidy)
      (play.personae.map fun persona => persona.text.toList) := by
    rw [List.forall₂_map_left_iff, List.forall₂_map_right_iff, List.forall₂_same]
    exact fun persona hpersona => (h.personae persona hpersona).adds (htexts _ (List.mem_map_of_mem hpersona))
  have each : ∀ act ∈ play.acts, act.Composed (play.personae.map (·.name)) ∧
      ∀ text ∈ act.freeTexts, '\n' ∉ Text.dropBlankBack text.toList := fun act hact =>
    ⟨h.acts act hact, fun text htext => hactTexts text (List.mem_flatMap.2 ⟨act, hact, htext⟩)⟩
  have adds : List.Forall₂ (Draft.AddsAct (play.personae.map Persona.tidy)) (play.acts.map PlayAct.tidy) acts := by
    refine List.forall₂_map_left_iff.2 (((List.forall₂_and_left _ _).2 ⟨each, hacts⟩).imp fun _ _ h => ?_)
    exact (names.symm ▸ h.1.1).adds nameable apart h.1.2 h.2
  exact Draft.parse_of_parts htitle hfits.title introduced adds (by rw [htext, List.flatMap_def])

/-- **A legible play is what any layout of it is parsed as.** -/
theorem parse_laidOut {play : Play} (h : play.Legible) {text : String} (hlaid : play.LaidOut text) :
    Play.parse text = .ok play := by
  have trimmed : ∀ text ∈ play.freeTexts, Text.trim text = text := fun text htext => (h.neat text htext).2
  have titled : Text.trim play.title ≠ "" := by
    rw [trimmed play.title List.mem_cons_self]
    exact h.titled
  rw [parse_composed h.composed h.fits titled hlaid, Play.tidy_eq_self trimmed]

end Playscript
