/-
Reading a play loses nothing.

- `Text.substance`: what a text has besides its blanks and the case of its letters; it is put together as texts are, and
  the lines of a text have all of it (`substance_inkLines`);
- `substance_heading`, `substance_persona?`, `substance_speaker?`: what is read from one line has the substance of it;
- `Draft.shown`: what has been read so far, the speech that is going on at its end;
- `Advances.shown`: whatever line is taken, its substance is added at the end, and `shown_of_steps`: so are many lines';
- `ink_render_of_parse`: the rendering of a parsed play has the substance of its text.
-/
import Playscript.Proofs.Play.Parsed

namespace Playscript

/-! ## Substance -/

namespace Text

/-- what is not blank in a text, in small letters -/
def substance (cs : List Char) : List Char := foldCase (ink cs)

@[simp] theorem substance_nil : substance [] = [] := rfl

@[simp] theorem substance_append (cs ds : List Char) : substance (cs ++ ds) = substance cs ++ substance ds := by
  rw [substance, ink_append, foldCase_append]
  rfl

@[simp] theorem substance_space (cs : List Char) : substance (' ' :: cs) = substance cs := rfl

@[simp] theorem substance_newline (cs : List Char) : substance ('\n' :: cs) = substance cs := rfl

/-- the marks of a layout are no blanks -/
@[simp] theorem substance_mark {mark : Char} (h : mark ∈ [':', ',', '[', ']']) (cs : List Char) :
    substance (mark :: cs) = mark :: substance cs := by
  simp only [List.mem_cons, List.not_mem_nil, or_false] at h
  rcases h with rfl | rfl | rfl | rfl <;> rfl

@[simp] theorem substance_trimChars (cs : List Char) : substance (trimChars cs) = substance cs := by
  rw [substance, ink_trimChars]
  rfl

theorem substance_flatMap {α : Type} (f : α → List Char) (items : List α) :
    substance (items.flatMap f) = items.flatMap fun a => substance (f a) := by
  induction items with
  | nil => rfl
  | cons a items ih => rw [List.flatMap_cons, substance_append, ih, List.flatMap_cons]

/-- texts that differ in letter case only have the same substance -/
theorem substance_congr {cs ds : List Char} (h : foldCase cs = foldCase ds) : substance cs = substance ds := by
  have folded (cs : List Char) : substance cs = ink (foldCase cs) := by
    have blanks : (fun c => !isBlank c) ∘ Char.toLower = fun c => !isBlank c :=
      funext fun c => by rw [Function.comp_apply, isBlank_toLower]
    rw [ink, foldCase, List.filter_map, blanks]
    rfl
  rw [folded, folded, h]

end Text

open Text (substance)

theorem substance_splitLines (cs : List Char) : (splitLines cs).flatMap substance = substance cs := by
  induction cs with
  | nil => rfl
  | cons c cs ih =>
    have parts : substance (c :: cs) = substance [c] ++ substance cs := Text.substance_append [c] cs
    rw [splitLines, parts, ← ih]
    split_ifs with hc
    · rw [hc]
      rfl
    · cases hlines : splitLines cs with
      | nil => exact absurd hlines (splitLines_ne_nil cs)
      | cons line lines =>
        have first : substance (c :: line) = substance [c] ++ substance line := Text.substance_append [c] line
        rw [Text.extendFirst, List.flatMap_cons, List.flatMap_cons, first, List.append_assoc]

/-- **The lines of a text have all its substance.** -/
theorem substance_inkLines (cs : List Char) : (inkLines cs).flatMap substance = substance cs := by
  rw [inkLines, ← substance_splitLines cs]
  induction splitLines cs with
  | nil => rfl
  | cons line lines ih =>
    rw [List.map_cons, List.filter_cons, List.flatMap_cons, ← Text.substance_trimChars line]
    split_ifs with hne
    · rw [List.flatMap_cons, ih]
    -- a line of which nothing is left had no substance
    · have hnil : Text.trimChars line = [] := by simpa using hne
      rw [hnil, ih, Text.substance_nil, List.nil_append]

/-! ## What is read from a line -/

theorem substance_heading {keyword : String} {line : List Char} {heading : Heading}
    (h : heading? keyword line = some heading) (blank : String) (hblank : substance blank.toList = []) :
    substance (headingText blank keyword heading.numeral heading.description) = substance line := by
  obtain ⟨front, before, after, parts, rfl⟩ := exists_headingParts h
  have named : substance keyword.toList = substance front :=
    Text.substance_congr (Text.sameFolded_iff.1 parts.keyword).symm
  rw [parts.cut]
  simp [headingText, hblank, named]

theorem substance_persona? {line : List Char} {persona : Persona} (h : persona? line = some persona) :
    substance persona.text.toList = substance line := by
  obtain ⟨⟨name, description⟩, hsplit, rfl⟩ := Option.map_eq_some_iff.1 h
  obtain ⟨rfl, -⟩ := exists_of_splitOnce hsplit
  rw [Persona.toList_text]
  simp

theorem substance_extended (said : String) (line : List Char) :
    substance (Draft.extended said line).toList = substance said.toList ++ substance line := by
  unfold Draft.extended
  split_ifs with hsaid
  · simp [hsaid]
  · simp

theorem substance_speech (speaker text : String) :
    substance (PlayLine.speech speaker (splitSentences text)).text.toList =
      substance (speaker.toList ++ ':' :: text.toList) := by
  have said : substance ([' '].intercalate ((splitSentences text).map String.toList)) = substance text.toList := by
    rw [toList_splitSentences]
    exact congrArg Text.foldCase ((ink_intercalate _).trans (ink_sentencesOf text.toList))
  rw [PlayLine.toList_speech, speechText, String.toList_intercalate]
  simp [said]

/-! ## Drafts -/

theorem flatMap_modifyLast {α : Type} {f : α → α} {g : α → List Char} {more : List Char} {as : List α}
    (hne : as ≠ []) (hlast : ∀ a, as.getLast? = some a → g (f a) = g a ++ more) :
    (modifyLast f as).flatMap g = as.flatMap g ++ more := by
  rcases List.eq_nil_or_concat as with hnil | ⟨front, a, rfl⟩
  · exact absurd hnil hne
  · rw [List.concat_eq_append] at hlast ⊢
    rw [modifyLast_append, List.flatMap_append, List.flatMap_append, List.append_assoc]
    simp [hlast a List.getLast?_concat]

namespace Draft

/-- the substance of acts as they are laid out -/
def actsShown (acts : List PlayAct) : List Char := acts.flatMap fun act => substance act.text.toList

/-- the speech that is going on, under the name of its speaker -/
def speechShown (draft : Draft) : List Char :=
  match draft.speech with
  | none => []
  | some (speaker, text) => substance (speaker.toList ++ ':' :: text.toList)

/-- the substance of what has been read -/
def shown (draft : Draft) : List Char :=
  substance (draft.title.getD "").toList ++ (draft.personae.flatMap fun persona => substance persona.text.toList) ++
    actsShown draft.acts ++ draft.speechShown

theorem actsShown_addLine {draft : Draft} (h : draft.inScene = true) (line : PlayLine) :
    actsShown (draft.addLine line).acts = actsShown draft.acts ++ substance line.text.toList := by
  refine flatMap_modifyLast (acts_ne_nil_of_inScene h) fun act hact => ?_
  have hscenes : act.scenes ≠ [] := by simpa [inScene, hact] using h
  have grown : (modifyLast (fun scene => { scene with lines := scene.lines ++ [line] }) act.scenes).flatMap
      (fun scene => substance scene.text.toList) =
        (act.scenes.flatMap fun scene => substance scene.text.toList) ++ substance line.text.toList :=
    flatMap_modifyLast hscenes fun scene _ => by simp [PlayScene.toList_text]
  rw [PlayAct.toList_text, PlayAct.toList_text]
  simp only [← List.flatMap_def, Text.substance_append, Text.substance_flatMap, grown, List.append_assoc]

theorem actsShown_addScene {draft : Draft} (h : draft.acts ≠ []) (scene : PlayScene) :
    actsShown (draft.addScene scene).acts = actsShown draft.acts ++ substance scene.text.toList := by
  refine flatMap_modifyLast h fun act _ => ?_
  simp [PlayAct.toList_text]

/-- a speech that ends stays where it was -/
theorem actsShown_closeSpeech {draft : Draft} (h : draft.Settled) :
    actsShown draft.closeSpeech.acts = actsShown draft.acts ++ draft.speechShown := by
  cases hspeech : draft.speech with
  | none => simp [closeSpeech, speechShown, hspeech]
  | some said =>
    have hscene : inScene { draft with speech := none } = true := h (by simp [hspeech])
    have added := actsShown_addLine hscene (.speech said.1 (splitSentences said.2))
    rw [substance_speech] at added
    simpa only [closeSpeech, speechShown, hspeech] using added

theorem shown_closeSpeech {draft : Draft} (h : draft.Settled) : draft.closeSpeech.shown = draft.shown := by
  have quiet : draft.closeSpeech.speechShown = [] := by rw [speechShown, speech_closeSpeech]
  rw [shown, shown, actsShown_closeSpeech h, personae_closeSpeech, title_closeSpeech, quiet, List.append_nil,
    List.append_assoc, List.append_assoc, List.append_assoc]

/-! ## Lines -/

theorem shown_grow {draft : Draft} (quiet : draft.speech = none) {acts : List PlayAct} {more : List Char}
    (h : actsShown acts = actsShown draft.acts ++ more) : shown { draft with acts := acts } = draft.shown ++ more := by
  simp [shown, speechShown, quiet, h]

/-- **A line adds its substance at the end**, whichever part of the play it goes to. -/
theorem Advances.shown {draft next : Draft} {line : List Char} (h : draft.Advances line next)
    (settled : draft.Settled) : next.shown = draft.shown ++ substance line := by
  have quiet := speech_closeSpeech draft
  rw [← shown_closeSpeech settled]
  cases h with
  | @persona persona hnil hact hpersona =>
    -- above the first act nobody speaks
    have hspeech : draft.speech = none := by
      by_contra hne
      exact acts_ne_nil_of_inScene (settled hne) hnil
    have closed : draft.closeSpeech = draft := by rw [closeSpeech, hspeech]
    rw [closed, ← substance_persona? hpersona]
    simp [Draft.shown, speechShown, actsShown, hspeech, hnil]
  | @act heading hact =>
    rw [← substance_heading hact "\n\n" rfl]
    apply shown_grow quiet
    simp [actsShown, PlayAct.toList_text]
  | @scene heading hacts hact hscene =>
    have hclosed : draft.closeSpeech.acts ≠ [] := by
      rwa [Ne, ← List.isEmpty_iff, isEmpty_acts_closeSpeech, List.isEmpty_iff]
    rw [← substance_heading hscene "\n" rfl]
    apply shown_grow quiet
    refine (actsShown_addScene hclosed _).trans ?_
    simp [PlayScene.toList_text]
  | @direction inner hin hline =>
    have hclosed : draft.closeSpeech.inScene = true := (inScene_closeSpeech draft).trans hin
    apply shown_grow quiet
    refine (actsShown_addLine hclosed _).trans ?_
    rw [PlayLine.toList_direction, hline]
    simp
  | @speaker front name hin hkind hline hname =>
    obtain ⟨persona, hfind, rfl⟩ := Option.map_eq_some_iff.1 hname
    have named : substance persona.name.toList = substance front := by
      have hsame := List.find?_some hfind
      rw [Text.same, String.toList_ofList, Text.sameFolded_iff] at hsame
      rw [Text.substance_congr hsame, Text.substance_trimChars]
    simp [Draft.shown, speechShown, hline, named]
  | @text speaker said hacts hkind hspeech =>
    rw [shown_closeSpeech settled]
    simp [Draft.shown, speechShown, speaking, hspeech, substance_extended]

/-- **Lines add their substance**, in their order. -/
theorem shown_of_steps {first last : Draft} {numbered : List (Nat × List Char)} (h : first.steps numbered = .ok last)
    (titled : first.title ≠ none) (settled : first.Settled) :
    last.shown = first.shown ++ (numbered.map (·.2)).flatMap substance ∧ last.Settled := by
  induction numbered generalizing first with
  | nil =>
    cases h
    exact ⟨(List.append_nil _).symm, settled⟩
  | cons line rest ih =>
    obtain ⟨middle, hstep, hrest⟩ := bind_eq_ok.1 h
    have takes : first.Takes line.2 middle := takes_of_step titled hstep
    have added : middle.shown = first.shown ++ substance line.2 := (advances_of_step titled hstep).shown settled
    obtain ⟨later, settled⟩ := ih hrest (takes.title_eq ▸ titled) (takes.keeps settled).1
    exact ⟨by rw [later, added, List.map_cons, List.flatMap_cons, List.append_assoc], settled⟩

end Draft

/-! ## Plays -/

/-- what a finished draft shows is what its play shows when it is laid out -/
theorem substance_render_of_finish {draft : Draft} {play : Play} (h : draft.finish = .ok play)
    (settled : draft.Settled) : substance play.render.toList = draft.shown := by
  obtain ⟨htitle, hpersonae, hacts⟩ := Draft.eq_of_finish h
  rw [← Draft.shown_closeSpeech settled, Play.toList_render, hpersonae, hacts]
  simp [Draft.shown, Draft.speechShown, Draft.actsShown, ← List.flatMap_def, Text.substance_flatMap, htitle]

/-- **Reading a play loses nothing.** Let any text be parsed as a play. The play, rendered, has the characters of the
text that are not blank, each as often and all in the order of the text, up to the case of ASCII letters: nothing is
dropped, nothing stands twice, and nothing has changed its place. -/
theorem ink_render_of_parse {text : String} {play : Play} (h : Play.parse text = .ok play) :
    Text.sameFolded (Text.ink play.render.toList) (Text.ink text.toList) = true := by
  obtain ⟨n, title, rest, last, hlines, hsteps, hfinish⟩ := Draft.steps_of_parse h
  obtain ⟨read, settled⟩ := Draft.shown_of_steps hsteps (by simp) (.of_none rfl)
  have lines : inkLines text.toList = title :: rest.map (·.2) := by rw [← numberedLines_snd, hlines, List.map_cons]
  have whole : substance play.render.toList = substance text.toList := by
    calc substance play.render.toList = last.shown := substance_render_of_finish hfinish settled
      _ = substance title ++ (rest.map (·.2)).flatMap substance := by
        rw [read]
        simp [Draft.shown, Draft.speechShown, Draft.actsShown]
      _ = (inkLines text.toList).flatMap substance := by rw [lines, List.flatMap_cons]
      _ = substance text.toList := substance_inkLines text.toList
  exact Text.sameFolded_iff.2 whole

/-- a play that is read with little of its layout left: blank lines, indentation, blanks around names and numerals,
speeches over several lines and cut in the middle of one, and keywords and names in either case -/
theorem ink_render_of_parse_ragged :
    let text := "\n  The Gate \n\nActaeon ,a hunter\n\n ACT  I : outside\n\nscene I:a gate\nactaeon :\n Who is\n" ++
      "  there?Speak up!\n\n[ Exit  Actaeon ]\nACTAEON:\nact ii:inside\n"
    ∃ play, Play.parse text = .ok play ∧ play.render ≠ text ∧
      Text.sameFolded (Text.ink play.render.toList) (Text.ink text.toList) = true := by
  intro text
  let play : Play := ⟨"The Gate", [⟨"Actaeon", "a hunter"⟩],
    [⟨"I", "outside", [⟨"I", "a gate", [.speech "Actaeon" ["Who is there?", "Speak up!"], .direction "Exit  Actaeon",
      .speech "Actaeon" []]⟩]⟩, ⟨"ii", "inside", []⟩]⟩
  have hparse : Play.parse text = .ok play := eq_ok_of_toOption (by decide +kernel)
  exact ⟨play, hparse, by decide, ink_render_of_parse hparse⟩

end Playscript
