/-
What every parsed play is like.

- `Speakable`: text that a speech may be made of; its sentences, put together, are such a text again;
- `Persona.Proper`, `PlayAct.Proper`, `Play.Proper`: free texts are neat, headings number acts and scenes, and speakers
  have been introduced;
- `Draft.Advances.proper`: whatever line is taken, what has been read of a play is proper;
- `proper_of_parse`: so every parsed play is proper.
-/
import Playscript.Proofs.Play.Tally

namespace Playscript

theorem neat_trimmed {cs : List Char} (h : '\n' ∉ cs) : Neat (String.ofList (Text.trimChars cs)) := by
  refine ⟨fun hmem => h ?_, ?_⟩
  · rw [String.toList_ofList] at hmem
    exact Text.mem_of_mem_trimChars hmem
  · rw [Text.trim, String.toList_ofList, Text.trimChars_trimChars]

/-! ## Speeches -/

/-- text that goes on with a speech, if it is no heading -/
structure Speakable (cs : List Char) : Prop where
  tight : Text.Tight cs
  newline : '\n' ∉ cs
  opens : cs.head? ≠ some '['
  closes : cs.getLast? ≠ some ':'

theorem Speakable.append_space {cs ds : List Char} (hcs : Speakable cs) (hds : Speakable ds) :
    Speakable (cs ++ ' ' :: ds) where
  tight := hcs.tight.append_space hds.tight
  newline := by simp [hcs.newline, hds.newline]
  opens := by
    rw [List.head?_append_of_ne_nil _ hcs.tight.ne_nil]
    exact hcs.opens
  closes := by
    rw [List.append_cons, List.getLast?_append_of_ne_nil _ hds.tight.ne_nil]
    exact hds.closes

/-- **The sentences of such a text, put together, are such a text.** They begin and end as it does, since they have all
that is not blank in it. -/
theorem Speakable.sentences {cs : List Char} (h : Speakable cs) :
    Speakable ([' '].intercalate (sentencesOf cs)) := by
  have same : Text.ink ([' '].intercalate (sentencesOf cs)) = Text.ink cs :=
    (ink_intercalate _).trans (ink_sentencesOf cs)
  have hne : sentencesOf cs ≠ [] := fun hnil => by
    rw [hnil] at same
    have head := h.tight.head?_ink
    rw [← same] at head
    exact h.tight.ne_nil (List.head?_eq_none_iff.1 head.symm)
  have tight := tight_intercalate hne (cutApart_sentencesOf cs).tight
  refine ⟨tight, fun hmem => ?_, ?_, ?_⟩
  · rcases Text.mem_intercalate hmem with hspace | ⟨sentence, hsentence, hmem⟩
    · exact absurd hspace (by decide)
    · exact h.newline (mem_of_mem_sentencesOf hsentence _ hmem)
  · rw [← tight.head?_ink, same, h.tight.head?_ink]
    exact h.opens
  · rw [← tight.getLast?_ink, same, h.tight.getLast?_ink]
    exact h.closes

/-- sentences that are cut apart again, of a text that fits on a line -/
structure Spoken (sentences : List String) : Prop where
  again : splitSentences (" ".intercalate sentences) = sentences
  text : sentences = [] ∨ Speakable (" ".intercalate sentences).toList

theorem spoken_splitSentences {text : String} (h : text = "" ∨ Speakable text.toList) :
    Spoken (splitSentences text) where
  again := splitSentences_again text
  text := by
    rcases h with rfl | h
    · exact .inl rfl
    · rw [String.toList_intercalate, toList_splitSentences]
      exact .inr h.sentences

theorem speakable_extended {said : String} (h : said = "" ∨ Speakable said.toList) {line : List Char}
    (hline : Speakable line) : Speakable (Draft.extended said line).toList := by
  unfold Draft.extended
  rcases h with rfl | h
  · rwa [if_pos rfl, String.toList_ofList]
  · have hne : said ≠ "" := fun hnil => h.tight.ne_nil (by simp [hnil])
    have parts : (said ++ " " ++ String.ofList line).toList = said.toList ++ ' ' :: line := by simp
    rw [if_neg hne, parts]
    exact h.append_space hline

/-! ## Plays -/

structure Persona.Proper (persona : Persona) : Prop where
  name : Neat persona.name
  no_comma : ',' ∉ persona.name.toList
  description : Neat persona.description

def PlayLine.Proper (personae : List Persona) : PlayLine → Prop
  | .direction text => Neat text
  | .speech speaker sentences => Draft.Announces personae speaker ∧ Spoken sentences

structure PlayScene.Proper (personae : List Persona) (scene : PlayScene) : Prop where
  numeral : Numbers scene.numeral
  description : Neat scene.description
  lines : ∀ line ∈ scene.lines, line.Proper personae

structure PlayAct.Proper (personae : List Persona) (act : PlayAct) : Prop where
  numeral : Numbers act.numeral
  description : Neat act.description
  scenes : ∀ scene ∈ act.scenes, scene.Proper personae

structure Play.Proper (play : Play) : Prop where
  titled : play.title ≠ ""
  title : Neat play.title
  personae : ∀ persona ∈ play.personae, persona.Proper
  acts : ∀ act ∈ play.acts, act.Proper play.personae

/-! ## Lines -/

theorem neat_of_heading {keyword : String} {line : List Char} {heading : Heading}
    (h : heading? keyword line = some heading) (hline : '\n' ∉ line) : Neat heading.description := by
  obtain ⟨front, before, after, parts, rfl⟩ := exists_headingParts h
  exact neat_trimmed fun hmem => hline (by simp [parts.cut, hmem])

theorem proper_of_persona? {line : List Char} {persona : Persona} (h : persona? line = some persona)
    (hline : '\n' ∉ line) : persona.Proper := by
  obtain ⟨⟨name, description⟩, hsplit, rfl⟩ := Option.map_eq_some_iff.1 h
  obtain ⟨rfl, hcomma⟩ := exists_of_splitOnce hsplit
  refine ⟨neat_trimmed fun hmem => hline (by simp [hmem]), fun hmem => hcomma ?_,
    neat_trimmed fun hmem => hline (by simp [hmem])⟩
  rw [String.toList_ofList] at hmem
  exact Text.mem_of_mem_trimChars hmem

namespace Draft

theorem Announces.append {personae : List Persona} {name : String} (h : Announces personae name)
    (more : List Persona) : Announces (personae ++ more) name := by
  obtain ⟨persona, hfind, hname⟩ := Option.map_eq_some_iff.1 h.found
  exact ⟨h.neat, by rw [List.find?_append, hfind]; exact congrArg some hname, h.kind⟩

/-- **The name of whoever a line lets speak** could stand in the line itself. The line has it up to letter case, perhaps
with blanks before the colon, and neither makes a heading or a direction of what is none. -/
theorem announces_of_line {personae : List Persona} (hneat : ∀ persona ∈ personae, Neat persona.name)
    {front : List Char} (htight : Text.Tight (front ++ [':'])) (hkind : lineKind (front ++ [':']) = .speaker)
    {name : String} (hname : (personae.find? fun persona =>
      Text.same persona.name (String.ofList (Text.trimChars front))).map (·.name) = some name) :
    Announces personae name := by
  obtain ⟨persona, hfind, rfl⟩ := Option.map_eq_some_iff.1 hname
  have folded : Text.foldCase persona.name.toList = Text.foldCase (Text.trimChars front) := by
    have hsame := List.find?_some hfind
    rw [Text.same, String.toList_ofList] at hsame
    exact Text.sameFolded_iff.1 hsame
  obtain ⟨hact, hscene, hopen, -⟩ := lineKind_eq_speaker_iff.1 hkind
  obtain ⟨before, pad, hbefore, hpad, parts⟩ := Text.exists_padding front
  -- no blanks stand before the name, since nothing does in a line
  have hnone : before = [] := by
    cases before with
    | nil => rfl
    | cons b before =>
      obtain ⟨c, hc, hink⟩ := htight.first
      rw [parts] at hc
      obtain rfl : b = c := by simpa using hc
      rw [hbefore b List.mem_cons_self] at hink
      cases hink
  rw [hnone, List.nil_append] at parts
  generalize Text.trimChars front = shown at parts folded hname
  rw [parts] at hact hscene hopen
  have same : Text.foldCase (shown ++ [':']) = Text.foldCase (persona.name.toList ++ [':']) := by
    rw [Text.foldCase_append, Text.foldCase_append, folded]
  have opens : (persona.name.toList ++ [':']).head? ≠ some '[' := fun hhead => by
    have head := congrArg List.head? same
    rw [Text.foldCase, Text.foldCase, List.head?_map, List.head?_map, hhead] at head
    obtain ⟨c, hc, hlower⟩ := Option.map_eq_some_iff.1 head
    obtain rfl : c = '[' := (Text.toLower_eq_iff rfl).1 hlower
    cases shown with
    | nil => cases hc
    | cons d shown => exact hopen hc
  have sameFor : (fun other : Persona => Text.same other.name persona.name) =
      fun other => Text.same other.name (String.ofList shown) := by
    funext other
    rw [Text.same, Text.same, Text.sameFolded, Text.sameFolded, folded, String.toList_ofList]
  exact ⟨hneat persona (List.mem_of_find?_eq_some hfind), sameFor ▸ hname, lineKind_eq_speaker_iff.2
    ⟨heading?_fold same (heading?_pad hpad hact), heading?_fold same (heading?_pad hpad hscene), opens,
      List.getLast?_concat⟩⟩

/-! ## Drafts -/

/-- what a draft is while a play is read -/
structure Proper (draft : Draft) : Prop where
  personae : ∀ persona ∈ draft.personae, persona.Proper
  acts : ∀ act ∈ draft.acts, act.Proper draft.personae
  speech : ∀ speaker said, draft.speech = some (speaker, said) →
    Announces draft.personae speaker ∧ (said = "" ∨ Speakable said.toList)

theorem forall_mem_modifyLast {α : Type} {P : α → Prop} {f : α → α} (hf : ∀ a, P a → P (f a)) {as : List α}
    (h : ∀ a ∈ as, P a) : ∀ a ∈ modifyLast f as, P a := by
  rcases List.eq_nil_or_concat as with rfl | ⟨front, last, rfl⟩
  · exact h
  · rw [List.concat_eq_append] at h ⊢
    obtain ⟨hfront, hlast⟩ := List.forall_mem_append.1 h
    rw [modifyLast_append]
    exact List.forall_mem_append.2 ⟨hfront, List.forall_mem_singleton.2 (hf _ (hlast _ (List.mem_singleton_self _)))⟩

namespace Proper

variable {draft : Draft} (h : draft.Proper)
include h

theorem addScene {scene : PlayScene} (hscene : scene.Proper draft.personae) : (draft.addScene scene).Proper where
  personae := h.personae
  acts := forall_mem_modifyLast (fun _ hact => { hact with
    scenes := List.forall_mem_append.2 ⟨hact.scenes, List.forall_mem_singleton.2 hscene⟩ }) h.acts
  speech := h.speech

theorem addLine {line : PlayLine} (hline : line.Proper draft.personae) : (draft.addLine line).Proper where
  personae := h.personae
  acts := forall_mem_modifyLast (fun _ hact => { hact with
    scenes := forall_mem_modifyLast (fun _ hscene => { hscene with
      lines := List.forall_mem_append.2 ⟨hscene.lines, List.forall_mem_singleton.2 hline⟩ }) hact.scenes }) h.acts
  speech := h.speech

theorem closeSpeech : draft.closeSpeech.Proper := by
  unfold Draft.closeSpeech
  split
  · exact h
  · rename_i speaker said hspeech
    obtain ⟨hspeaker, hsaid⟩ := h.speech speaker said hspeech
    have quiet : Proper { draft with speech := none } := { h with speech := nofun }
    exact quiet.addLine ⟨hspeaker, spoken_splitSentences hsaid⟩

end Proper

/-- **Whatever line is taken, what has been read of a play is proper.** -/
theorem Advances.proper {draft next : Draft} {line : List Char} (h : draft.Advances line next) (hproper : draft.Proper)
    (htight : Text.Tight line) (hline : '\n' ∉ line) : next.Proper := by
  have closed := hproper.closeSpeech
  cases h with
  | persona hnil _ hpersona =>
    refine ⟨List.forall_mem_append.2 ⟨hproper.personae, List.forall_mem_singleton.2 (proper_of_persona? hpersona hline)⟩,
      by simp [hnil], fun speaker said hspeech => ?_⟩
    obtain ⟨hspeaker, hsaid⟩ := hproper.speech speaker said hspeech
    exact ⟨hspeaker.append _, hsaid⟩
  | act hact =>
    refine { closed with acts := List.forall_mem_append.2 ⟨closed.acts, List.forall_mem_singleton.2 ?_⟩ }
    exact ⟨numbers_of_heading hact, neat_of_heading hact hline, nofun⟩
  | scene _ _ hscene => exact closed.addScene ⟨numbers_of_heading hscene, neat_of_heading hscene hline, nofun⟩
  | direction _ hcut => exact closed.addLine (neat_trimmed fun hmem => hline (by simp [hcut, hmem]))
  | @speaker front name _ hkind hcut hname =>
    subst hcut
    refine { closed with speech := fun speaker said hspeech => ?_ }
    cases hspeech
    rw [personae_closeSpeech]
    exact ⟨announces_of_line (fun persona hpersona => (hproper.personae persona hpersona).name) htight hkind hname,
      .inl rfl⟩
  | text _ hkind hspeech =>
    obtain ⟨hspeaker, hsaid⟩ := hproper.speech _ _ hspeech
    obtain ⟨-, -, hopen, hclose⟩ := lineKind_eq_text_iff.1 hkind
    refine { hproper with speech := fun speaker said hspeech => ?_ }
    cases hspeech
    exact ⟨hspeaker, .inr (speakable_extended hsaid ⟨htight, hline, hopen, hclose⟩)⟩

theorem proper_of_steps {first last : Draft} {numbered : List (Nat × List Char)} (h : first.steps numbered = .ok last)
    (titled : first.title ≠ none) (hproper : first.Proper)
    (hlines : ∀ line ∈ numbered, Text.Tight line.2 ∧ '\n' ∉ line.2) : last.Proper ∧ last.title = first.title := by
  induction numbered generalizing first with
  | nil =>
    cases h
    exact ⟨hproper, rfl⟩
  | cons line rest ih =>
    obtain ⟨middle, hstep, hrest⟩ := bind_eq_ok.1 h
    obtain ⟨⟨htight, hline⟩, hlines⟩ := List.forall_mem_cons.1 hlines
    have same : middle.title = first.title := (takes_of_step titled hstep).title_eq
    obtain ⟨hproper, htitle⟩ := ih hrest (same ▸ titled)
      ((advances_of_step titled hstep).proper hproper htight hline) hlines
    exact ⟨hproper, htitle.trans same⟩

end Draft

/-- **Every parsed play is proper.** -/
theorem proper_of_parse {text : String} {play : Play} (h : Play.parse text = .ok play) : play.Proper := by
  obtain ⟨n, title, rest, last, hnumbered, hsteps, hfinish⟩ := Draft.steps_of_parse h
  have lines : ∀ line ∈ numberedLines text, Text.Tight line.2 ∧ '\n' ∉ line.2 := fun line hline => by
    have hink : line.2 ∈ inkLines text.toList := numberedLines_snd text ▸ List.mem_map_of_mem hline
    exact tight_of_mem_inkLines hink
  rw [hnumbered] at lines
  obtain ⟨⟨htight, hline⟩, lines⟩ := List.forall_mem_cons.1 lines
  obtain ⟨hproper, hsame⟩ := Draft.proper_of_steps hsteps (by simp) ⟨nofun, nofun, nofun⟩ lines
  obtain ⟨htitle, hpersonae, hacts⟩ := Draft.eq_of_finish hfinish
  have closed := hproper.closeSpeech
  have title_eq : play.title = String.ofList title := by simpa [htitle] using hsame
  refine ⟨?_, ⟨?_, ?_⟩, hpersonae ▸ hproper.personae, ?_⟩
  · simpa [title_eq] using htight.ne_nil
  · rwa [title_eq, String.toList_ofList]
  · rw [title_eq, Text.trim, String.toList_ofList, htight.trimChars]
  · rw [hacts, hpersonae, ← Draft.personae_closeSpeech]
    exact closed.acts

end Playscript
