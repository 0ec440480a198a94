/-
A program and what comes back from its play behave alike.

- `Retold.sound`: what comes back from a sound program is sound;
- `Retold.lower`: its operations are those of the program, with operands worth the same and other names;
- `perform_transcribed`: so the two perform in lockstep, step for step and fault for fault.
-/
import Playscript.Proofs.Conversion.RoundTrip
import Playscript.Proofs.Performance.Folding
import Playscript.Proofs.Performance.Lockstep

namespace Playscript

/-! ## Mentions and references -/

/-- a value as it comes back mentions nobody new -/
theorem Value.mentions_spokenBy {speaker id : Ident} {value : Value} (h : id ∈ (value.spokenBy speaker).mentions) :
    id ∈ value.mentions := by
  rw [spokenBy, mentions_canonical] at h
  exact (mem_mentions_withSpeakerAsRole.1 h).1

def Reference.rename (f : Ident → Ident) : Reference → Reference
  | .character id => .character (f id)
  | .scene target => .scene target
  | .nested => .nested

/-- a statement as it comes back refers to nothing new -/
theorem Statement.references_told (f : Ident → Ident) (speaker : Ident) {statement : Statement} {reference : Reference}
    (h : reference ∈ ((statement.canonical speaker).rename f).references) :
    ∃ r ∈ statement.references, reference = r.rename f := by
  have value : ∀ {v : Value}, reference ∈ ((v.spokenBy speaker).rename f).mentions.map Reference.character →
      ∃ r ∈ v.mentions.map Reference.character, reference = r.rename f := by
    intro v hr
    rw [Value.mentions_rename, List.map_map] at hr
    obtain ⟨id, hid, rfl⟩ := List.mem_map.1 hr
    exact ⟨_, List.mem_map_of_mem (Value.mentions_spokenBy hid), rfl⟩
  have simple : ∀ s : Statement, reference ∈ ((s.canonical speaker).rename f).bodyReferences →
      ∃ r ∈ s.bodyReferences, reference = r.rename f := by
    intro s hr
    cases s with
    | assign v => exact value hr
    | remember v => exact value hr
    | compare c =>
      simp only [canonical, rename, bodyReferences, List.map_append, List.mem_append] at hr ⊢
      rcases hr with hr | hr
      · obtain ⟨r, hmem, e⟩ := value hr
        exact ⟨r, .inl hmem, e⟩
      · obtain ⟨r, hmem, e⟩ := value hr
        exact ⟨r, .inr hmem, e⟩
    | conditional polarity body => exact ⟨.nested, List.mem_cons_self, List.mem_singleton.1 hr⟩
    | jump target => exact ⟨.scene target, List.mem_cons_self, List.mem_singleton.1 hr⟩
    | input channel => cases hr
    | output channel => cases hr
    | «recall» => cases hr
  cases statement with
  | conditional polarity body => exact simple body h
  | assign v => exact simple (.assign v) h
  | compare c => exact simple (.compare c) h
  | jump target => exact simple (.jump target) h
  | remember v => exact simple (.remember v) h
  | input channel => cases h
  | output channel => cases h
  | «recall» => cases h

theorem Line.references_retold (f : Ident → Ident) {line : Line} {reference : Reference}
    (h : reference ∈ (line.retold f).references) : ∃ r ∈ line.references, reference = r.rename f := by
  cases line with
  | direction d =>
    have mentions : (d.rename f).mentions = d.mentions.map f := by cases d <;> rfl
    simp only [retold, references, mentions, List.map_map] at h
    obtain ⟨id, hid, rfl⟩ := List.mem_map.1 h
    exact ⟨_, List.mem_map_of_mem hid, rfl⟩
  | speech speaker statements =>
    rcases List.mem_cons.1 h with rfl | h
    · exact ⟨.character speaker, List.mem_cons_self, rfl⟩
    · obtain ⟨_, hmem, h⟩ := List.mem_flatMap.1 h
      obtain ⟨statement, hstatement, rfl⟩ := List.mem_map.1 hmem
      obtain ⟨r, hr, e⟩ := Statement.references_told f speaker h
      exact ⟨r, List.mem_cons_of_mem _ (List.mem_flatMap.2 ⟨statement, hstatement, hr⟩), e⟩

namespace Conversion

open Lexicon (standard)

section Retold

variable {f : Ident → Ident} {program told : Program} (h : Retold f program told)
include h

theorem Retold.hasScene {i j : Nat} (hscene : program.HasScene i j) : told.HasScene i j := by
  obtain ⟨scenes, hget, hlt⟩ := hscene
  exact ⟨_, by rw [h.lines, List.getElem?_map, hget]; rfl, by simpa using hlt⟩

theorem Retold.hasLine {i j : Nat} {line : Line} (hline : told.HasLine i j line) :
    ∃ before, program.HasLine i j before ∧ line = before.retold f := by
  obtain ⟨scenes, lines, hscenes, hlines, hmem⟩ := hline
  rw [h.lines, List.getElem?_map, Option.map_eq_some_iff] at hscenes
  obtain ⟨scenes, hscenes, rfl⟩ := hscenes
  rw [List.getElem?_map, Option.map_eq_some_iff] at hlines
  obtain ⟨lines, hlines, rfl⟩ := hlines
  obtain ⟨before, hbefore, rfl⟩ := List.mem_map.1 hmem
  exact ⟨before, ⟨scenes, lines, hscenes, hlines, hbefore⟩, rfl⟩

/-- **What comes back from a sound program is sound.** -/
theorem Retold.sound (sound : program.Sound) : told.Sound := by
  refine ⟨h.nodup, fun i j line hline reference href => ?_⟩
  obtain ⟨before, hbefore, rfl⟩ := h.hasLine hline
  obtain ⟨r, hr, rfl⟩ := Line.references_retold f href
  have leads := sound.leads i j before hbefore r hr
  cases r with
  | character id =>
    show f id ∈ told.declared
    rw [h.declared]
    exact List.mem_map_of_mem leads
  | scene target =>
    obtain ⟨i', j', hact, hscene, hhas⟩ := leads
    exact ⟨i', j', hact, hscene, h.hasScene hhas⟩
  | nested => exact leads.elim

/-! ## Operations -/

theorem Retold.numberOf {id : Ident} (hid : id ∈ program.declared) :
    numberOf told.declared (f id) = Playscript.numberOf program.declared id := by
  rw [h.declared]
  exact numberOf_map (h.declared ▸ h.nodup) hid

theorem Retold.worth (speaker : Ident) {value : Value} (hvalue : ∀ id ∈ value.mentions, id ∈ program.declared) :
    (Operand.ofValue program.declared value).Worth program.lower (Playscript.numberOf program.declared speaker)
      (Operand.ofValue told.declared ((value.spokenBy speaker).rename f)) := by
  have mentioned : ∀ id ∈ (value.spokenBy speaker).mentions, id ∈ program.declared :=
    fun id hid => hvalue id (Value.mentions_spokenBy hid)
  have operand : Operand.ofValue told.declared ((value.spokenBy speaker).rename f) =
      Operand.ofValue program.declared (value.spokenBy speaker) := by
    rw [h.declared]
    exact Operand.ofValue_rename (h.declared ▸ h.nodup) mentioned
  rw [operand]
  exact ⟨Operand.within_ofValue mentioned, fun p => p.evaluate_spokenBy program.lower program.declared speaker value⟩

theorem Retold.action (act : Nat) (speaker : Ident) {statement : Statement}
    (hs : ∀ id ∈ statement.mentions, id ∈ program.declared) :
    Option.Rel (Action.Told program.lower (Playscript.numberOf program.declared speaker))
      (Action.ofStatement? program.declared act statement)
      (Action.ofStatement? told.declared act ((statement.canonical speaker).rename f)) := by
  cases statement with
  | assign value => exact .some (.assign (h.worth speaker hs))
  | compare c =>
    have worthLhs := h.worth speaker fun id hid => hs id (List.mem_append_left _ hid)
    have worthRhs := h.worth speaker fun id hid => hs id (List.mem_append_right _ hid)
    exact .some (.compare c.relation c.negated worthLhs worthRhs)
  | conditional polarity body => exact .none
  | jump target => exact .some (.jump _ _)
  | input channel => exact .some (.input channel)
  | output channel => exact .some (.output channel)
  | remember value => exact .some (.remember (h.worth speaker hs))
  | «recall» => exact .some .recall

theorem Retold.operation (act : Nat) {speaker : Ident} (hspeaker : speaker ∈ program.declared) {statement : Statement}
    (hs : ∀ id ∈ statement.mentions, id ∈ program.declared) :
    Option.Rel (Operation.Told program.lower)
      (Operation.ofStatement? program.declared act (Playscript.numberOf program.declared speaker) statement)
      (Operation.ofStatement? told.declared act (Playscript.numberOf told.declared (f speaker))
        ((statement.canonical speaker).rename f)) := by
  have guarded : ∀ (guard : Option Bool) {a b : Option Action},
      Option.Rel (Action.Told program.lower (Playscript.numberOf program.declared speaker)) a b →
      Option.Rel (Operation.Told program.lower)
        (a.map fun action => ⟨some (Playscript.numberOf program.declared speaker), guard, action⟩)
        (b.map fun action => ⟨some (Playscript.numberOf program.declared speaker), guard, action⟩) := by
    intro guard a b hab
    cases hab with
    | none => exact .none
    | some haction =>
      refine .some ⟨rfl, rfl, fun s hs => ?_, haction⟩
      cases hs
      exact numberOf_lt hspeaker
  rw [h.numberOf hspeaker]
  cases statement with
  | conditional polarity body =>
    have mentioned : ∀ id ∈ body.mentions, id ∈ program.declared := hs
    exact guarded (some polarity) (h.action act speaker mentioned)
  | assign value => exact guarded none (h.action act speaker hs)
  | compare c => exact guarded none (h.action act speaker hs)
  | jump target => exact guarded none (h.action act speaker hs)
  | input channel => exact guarded none (h.action act speaker hs)
  | output channel => exact guarded none (h.action act speaker hs)
  | remember value => exact guarded none (h.action act speaker hs)
  | «recall» => exact guarded none (h.action act speaker hs)

theorem Retold.direction {d : StageDirection} (hd : ∀ id ∈ d.mentions, id ∈ program.declared) :
    Operation.Told program.lower ⟨none, none, Action.ofDirection program.declared d⟩
      ⟨none, none, Action.ofDirection told.declared (d.rename f)⟩ := by
  have numbers : ∀ ids : List Ident, (∀ id ∈ ids, id ∈ program.declared) →
      (ids.map f).map (Playscript.numberOf told.declared) = ids.map (Playscript.numberOf program.declared) := by
    intro ids hids
    rw [List.map_map]
    exact List.map_congr_left fun id hid => h.numberOf (hids id hid)
  have below : ∀ ids : List Ident, (∀ id ∈ ids, id ∈ program.declared) →
      ∀ c ∈ ids.map (Playscript.numberOf program.declared), c < program.lower.characters.length := by
    intro ids hids c hc
    obtain ⟨id, hid, rfl⟩ := List.mem_map.1 hc
    exact numberOf_lt (hids id hid)
  refine ⟨rfl, rfl, (fun s hs => by cases hs), ?_⟩
  cases d with
  | enter ids =>
    simp only [StageDirection.rename, Action.ofDirection, numbers ids hd]
    exact .enter (below ids hd)
  | exit id =>
    simp only [StageDirection.rename, Action.ofDirection, h.numberOf (hd id (List.mem_singleton_self id))]
    exact .exit (numberOf_lt (hd id (List.mem_singleton_self id)))
  | exeunt ids =>
    simp only [StageDirection.rename, Action.ofDirection, numbers ids hd]
    exact .exeunt (below ids hd)

/-- the operations of a line and of the line as it comes back -/
theorem Retold.line (act : Nat) {line : Line} (hline : ∀ id ∈ line.mentions, id ∈ program.declared) :
    List.Forall₂ (Operation.Told program.lower) (line.operations program.declared act)
      ((line.retold f).operations told.declared act) := by
  cases line with
  | direction d => exact .cons (h.direction hline) .nil
  | speech speaker statements =>
    have hspeaker := hline speaker List.mem_cons_self
    simp only [Line.retold, Line.operations]
    refine List.rel_filterMap (R := fun statement told' =>
      (∀ id ∈ statement.mentions, id ∈ program.declared) ∧ told' = (statement.canonical speaker).rename f) ?_ ?_
    · rintro statement _ ⟨hs, rfl⟩
      exact h.operation act hspeaker hs
    · rw [List.forall₂_map_right_iff, List.forall₂_same]
      exact fun statement hstatement => ⟨fun id hid => hline id (Line.mem_mentions_of_mem hstatement hid), rfl⟩

/-- the operations of a scene and of the scene as it comes back -/
theorem Retold.scene (sound : program.Sound) {i j : Nat} {scenes : List (List Line)} {lines : List Line}
    (hscenes : program.linesByScene[i]? = some scenes) (hlines : scenes[j]? = some lines) :
    List.Forall₂ (Operation.Told program.lower) (lines.flatMap (Line.operations program.declared (i + 1)))
      ((lines.map (Line.retold f)).flatMap (Line.operations told.declared (i + 1))) := by
  refine List.rel_flatMap (R := fun line told' => line ∈ lines ∧ told' = line.retold f) ?_ ?_
  · rw [List.forall₂_map_right_iff, List.forall₂_same]
    exact fun line hline => ⟨hline, rfl⟩
  · rintro line _ ⟨hline, rfl⟩
    exact h.line (i + 1) (sound.line_mem ⟨scenes, lines, hscenes, hlines, hline⟩)

theorem Retold.operationsByScene (sound : program.Sound) :
    List.Forall₂ (List.Forall₂ (List.Forall₂ (Operation.Told program.lower)))
      (operationsByScene program.declared program.acts) (operationsByScene told.declared told.acts) := by
  simp only [operationsByScene_eq, h.lines, List.zipIdx_map, List.map_map, List.forall₂_map_left_iff,
    List.forall₂_map_right_iff, List.forall₂_same]
  rintro ⟨scenes, n⟩ hmem
  obtain ⟨i, rfl, hscenes⟩ : ∃ i, n = i + 1 ∧ program.linesByScene[i]? = some scenes := by
    obtain ⟨hle, hget⟩ := List.mk_mem_zipIdx_iff_le_and_getElem?_sub.1 hmem
    exact ⟨n - 1, by omega, hget⟩
  simp only [Function.comp_apply, Prod.map_apply, id_eq, List.forall₂_map_right_iff, List.forall₂_same]
  intro lines hlines
  obtain ⟨j, hj⟩ := List.getElem?_of_mem hlines
  exact h.scene sound hscenes hj

/-- **The operations of what comes back are those of the program**, with operands worth the same and other names. -/
theorem Retold.lower (sound : program.Sound) : program.lower.Told f told.lower := by
  have rows := h.operationsByScene sound
  refine ⟨h.declared, ?_, List.rel_flatten (List.rel_flatten rows)⟩
  simp only [Program.lower]
  congr 1
  have length : ∀ ⦃a b : List Operation⦄, List.Forall₂ (Operation.Told program.lower) a b → a.length = b.length :=
    fun _ _ h => h.length_eq
  have lengths : ∀ ⦃a b : List (List Operation)⦄, List.Forall₂ (List.Forall₂ (Operation.Told program.lower)) a b →
      a.map List.length = b.map List.length := fun _ _ h => (map_eq_of_forall₂ length h).symm
  exact map_eq_of_forall₂ lengths rows

end Retold

/-- **A program and what comes back from its play perform alike.** Let a program without defects have a play, with
words chosen by any seed. The play has a program again, which compiles to a script with as many characters, `f` giving
their names. Performed on the same inputs, the two scripts run in lockstep: after any number of steps the characters of
the same number hold the same, the stage, the flag, the position, the status, the inputs left and what was printed are
the same, and the next step of one answers as that of the other, at the same position and with the same error, but for
the names of the characters in it. -/
theorem perform_transcribed {program : Program} {script : Script} {seed : UInt64} {play : Play}
    (hcompile : program.compile = .ok script) (hplay : program.dramatize standard seed = .ok play) :
    ∃ f told script', play.transcribe standard = .ok told ∧ told.compile = .ok script' ∧
      script'.characters = script.characters.map f ∧ script'.characters.Nodup ∧
      ∀ (inputs : List String) (debug : Bool) (n : Nat),
        let p := (Performance.start script (Scripted.ofInputs inputs debug)).after script Scripted.console n
        let q := (Performance.start script' (Scripted.ofInputs inputs debug)).after script' Scripted.console n
        p.Alike q ∧ (q.step script' Scripted.console).1 = (p.step script Scripted.console).1.mapError (Fault.rename f) := by
  obtain ⟨hdefects, rfl⟩ := Program.compile_eq_ok_iff.1 hcompile
  have sound := (Program.defects_eq_nil_iff program).1 hdefects
  obtain ⟨-, cast, told, -, -, htranscribe, retold⟩ := retold_of_dramatize sound.closed hplay
  have hdefects' := (Program.defects_eq_nil_iff told).2 (retold.sound sound)
  have like := retold.lower sound
  refine ⟨cast.identifierOf, told, told.lower, htranscribe, Program.compile_eq_ok_iff.2 ⟨hdefects', rfl⟩,
    like.characters, retold.nodup, fun inputs debug n => ?_⟩
  have blank : told.lower.characters.map (fun _ => Memory.blank) =
      program.lower.characters.map fun _ => Memory.blank := by
    rw [like.characters, List.map_map]
    rfl
  have start : (Performance.start program.lower (Scripted.ofInputs inputs debug)).Alike
      (Performance.start told.lower (Scripted.ofInputs inputs debug)) :=
    ⟨blank, rfl, rfl, rfl, rfl, rfl, rfl, rfl, rfl⟩
  have empty : (Performance.start program.lower (Scripted.ofInputs inputs debug)).Steady program.lower :=
    fun c hc => absurd hc List.not_mem_nil
  obtain ⟨steady, alike⟩ := Performance.lockstep_told like empty start n
  exact ⟨alike, (Performance.step_told like steady alike).1.1⟩

theorem perform_transcribed_countdown :
    ∃ script play, countdown.compile = .ok script ∧ countdown.dramatize standard 7 = .ok play ∧
      ∃ f told script', play.transcribe standard = .ok told ∧ told.compile = .ok script' ∧
        script'.characters = script.characters.map f ∧ script'.characters.Nodup ∧
        ∀ (inputs : List String) (debug : Bool) (n : Nat),
          let p := (Performance.start script (Scripted.ofInputs inputs debug)).after script Scripted.console n
          let q := (Performance.start script' (Scripted.ofInputs inputs debug)).after script' Scripted.console n
          p.Alike q ∧
            (q.step script' Scripted.console).1 = (p.step script Scripted.console).1.mapError (Fault.rename f) := by
  obtain ⟨script, hcompile⟩ := countdown_compiles
  obtain ⟨play, hplay⟩ := countdown_dramatizes
  exact ⟨script, play, hcompile, hplay, perform_transcribed hcompile hplay⟩

end Conversion

end Playscript
