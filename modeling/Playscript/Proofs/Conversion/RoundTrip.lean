/-
A program comes back from its play.

- `Line.retold`: a line as it comes back, under other identifiers, with every statement in its canonical form; it mentions
  whom the line mentions (`Line.mem_mentions_retold_iff`);
- `recover_eq_ok`: a cast is recovered from names that are told apart by their identifiers;
- `composeLine_yields`, `composeActs_yields`: whatever words are chosen, the lines of a play are parsed as the lines of
  the program retold;
- `transcribe_eq_retold`, `Retold`: so a program that has a play comes back from it, retold, if all characters are
  declared, once each;
- `transcribe_dramatize`: the same, said of programs that compile.
-/
import Playscript.Conversion.Transcribe
import Playscript.Script.Compile
import Playscript.Proofs.Conversion.Naming
import Playscript.Proofs.Sentence.Directions
import Playscript.Proofs.Sentence.RoundTrip

namespace Playscript

/-- a line as it comes back from a play, under the identifiers that `f` gives -/
def Line.retold (f : Ident → Ident) : Line → Line
  | .direction d => .direction (d.rename f)
  | .speech speaker statements =>
    .speech (f speaker) (statements.map fun statement => (statement.canonical speaker).rename f)

theorem Value.mem_mentions_told_iff {f : Ident → Ident} {speaker other : Ident} {value : Value} :
    other ∈ ((value.spokenBy speaker).rename f).mentions ↔ ∃ id ∈ value.mentions, id ≠ speaker ∧ f id = other := by
  rw [mentions_rename, spokenBy, mentions_canonical, List.mem_map]
  simp only [mem_mentions_withSpeakerAsRole, and_assoc]

/-- a statement that has come back mentions whom it mentioned, except the speaker -/
theorem Statement.mem_mentions_told_iff {f : Ident → Ident} {speaker other : Ident} {statement : Statement} :
    other ∈ ((statement.canonical speaker).rename f).mentions ↔
      ∃ id ∈ statement.mentions, id ≠ speaker ∧ f id = other := by
  induction statement with
  | assign value => exact Value.mem_mentions_told_iff
  | remember value => exact Value.mem_mentions_told_iff
  | compare c =>
    simp only [canonical, rename, mentions, List.mem_append, Value.mem_mentions_told_iff, or_and_right, exists_or]
  | conditional polarity body ih => exact ih
  | _ => simp [canonical, rename, mentions]

/-- **Whoever a line mentions is mentioned when it comes back**, and nobody else. -/
theorem Line.mem_mentions_retold_iff {f : Ident → Ident} {other : Ident} {line : Line} :
    other ∈ (line.retold f).mentions ↔ ∃ id ∈ line.mentions, f id = other := by
  cases line with
  | direction d => cases d <;> simp [retold, mentions, StageDirection.rename, StageDirection.mentions, eq_comm]
  | speech speaker statements =>
    constructor
    · intro h
      rcases List.mem_cons.1 h with rfl | hmem
      · exact ⟨speaker, List.mem_cons_self, rfl⟩
      · obtain ⟨told, htold, hother⟩ := List.mem_flatMap.1 hmem
        obtain ⟨s, hs, rfl⟩ := List.mem_map.1 htold
        obtain ⟨id, hid, -, hf⟩ := Statement.mem_mentions_told_iff.1 hother
        exact ⟨id, mem_mentions_of_mem hs hid, hf⟩
    · rintro ⟨id, hid, rfl⟩
      by_cases hne : id = speaker
      · exact List.mem_cons.2 (.inl (congrArg f hne))
      · obtain ⟨s, hs, hid⟩ := List.mem_flatMap.1 ((List.mem_cons.1 hid).resolve_left hne)
        have told : f id ∈ ((s.canonical speaker).rename f).mentions :=
          Statement.mem_mentions_told_iff.2 ⟨id, hid, hne, rfl⟩
        exact mem_mentions_of_mem (List.mem_map_of_mem hs) told

/-- the identifier that comes from the name of a character -/
def Cast.identifierOf (cast : Cast) (id : Ident) : Ident := identifierFor ((cast.nameOf id).getD "")

/-! ## The recovered cast -/

namespace Cast

/-- the cast of characters with these names, each under the identifier derived from it -/
def ofMembers (names : List String) : Cast := ⟨[], names.map fun name => (identifierFor name, name)⟩

theorem recoverFrom_eq_ok {cast : Cast} {names : List String}
    (h : (cast.members.map (·.1) ++ names.map identifierFor).Nodup) :
    cast.recoverFrom names =
      .ok { cast with members := cast.members ++ names.map fun name => (identifierFor name, name) } := by
  induction names generalizing cast with
  | nil => simp [recoverFrom]
  | cons name names ih =>
    rw [List.map_cons, List.append_cons] at h
    have fresh : cast.nameOf (identifierFor name) = none := by
      have hnodup := List.Nodup.of_append_left h
      rw [← List.concat_eq_append, List.nodup_concat] at hnodup
      rw [nameOf, Option.map_eq_none_iff, List.find?_eq_none]
      intro member hmember heq
      exact hnodup.1 (List.mem_map.2 ⟨member, hmember, by simpa using heq⟩)
    have joined : ((cast.join (identifierFor name) name).members.map (·.1) ++ names.map identifierFor).Nodup := by
      simpa [join] using h
    simp only [recoverFrom, fresh, ih joined]
    simp [join]

/-- **Names told apart by their identifiers make a cast.** -/
theorem recover_eq_ok {names : List String} (h : (names.map identifierFor).Nodup) :
    recover names = .ok (ofMembers names) := by
  have hnodup : ((ofNames []).members.map (·.1) ++ names.map identifierFor).Nodup := by simpa [ofNames] using h
  rw [recover, recoverFrom_eq_ok hnodup]
  rfl

@[simp] theorem names_ofMembers (names : List String) : (ofMembers names).names = names := by
  simp [ofMembers, Cast.names, Function.comp_def]

@[simp] theorem identifiers_ofMembers (names : List String) :
    (ofMembers names).members.map (·.1) = names.map identifierFor := by
  simp [ofMembers, Function.comp_def]

theorem drawn_ofMembers {names pool : List String} (hmem : ∀ name ∈ names, name ∈ pool)
    (hid : (names.map identifierFor).Nodup) (hlow : (names.map Text.lowercase).Nodup) :
    (ofMembers names).Drawn pool := by
  refine ⟨by simp [ofMembers], ?_, ?_, ?_⟩
  · rwa [names_ofMembers]
  · rwa [identifiers_ofMembers]
  · rwa [names_ofMembers]

/-- the names of some characters, in order -/
def namesFor (cast : Cast) (ids : List Ident) : List String := ids.map fun id => (cast.nameOf id).getD ""

section Recovered

variable {cast : Cast} (hdrawn : cast.Drawn Lexicon.standardCast) {ids : List Ident} (hids : ids.Nodup)
  (hnamed : ∀ id ∈ ids, ∃ name, cast.nameOf id = some name)
include hdrawn hnamed

theorem mem_standardCast_of_namesFor : ∀ name ∈ cast.namesFor ids, name ∈ Lexicon.standardCast := by
  intro name hname
  obtain ⟨id, hid, rfl⟩ := List.mem_map.1 hname
  obtain ⟨name, hname⟩ := hnamed id hid
  rw [hname]
  exact hdrawn.named name (mem_names (nameOf_eq_some hname))

include hids

theorem namesFor_nodup : (cast.namesFor ids).Nodup := by
  refine List.Nodup.map_on (fun a ha b hb heq => ?_) hids
  obtain ⟨nameA, hA⟩ := hnamed a ha
  obtain ⟨nameB, hB⟩ := hnamed b hb
  simp only [hA, hB, Option.getD_some] at heq
  subst heq
  have sameA := hdrawn.identOf_of_mem (nameOf_eq_some hA)
  rw [hdrawn.identOf_of_mem (nameOf_eq_some hB)] at sameA
  exact (Option.some.inj sameA).symm

/-- names of the standard lexicon are told apart by anything that tells the whole list apart -/
theorem namesFor_map_nodup {κ : Type} {key : String → κ} (hkey : (Lexicon.standardCast.map key).Nodup) :
    ((cast.namesFor ids).map key).Nodup := by
  have hmem := mem_standardCast_of_namesFor hdrawn hnamed
  exact (namesFor_nodup hdrawn hids hnamed).map_on fun a ha b hb heq =>
    List.inj_on_of_nodup_map hkey (hmem a ha) (hmem b hb) heq

/-- **The recovered cast knows the characters by their names**, under the identifiers derived from these. -/
theorem recovered_follows :
    recover (cast.namesFor ids) = .ok (ofMembers (cast.namesFor ids)) ∧
      (ofMembers (cast.namesFor ids)).Drawn Lexicon.standardCast ∧
      (ofMembers (cast.namesFor ids)).Follows cast cast.identifierOf (· ∈ ids) := by
  have hid := namesFor_map_nodup hdrawn hids hnamed Lexicon.standard_names.identifiers_nodup
  have hlow := namesFor_map_nodup hdrawn hids hnamed Lexicon.standard_names.lowercase_nodup
  have recovered := drawn_ofMembers (mem_standardCast_of_namesFor hdrawn hnamed) hid hlow
  refine ⟨recover_eq_ok hid, recovered, fun id name hmem hname => ?_⟩
  have hlisted : name ∈ cast.namesFor ids := List.mem_map.2 ⟨id, hmem, by rw [hname]; rfl⟩
  refine ⟨by rwa [names_ofMembers], ?_⟩
  rw [identifierOf, hname]
  exact recovered.identOf_of_mem (List.mem_map.2 ⟨name, hlisted, rfl⟩)

end Recovered

end Cast

/-! ## Lines, scenes and acts -/

namespace Conversion

open Choosing Lexicon

/-! A parser of directions is no more to `parseLine` than what it answers, so it is made a variable before unfolding. -/

theorem parseLine_direction {vocabulary : Vocabulary} {place : Location} {text : String} {d : StageDirection}
    (h : Direction.parse vocabulary.cast text = .ok d) :
    Transcribe.parseLine vocabulary place (.direction text) = .ok (.direction d) := by
  unfold Transcribe.parseLine
  revert h
  generalize Direction.parse vocabulary.cast = parse
  intro h
  simp only [h]

theorem parseLine_speech {vocabulary : Vocabulary} {place : Location} {name : String} {sentences : List String}
    {speaker : Ident} {statements : List Statement} (hspeaker : vocabulary.cast.identOf name = some speaker)
    (h : sentences.mapM (Sentence.parse vocabulary) = .ok statements) :
    Transcribe.parseLine vocabulary place (.speech name sentences) = .ok (.speech speaker statements) := by
  unfold Transcribe.parseLine
  generalize Direction.parse vocabulary.cast = parse
  simp only [hspeaker, Transcribe.parseSentences, h]
  rfl

section Yields

variable {teller : Cast} {hearer : Vocabulary} (hh : Sentence.Hearer hearer) {f : Ident → Ident} {known : Ident → Prop}
  (hfollow : hearer.cast.Follows teller f known)
include hh hfollow

/-- **A line is parsed as it was composed**, retold. -/
theorem composeLine_yields (place : Location) {line : Line} (hknown : ∀ id ∈ line.mentions, known id) :
    Yields (Dramatize.composeLine (Vocabulary.of standard teller) place line) fun told =>
      Transcribe.parseLine hearer place told = .ok (line.retold f) := by
  cases line with
  | direction d =>
    simp only [Dramatize.composeLine]
    split
    · rename_i text htext
      have knownMentions : ∀ id ∈ d.mentions, known id := hknown
      exact yields_pure (parseLine_direction (Direction.parse_compose_direction hh hfollow knownMentions htext))
    · exact yields_throw _ _
  | speech speaker statements =>
    simp only [Dramatize.composeLine, Dramatize.composeSpeech]
    split
    · exact yields_throw _ _
    · rename_i name hname
      have knownSpeaker : known speaker := hknown speaker List.mem_cons_self
      have sentences := yields_mapM fun statement hstatement =>
        Sentence.compose_yields hh hfollow speaker fun id hid =>
          hknown id (Line.mem_mentions_of_mem hstatement hid)
      refine (sentences.adapt _).bind fun told htold => yields_pure ?_
      exact parseLine_speech (hfollow speaker name knownSpeaker hname).2 htold

omit hfollow in
/-- a numeral that has been written is the one expected -/
theorem numbered_yields (kind : HeadingKind) (n : Nat) :
    Yields (Dramatize.numbered (Vocabulary.of standard teller) n) fun numeral =>
      Transcribe.expectNumeral hearer kind n numeral = .ok () := by
  unfold Dramatize.numbered
  split
  · rename_i numeral hnumeral
    have hn : standard.numeral n = .ok numeral := hnumeral
    refine yields_pure ?_
    simp only [Transcribe.expectNumeral, hh.lexicon, (parseNumeral_numeral hn).2, if_true]
  · exact yields_throw _ _

/-- a scene as it comes back, with its free text restored by `restore` -/
def retoldScene (restore : String → String) (f : Ident → Ident) (scene : Scene) : Scene :=
  ⟨restore scene.description, scene.lines.map (Line.retold f)⟩

/-- an act as it comes back -/
def retoldAct (restore : String → String) (f : Ident → Ident) (act : Act) : Act :=
  ⟨restore act.description, act.scenes.map (retoldScene restore f)⟩

/-- a program as it comes back -/
def retoldProgram (restore : String → String) (f : Ident → Ident) (program : Program) : Program :=
  ⟨restore program.title, program.characters.map fun declaration => ⟨f declaration.id, restore declaration.description⟩,
    program.acts.map (retoldAct restore f)⟩

theorem composeScene_yields (place : Location) {scene : Scene}
    (hknown : ∀ line ∈ scene.lines, ∀ id ∈ line.mentions, known id) :
    Yields (Dramatize.composeScene (Vocabulary.of standard teller) place scene) fun told =>
      Transcribe.parseScene hearer place told = .ok (retoldScene hearer.cast.restore f scene) := by
  have lines := yields_mapM fun line hline => composeLine_yields hh hfollow place (hknown line hline)
  refine lines.bind fun told htold => (numbered_yields hh .scene place.scene).bind fun numeral hnumeral => ?_
  refine yields_pure ?_
  unfold Transcribe.parseScene
  rw [hnumeral, htold]
  rfl

theorem composeAct_yields (n : Nat) {act : Act}
    (hknown : ∀ scene ∈ act.scenes, ∀ line ∈ scene.lines, ∀ id ∈ line.mentions, known id) :
    Yields (Dramatize.composeAct (Vocabulary.of standard teller) n act) fun told =>
      Transcribe.parseAct hearer n told = .ok (retoldAct hearer.cast.restore f act) := by
  have scene : ∀ scene ∈ act.scenes, ∀ i,
      Yields (Dramatize.composeScene (Vocabulary.of standard teller) ⟨n, i⟩ scene) fun told =>
        Transcribe.parseScene hearer ⟨n, i⟩ told = .ok (retoldScene hearer.cast.restore f scene) :=
    fun scene hscene i => composeScene_yields hh hfollow ⟨n, i⟩ (hknown scene hscene)
  have scenes := yields_mapM_zipIdx 1 scene
  refine scenes.bind fun told htold => (numbered_yields hh .act n).bind fun numeral hnumeral => ?_
  refine yields_pure ?_
  unfold Transcribe.parseAct
  rw [hnumeral]
  simp only [htold, bind, Except.bind]
  rfl

/-- **The acts of a play are parsed as the acts of the program**, retold. -/
theorem composeActs_yields {acts : List Act}
    (hknown : ∀ act ∈ acts, ∀ scene ∈ act.scenes, ∀ line ∈ scene.lines, ∀ id ∈ line.mentions, known id) :
    Yields (Dramatize.composeActs (Vocabulary.of standard teller) acts) fun told =>
      Transcribe.parseActs hearer told = .ok (acts.map (retoldAct hearer.cast.restore f)) := by
  have act : ∀ act ∈ acts, ∀ n, Yields (Dramatize.composeAct (Vocabulary.of standard teller) n act) fun told =>
      Transcribe.parseAct hearer n told = .ok (retoldAct hearer.cast.restore f act) :=
    fun act hact n => composeAct_yields hh hfollow n (hknown act hact)
  exact yields_mapM_zipIdx 1 act

end Yields

/-! ## Whole programs -/

theorem declared_retoldProgram (restore : String → String) (f : Ident → Ident) (program : Program) :
    (retoldProgram restore f program).declared = program.declared.map f := by
  rw [Program.declared, Program.declared, retoldProgram, List.map_map, List.map_map]
  rfl

/-- a play is that of a program if its free texts and its personae are those of the program, filled in, and its acts have
been composed from the acts of the program -/
theorem dramatize_eq_ok_iff {lexicon : Lexicon} {seed : UInt64} {program : Program} {play : Play} :
    program.dramatize lexicon seed = .ok play ↔ ∃ filled cast acts,
      Naming.ofProgram lexicon program = .ok (filled, cast) ∧
      (Dramatize.composeActs (Vocabulary.of lexicon cast) filled.acts (Generator.ofSeed seed)).1 = .ok acts ∧
      play = ⟨filled.title, Dramatize.personae (Vocabulary.of lexicon cast) filled.characters, acts⟩ := by
  unfold Program.dramatize
  cases hnaming : Naming.ofProgram lexicon program with
  | error cause => exact ⟨nofun, fun ⟨_, _, _, h, _⟩ => (nomatch h)⟩
  | ok answer =>
    obtain ⟨filled, cast⟩ := answer
    dsimp only
    constructor
    · intro h
      cases hacts : (Dramatize.composeActs (Vocabulary.of lexicon cast) filled.acts (Generator.ofSeed seed)).1 with
      | error cause =>
        rw [hacts] at h
        cases h
      | ok acts =>
        rw [hacts] at h
        cases h
        exact ⟨filled, cast, acts, rfl, hacts, rfl⟩
    · rintro ⟨_, _, acts, heq, hacts, rfl⟩
      cases heq
      rw [hacts]
      rfl

/-- a program that has a play: its filled form, the cast of its names and the composed acts -/
theorem dramatize_eq_ok {lexicon : Lexicon} {seed : UInt64} {program : Program} {play : Play}
    (h : program.dramatize lexicon seed = .ok play) :
    ∃ filled cast, Naming.ofProgram lexicon program = .ok (filled, cast) ∧
      (Dramatize.composeActs (Vocabulary.of lexicon cast) filled.acts (Generator.ofSeed seed)).1 = .ok play.acts ∧
      play.personae = Dramatize.personae (Vocabulary.of lexicon cast) filled.characters := by
  obtain ⟨filled, cast, acts, hnaming, hacts, rfl⟩ := dramatize_eq_ok_iff.1 h
  exact ⟨filled, cast, hnaming, hacts, rfl⟩

theorem linesByScene_retold {restore : String → String} {f : Ident → Ident} {program told : Program}
    (h : told.acts = program.acts.map (retoldAct restore f)) :
    told.linesByScene = program.linesByScene.map fun scenes => scenes.map fun lines => lines.map (Line.retold f) := by
  simp only [Program.linesByScene, h, List.map_map]
  refine List.map_congr_left fun act _ => ?_
  simp only [Function.comp_apply, retoldAct, List.map_map]
  rfl

/-- a program as it comes back: the same characters, acts, scenes and lines in the same order, under the identifiers
that `f` gives, no two alike, and with every statement in its canonical form -/
structure Retold (f : Ident → Ident) (program told : Program) : Prop where
  declared : told.declared = program.declared.map f
  nodup : told.declared.Nodup
  lines : told.linesByScene =
    program.linesByScene.map fun scenes => scenes.map fun lines => lines.map (Line.retold f)

/-- the personae of a play are the declared characters, under the names given out -/
theorem names_personae {lexicon : Lexicon} {cast : Cast} {program filled : Program}
    (h : filled.declared = program.declared) :
    (Dramatize.personae (Vocabulary.of lexicon cast) filled.characters).map (·.name) =
      cast.namesFor program.declared := by
  rw [← h]
  simp [Dramatize.personae, Cast.namesFor, Program.declared, Vocabulary.of, Function.comp_def]

/-- **What comes back** is the program as it has been filled in, retold, with its free texts restored by the cast that is
recovered from the play. -/
theorem transcribe_eq_retold {program filled : Program} {cast : Cast} (closed : program.Closed)
    (hnaming : Naming.ofProgram standard program = .ok (filled, cast)) {g : Generator} {acts : List PlayAct}
    (hacts : (Dramatize.composeActs (Vocabulary.of standard cast) filled.acts g).1 = .ok acts) :
    Play.transcribe standard ⟨filled.title, Dramatize.personae (Vocabulary.of standard cast) filled.characters, acts⟩ =
      .ok (retoldProgram (Cast.ofMembers (cast.namesFor program.declared)).restore cast.identifierOf filled) := by
  obtain ⟨hgrows, hnamed, hdeclared, hlines⟩ := Naming.ofProgram_eq_ok hnaming
  obtain ⟨hrecover, recovered, hfollow⟩ :=
    Cast.recovered_follows (Cast.drawn_of_grows hgrows) closed.nodup hnamed
  set heard := Cast.ofMembers (cast.namesFor program.declared) with hheard
  have hearer : Sentence.Hearer (Vocabulary.of standard heard) := ⟨rfl, recovered.named⟩
  have parsed := composeActs_yields hearer hfollow (closed.mem_declared hlines) _ _ hacts
  have declarations : Transcribe.declarations (Vocabulary.of standard heard)
      (Dramatize.personae (Vocabulary.of standard cast) filled.characters) =
        filled.characters.map fun declaration =>
          ⟨cast.identifierOf declaration.id, heard.restore declaration.description⟩ := by
    have members : heard.members = filled.characters.map fun declaration =>
        (cast.identifierOf declaration.id, (cast.nameOf declaration.id).getD "") := by
      rw [hheard, ← hdeclared, Cast.ofMembers, Cast.namesFor, Program.declared, List.map_map, List.map_map]
      rfl
    have same : (Vocabulary.of standard heard).cast = heard := rfl
    rw [Transcribe.declarations, same, members, Dramatize.personae, List.zip_map', List.map_map]
    rfl
  unfold Play.transcribe
  rw [names_personae hdeclared, hrecover]
  simp only [parsed, declarations, bind, Except.bind]
  rfl

/-- a program that has a play comes back from it, if all its characters are declared, once each -/
theorem retold_of_dramatize {program : Program} (closed : program.Closed) {seed : UInt64} {play : Play}
    (hplay : program.dramatize standard seed = .ok play) :
    ∃ filled cast told, Naming.ofProgram standard program = .ok (filled, cast) ∧
      (∀ id ∈ program.declared, ∃ name, cast.nameOf id = some name) ∧
      play.transcribe standard = .ok told ∧ Retold cast.identifierOf program told := by
  obtain ⟨filled, cast, acts, hnaming, hacts, rfl⟩ := dramatize_eq_ok_iff.1 hplay
  obtain ⟨hgrows, hnamed, hdeclared, hlines⟩ := Naming.ofProgram_eq_ok hnaming
  have drawn := Cast.drawn_of_grows hgrows
  refine ⟨filled, cast, _, hnaming, hnamed, transcribe_eq_retold closed hnaming hacts, ?_, ?_, ?_⟩
  · rw [declared_retoldProgram, hdeclared]
  · have hnodup := Cast.namesFor_map_nodup drawn closed.nodup hnamed standard_names.identifiers_nodup
    rw [Cast.namesFor, List.map_map] at hnodup
    rwa [declared_retoldProgram, hdeclared]
  · rw [linesByScene_retold rfl, hlines]

/-- **A program comes back from its play.** Let a program without defects have a play, with words chosen by any seed.
Its characters have got names from the lexicon, and the play has a program again: its characters are, in order, the
identifiers derived from these names, no two alike, and its acts, scenes and lines are those of the program, in order,
with every speaker, direction and statement under these identifiers and every statement in its canonical form. -/
theorem transcribe_dramatize {program : Program} {script : Script} {seed : UInt64} {play : Play}
    (hcompile : program.compile = .ok script) (hplay : program.dramatize standard seed = .ok play) :
    ∃ filled cast told, Naming.ofProgram standard program = .ok (filled, cast) ∧
      (∀ id ∈ program.declared, ∃ name, cast.nameOf id = some name) ∧
      play.transcribe standard = .ok told ∧
      told.declared = program.declared.map cast.identifierOf ∧ told.declared.Nodup ∧
      told.linesByScene =
        program.linesByScene.map fun scenes => scenes.map fun lines => lines.map (Line.retold cast.identifierOf) := by
  have sound := (Program.defects_eq_nil_iff program).1 (Program.compile_eq_ok_iff.1 hcompile).1
  obtain ⟨filled, cast, told, hnaming, hnamed, htranscribe, retold⟩ := retold_of_dramatize sound.closed hplay
  exact ⟨filled, cast, told, hnaming, hnamed, htranscribe, retold.declared, retold.nodup, retold.lines⟩

/-- two characters, one of whom counts the other down from three -/
def countdown : Program where
  title := "The Countdown"
  characters := [⟨⟨"clock"⟩, "who counts"⟩, ⟨⟨"bell"⟩, "who is counted by \x7bclock\x7d"⟩]
  acts := [⟨"All of it", [
    ⟨"The start", [
      .direction (.enter [⟨"clock"⟩, ⟨"bell"⟩]),
      .speech ⟨"bell"⟩ [.assign (.constant 1)],
      .speech ⟨"clock"⟩ [.assign (.constant 3), .remember (.character ⟨"clock"⟩)]]⟩,
    ⟨"The count", [
      .speech ⟨"clock"⟩ [
        .output .integer,
        .assign (.binary .sub (.role .addressee) (.constant 1)),
        .compare ⟨.greater, false, .character ⟨"bell"⟩, .constant 0⟩,
        .conditional true (.jump ⟨none, 2⟩)],
      .direction (.exeunt [])]⟩]⟩]

theorem countdown_compiles : ∃ script, countdown.compile = .ok script := ⟨countdown.lower, rfl⟩

theorem countdown_dramatizes : ∃ play, countdown.dramatize standard 7 = .ok play := by
  have composed : (countdown.dramatize standard 7).isOk = true := by decide +kernel
  cases h : countdown.dramatize standard 7 with
  | error cause => rw [h] at composed; cases composed
  | ok play => exact ⟨play, rfl⟩

theorem transcribe_dramatize_countdown :
    ∃ script play, countdown.compile = .ok script ∧ countdown.dramatize standard 7 = .ok play ∧
      ∃ filled cast told, Naming.ofProgram standard countdown = .ok (filled, cast) ∧
        (∀ id ∈ countdown.declared, ∃ name, cast.nameOf id = some name) ∧
        play.transcribe standard = .ok told ∧
        told.declared = countdown.declared.map cast.identifierOf ∧ told.declared.Nodup ∧
        told.linesByScene = countdown.linesByScene.map fun scenes =>
          scenes.map fun lines => lines.map (Line.retold cast.identifierOf) := by
  obtain ⟨script, hcompile⟩ := countdown_compiles
  obtain ⟨play, hplay⟩ := countdown_dramatizes
  exact ⟨script, play, hcompile, hplay, transcribe_dramatize hcompile hplay⟩

end Conversion

end Playscript
