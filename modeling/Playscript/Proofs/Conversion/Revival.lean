/-
The program of a play has a play again.

- `parseActs_numbered`, `parseActs_counted`: the acts, the scenes and the jumps of a play's program are within what there
  are numerals for, so its acts can be composed with any cast that names the declared characters (`composable_parsed`);
- `freeTexts_of_transcribe`: its free texts are those of the play, restored;
- `Play.Unbraced`, `fillable_restored`: they can be filled in, unless a name that holds a brace has been recognized;
- `dramatize_transcribed`: so the program has a play. `dramatize_braced`: with a brace in a name it may have none.
-/
import Playscript.Proofs.Cast.Recognizing
import Playscript.Proofs.Conversion.Idempotence
import Playscript.Proofs.Conversion.Layout

namespace Playscript

/-- the texts of a program that are not lines: its title and all descriptions -/
def Act.freeTexts (act : Act) : List String := act.description :: act.scenes.map (·.description)

def Program.freeTexts (program : Program) : List String :=
  program.title :: (program.characters.map (·.description) ++ program.acts.flatMap Act.freeTexts)

/-- no name that a text mentions holds a brace -/
def Cast.Unbraced (cast : Cast) (text : String) : Prop :=
  ∀ marks, Marked cast false text.toList marks → ∀ letters member, .name letters member ∈ marks →
    ∀ c ∈ member.2.toList, Template.isBrace c = false

/-- no name that a free text of the play mentions holds a brace -/
def Play.Unbraced (play : Play) : Prop :=
  ∀ cast, Cast.recover (play.personae.map (·.name)) = .ok cast → ∀ text ∈ play.freeTexts, cast.Unbraced text

/-! ## Numerals -/

/-- the acts and scenes that a line names -/
def Line.numerals : Line → List Nat
  | .direction _ => []
  | .speech _ statements => statements.flatMap Statement.numerals

namespace Transcribe

variable (vocabulary : Vocabulary)

/-- **Jumps that are read lead where there are numerals for.** -/
theorem parseActs_numbered (acts : List PlayAct) : Gives (parseActs vocabulary acts) fun told =>
    ∀ act ∈ told, ∀ scene ∈ act.scenes, ∀ line ∈ scene.lines, ∀ n ∈ line.numerals,
      1 ≤ n ∧ n ≤ vocabulary.lexicon.numerals.length := by
  have sentence := fun text => (Sentence.parse_simple vocabulary text).mono fun _ simple => simple.2
  refine parseActs_gives vocabulary (parseLine_gives vocabulary (fun _ _ _ => nofun) sentence ?_) acts
  intro speaker statements hnumbered n hn
  obtain ⟨s, hs, hn⟩ := List.mem_flatMap.1 hn
  exact hnumbered s hs n hn

theorem expectNumeral_bounds (kind : HeadingKind) (n : Nat) (found : String) :
    Gives (expectNumeral vocabulary kind n found) fun _ => 1 ≤ n ∧ n ≤ vocabulary.lexicon.numerals.length := by
  have mismatched : ∀ P, Gives (expectNumeral.mismatched vocabulary kind n found) P := by
    intro P
    unfold expectNumeral.mismatched
    split <;> exact gives_error _ _
  have bounds := vocabulary.lexicon.parseNumeral_bounds found
  unfold expectNumeral
  split
  · rename_i m hm
    split
    · rename_i hmn
      exact gives_ok (hmn ▸ bounds m hm)
    · exact mismatched _
  · exact mismatched _

/-- there is an answer for every item, and each says something of its item -/
theorem gives_mapM_each {ε α β : Type} {items : List α} {f : α → Except ε β} {P : β → Prop} {Q : α → Prop}
    (h : ∀ a ∈ items, Gives (f a) fun b => P b ∧ Q a) :
    Gives (items.mapM f) fun bs => bs.length = items.length ∧ (∀ b ∈ bs, P b) ∧ ∀ a ∈ items, Q a := by
  induction items with
  | nil => exact gives_ok ⟨rfl, nofun, nofun⟩
  | cons a items ih =>
    rw [List.mapM_cons]
    refine (h a List.mem_cons_self).bind fun b hb => ?_
    refine (ih fun a' h' => h a' (List.mem_cons_of_mem a h')).bind fun bs hbs => gives_ok ⟨?_, ?_, ?_⟩
    · rw [List.length_cons, List.length_cons, hbs.1]
    · exact List.forall_mem_cons.2 ⟨hb.1, hbs.2.1⟩
    · exact List.forall_mem_cons.2 ⟨hb.2, hbs.2.2⟩

/-- items that are numbered from one on are no more than there are numerals for -/
theorem gives_mapM_zipIdx {ε α β : Type} {items : List α} {f : α × Nat → Except ε β} {P : β → Prop} {most : Nat}
    (h : ∀ item ∈ items.zipIdx 1, Gives (f item) fun b => P b ∧ 1 ≤ item.2 ∧ item.2 ≤ most) :
    Gives ((items.zipIdx 1).mapM f) fun bs => bs.length ≤ most ∧ ∀ b ∈ bs, P b := by
  refine (gives_mapM_each h).mono fun bs ⟨hlength, hP, hcounted⟩ => ⟨?_, hP⟩
  have all : ∀ item ∈ items.zipIdx 1, True ∧ 1 ≤ item.2 ∧ item.2 ≤ most := fun item hitem =>
    ⟨trivial, hcounted item hitem⟩
  rw [hlength, List.length_zipIdx]
  exact ((Conversion.forall_mem_zipIdx_one (A := fun _ => True)).1 all).2

/-- **Acts and scenes that are read are numbered.** -/
theorem parseActs_counted (acts : List PlayAct) : Gives (parseActs vocabulary acts) fun told =>
    told.length ≤ vocabulary.lexicon.numerals.length ∧
      ∀ act ∈ told, act.scenes.length ≤ vocabulary.lexicon.numerals.length := by
  refine gives_mapM_zipIdx fun act _ => ?_
  refine (expectNumeral_bounds vocabulary .act act.2 act.1.numeral).bind fun _ hact => ?_
  have scenes : Gives ((act.1.scenes.zipIdx 1).mapM fun scene => parseScene vocabulary ⟨act.2, scene.2⟩ scene.1)
      fun told => told.length ≤ vocabulary.lexicon.numerals.length ∧ ∀ scene ∈ told, True := by
    refine gives_mapM_zipIdx fun scene _ => ?_
    refine (expectNumeral_bounds vocabulary .scene scene.2 scene.1.numeral).bind fun _ hscene => ?_
    exact gives_after _ fun _ => gives_ok ⟨trivial, hscene⟩
  exact scenes.bind fun told hcounted => gives_ok ⟨hcounted.1, hact⟩

end Transcribe

/-! ## Composing what has been read -/

namespace Conversion

open Lexicon Naming

/-- whether acts can be composed depends on their lines only -/
theorem Composable.of_linesByScene {lexicon : Lexicon} {cast : Cast} {program filled : Program}
    (h : filled.linesByScene = program.linesByScene) (composable : Composable lexicon cast program.acts) :
    Composable lexicon cast filled.acts := by
  have same : ∀ act ∈ filled.acts, ∃ before ∈ program.acts, act.scenes.map (·.lines) = before.scenes.map (·.lines) := by
    intro act hact
    have hmem : act.scenes.map (·.lines) ∈ program.linesByScene := h ▸ List.mem_map_of_mem hact
    obtain ⟨before, hbefore, heq⟩ := List.mem_map.1 hmem
    exact ⟨before, hbefore, heq.symm⟩
  refine ⟨?_, fun act hact => ?_, fun act hact scene hscene => ?_⟩
  · have hlength := congrArg List.length h
    rw [Program.linesByScene, Program.linesByScene, List.length_map, List.length_map] at hlength
    exact hlength ▸ composable.counted
  · obtain ⟨before, hbefore, heq⟩ := same act hact
    have hlength := congrArg List.length heq
    rw [List.length_map, List.length_map] at hlength
    exact hlength ▸ composable.scenes before hbefore
  · obtain ⟨before, hbefore, heq⟩ := same act hact
    have hmem : scene.lines ∈ before.scenes.map (·.lines) := heq ▸ List.mem_map_of_mem hscene
    obtain ⟨other, hother, hlines⟩ := List.mem_map.1 hmem
    exact hlines ▸ composable.lines before hbefore other hother

/-- a line that is formed and names only acts and scenes that there are numerals for can be composed with any cast that
knows whom it mentions -/
theorem composable_of_formed {lexicon : Lexicon} {cast : Cast} {line : Line} (formed : line.Formed)
    (numbered : ∀ n ∈ line.numerals, 1 ≤ n ∧ n ≤ lexicon.numerals.length)
    (named : ∀ id ∈ line.mentions, ∃ name, cast.nameOf id = some name) : line.Composable lexicon cast := by
  cases line with
  | direction d => exact ⟨formed, named⟩
  | speech speaker statements =>
    refine ⟨named speaker List.mem_cons_self, fun s hs => ⟨?_, fun id hid _ => named id ?_, fun n hn => ?_⟩⟩
    · rintro polarity inner body rfl
      cases (formed _ hs).1
    · exact List.mem_cons_of_mem _ (List.mem_flatMap.2 ⟨s, hs, hid⟩)
    · exact numbered n (List.mem_flatMap.2 ⟨s, hs, hn⟩)

/-- **The program of a play can be composed** with any cast that names its characters. -/
theorem composable_parsed {lexicon : Lexicon} {play : Play} {told : Program} (htold : play.transcribe lexicon = .ok told)
    {cast : Cast} (named : ∀ id ∈ told.declared, ∃ name, cast.nameOf id = some name) :
    Composable lexicon cast told.acts := by
  have formed := formed_of_transcribe htold
  have mentioned := formed.mem_declared (rfl : told.linesByScene = told.linesByScene)
  unfold Play.transcribe at htold
  split at htold
  · cases htold
  · rename_i known hknown
    obtain ⟨acts, hacts, hprogram⟩ := bind_eq_ok.1 htold
    cases hprogram
    have numbered := Transcribe.parseActs_numbered (Vocabulary.of lexicon known) play.acts acts hacts
    obtain ⟨counted, scenes⟩ := Transcribe.parseActs_counted (Vocabulary.of lexicon known) play.acts acts hacts
    refine ⟨counted, scenes, fun act hact scene hscene line hline => ?_⟩
    obtain ⟨i, j, hhas⟩ := Program.hasLine_of_mem hact hscene hline
    refine composable_of_formed (formed.lines i j line hhas) (numbered act hact scene hscene line hline) ?_
    exact fun id hid => named id (mentioned act hact scene hscene line hline id hid)

/-! ## Filling in what has been restored -/

/-- **The free texts of a play's program are those of the play, restored.** -/
theorem freeTexts_of_transcribe {lexicon : Lexicon} {play : Play} {told : Program}
    (htold : play.transcribe lexicon = .ok told) : ∃ cast, Cast.recover (play.personae.map (·.name)) = .ok cast ∧
      told.declared = cast.members.map (·.1) ∧
      ∀ text ∈ told.freeTexts, ∃ original ∈ play.freeTexts, text = cast.restore original := by
  unfold Play.transcribe at htold
  split at htold
  · cases htold
  · rename_i cast hcast
    obtain ⟨acts, hacts, hprogram⟩ := bind_eq_ok.1 htold
    cases hprogram
    refine ⟨cast, hcast, Transcribe.declared_of_recover hcast, ?_⟩
    have ofActs : ∀ act ∈ acts, ∀ text ∈ act.freeTexts,
        ∃ original ∈ play.acts.flatMap PlayAct.freeTexts, text = cast.restore original := by
      refine gives_mapM (fun act hact => ?_) acts hacts
      have listed : ∀ original ∈ act.1.freeTexts, original ∈ play.acts.flatMap PlayAct.freeTexts := fun _ h =>
        List.mem_flatMap.2 ⟨act.1, List.fst_mem_of_mem_zipIdx hact, h⟩
      refine gives_after _ fun _ => ?_
      have scenes : Gives ((act.1.scenes.zipIdx 1).mapM fun scene =>
          Transcribe.parseScene (Vocabulary.of lexicon cast) ⟨act.2, scene.2⟩ scene.1) fun told =>
          ∀ scene ∈ told, ∃ original ∈ act.1.freeTexts, scene.description = cast.restore original := by
        refine gives_mapM fun scene hscene => gives_after _ fun _ => gives_after _ fun _ => gives_ok ?_
        exact ⟨_, List.mem_cons_of_mem _ (List.mem_map_of_mem (List.fst_mem_of_mem_zipIdx hscene)), rfl⟩
      refine scenes.bind fun told hscenes => gives_ok fun text htext => ?_
      rcases List.mem_cons.1 htext with rfl | htext
      · exact ⟨_, listed _ List.mem_cons_self, rfl⟩
      · obtain ⟨scene, hscene, rfl⟩ := List.mem_map.1 htext
        obtain ⟨original, horiginal, heq⟩ := hscenes scene hscene
        exact ⟨original, listed original horiginal, heq⟩
    intro text htext
    rcases List.mem_cons.1 htext with rfl | htext
    · exact ⟨play.title, List.mem_cons_self, rfl⟩
    · rcases List.mem_append.1 htext with htext | htext
      · obtain ⟨declaration, hdeclaration, rfl⟩ := List.mem_map.1 htext
        obtain ⟨⟨member, persona⟩, hpair, rfl⟩ := List.mem_map.1 hdeclaration
        have hmem : persona.description ∈ play.personae.map (·.description) :=
          List.mem_map_of_mem (List.of_mem_zip hpair).2
        exact ⟨persona.description, List.mem_cons_of_mem _ (List.mem_append_left _ hmem), rfl⟩
      · obtain ⟨act, hact, htext⟩ := List.mem_flatMap.1 htext
        obtain ⟨original, horiginal, heq⟩ := ofActs act hact text htext
        exact ⟨original, List.mem_cons_of_mem _ (List.mem_append_right _ horiginal), heq⟩

/-- a play without braces in the names of its characters -/
theorem unbraced_of_plain {play : Play}
    (h : ∀ persona ∈ play.personae, persona.name.toList.any Template.isBrace = false) : play.Unbraced := by
  intro cast hcast text _ marks hmarks letters member hmark
  obtain ⟨hnames, -, -⟩ := Cast.identifiers_of_recover hcast
  have hname : member.2 ∈ cast.names := Cast.mem_names (hmarks.same hmark).1
  rw [hnames] at hname
  obtain ⟨persona, hpersona, heq⟩ := List.mem_map.1 hname
  exact heq ▸ fun c hc => Bool.eq_false_iff.2 (List.any_eq_false.1 (h persona hpersona) c hc)

/-- **A text that has been restored can be filled in** with any cast that names the same characters, if no name that has
been recognized in it holds a brace. -/
theorem fillable_restored {names : List String} {cast other : Cast} (hcast : Cast.recover names = .ok cast)
    (ink : ∀ name ∈ names, Text.trim name ≠ "") {text : String}
    (unbraced : cast.Unbraced text)
    (named : ∀ id ∈ cast.members.map (·.1), ∃ name, other.nameOf id = some name) :
    ∃ filled, other.substitute (cast.restore text) = (.ok filled, other) := by
  have recovered := Cast.recovered_of_recover hcast
  obtain ⟨hnames, -, -⟩ := Cast.identifiers_of_recover hcast
  have inked : ∀ member ∈ cast.members, Text.trim member.2 ≠ "" := fun member hmember =>
    ink member.2 (hnames ▸ Cast.mem_names hmember)
  have nonempty : ∀ member ∈ cast.members, member.2 ≠ "" := fun member hmember hempty =>
    inked member hmember (by rw [hempty]; rfl)
  obtain ⟨parts, scanned⟩ := Cast.exists_scans (fun _ hmember => (Cast.mem_byLength.1 hmember).2) false text.toList
  obtain ⟨marks, marked, rfl⟩ := scanned.marked nonempty
  have found : ∀ id, .placeholder id ∈ marks.map Cast.Mark.piece →
      ∃ letters member, Cast.Mark.name letters member ∈ marks ∧ member.1 = id := by
    intro id hid
    obtain ⟨mark, hmark, hpiece⟩ := List.mem_map.1 hid
    cases mark with
    | plain c => cases hpiece
    | name letters member =>
      cases hpiece
      exact ⟨letters, member, hmark, rfl⟩
  have placeable : ∀ id, .placeholder id ∈ marks.map Cast.Mark.piece → id.Placeable := by
    intro id hid
    obtain ⟨letters, member, hmark, rfl⟩ := found id hid
    have hmember := (marked.same hmark).1
    rw [recovered.derived member.1 member.2 hmember]
    exact identifierFor_placeable (inked member hmember) (unbraced marks marked letters member hmark)
  have known : ∀ id, .placeholder id ∈ marks.map Cast.Mark.piece → ∃ name, other.nameOf id = some name := by
    intro id hid
    obtain ⟨letters, member, hmark, rfl⟩ := found id hid
    exact named _ (List.mem_map_of_mem (marked.same hmark).1)
  refine ⟨String.ofList ((marks.map Cast.Mark.piece).flatMap (Template.Piece.said other)), ?_⟩
  rw [Cast.substitute, Cast.templateOf, Template.parse?, Cast.pieces_restore scanned placeable]
  exact Cast.fill_gather known

section Filling

variable {cast : Cast}

theorem exists_rests_mapM {α β : Type} {items : List α} {f : α → Naming β}
    (h : ∀ item ∈ items, ∃ b, Rests cast (f item) b) : ∃ bs, Rests cast (items.mapM f) bs := by
  induction items with
  | nil => exact ⟨[], rests_pure []⟩
  | cons item items ih =>
    obtain ⟨b, hb⟩ := h item List.mem_cons_self
    obtain ⟨bs, hbs⟩ := ih fun other hother => h other (List.mem_cons_of_mem item hother)
    rw [List.mapM_cons]
    exact ⟨b :: bs, hb.bind (hbs.bind (rests_pure _))⟩

/-- **A program whose free texts can be filled in can be filled in itself.** -/
theorem exists_rests_fillProgram {program : Program}
    (texts : ∀ text ∈ program.freeTexts, ∃ filled, cast.substitute text = (.ok filled, cast)) :
    ∃ filled, Rests cast (fillProgram program) filled := by
  have rests : ∀ text ∈ program.freeTexts, ∃ filled, Rests cast (fill text) filled := by
    intro text htext
    obtain ⟨filled, hfilled⟩ := texts text htext
    refine ⟨filled, ?_⟩
    unfold Rests fill
    rw [hfilled]
  have declaration : ∀ declaration ∈ program.characters, ∃ filled, Rests cast (fillDeclaration declaration) filled := by
    intro declaration hmem
    obtain ⟨filled, hfilled⟩ := rests declaration.description
      (List.mem_cons_of_mem _ (List.mem_append_left _ (List.mem_map_of_mem hmem)))
    exact ⟨_, hfilled.bind (rests_pure _)⟩
  have act : ∀ act ∈ program.acts, ∃ filled, Rests cast (fillAct act) filled := by
    intro act hact
    have listed : ∀ text ∈ act.freeTexts, ∃ filled, Rests cast (fill text) filled := fun text htext =>
      rests text (List.mem_cons_of_mem _ (List.mem_append_right _ (List.mem_flatMap.2 ⟨act, hact, htext⟩)))
    have scene : ∀ scene ∈ act.scenes, ∃ filled, Rests cast (fillScene scene) filled := by
      intro scene hscene
      obtain ⟨filled, hfilled⟩ := listed scene.description (List.mem_cons_of_mem _ (List.mem_map_of_mem hscene))
      exact ⟨_, hfilled.bind (rests_pure _)⟩
    obtain ⟨scenes, hscenes⟩ := exists_rests_mapM scene
    obtain ⟨filled, hfilled⟩ := listed act.description List.mem_cons_self
    exact ⟨_, hscenes.bind (hfilled.bind (rests_pure _))⟩
  obtain ⟨title, htitle⟩ := rests program.title List.mem_cons_self
  obtain ⟨characters, hcharacters⟩ := exists_rests_mapM declaration
  obtain ⟨acts, hacts⟩ := exists_rests_mapM act
  exact ⟨_, htitle.bind (hcharacters.bind (hacts.bind (rests_pure _)))⟩

end Filling

/-- **The program of a play has a play again.** Let a play have a program with the standard lexicon, at most thirty
characters, none with a blank name, and let no name that a free text mentions hold a brace. Whatever the seed, the
program has a play. -/
theorem dramatize_transcribed {play : Play} {told : Program} (htold : play.transcribe standard = .ok told)
    (few : play.personae.length ≤ 30) (ink : ∀ persona ∈ play.personae, Text.trim persona.name ≠ "")
    (unbraced : play.Unbraced) (seed : UInt64) : ∃ again, told.dramatize standard seed = .ok again := by
  obtain ⟨known, hknown, hdeclared, htexts⟩ := freeTexts_of_transcribe htold
  have formed := formed_of_transcribe htold
  have enough : told.declared.length ≤ standardCast.length := by
    obtain ⟨hnames, -, -⟩ := Cast.identifiers_of_recover hknown
    have hlength := congrArg List.length hnames
    rw [Cast.names, List.length_map, List.length_map] at hlength
    rw [hdeclared, List.length_map, hlength]
    exact few
  obtain ⟨cast, hall⟩ : ∃ cast, (Cast.ofLexicon standard).allocateAll told.declared = .ok cast :=
    ⟨_, (Cast.allocateAll_ofNames standard_names.lowercase_nodup formed.nodup).2 ⟨enough, rfl⟩⟩
  obtain ⟨hgrows, named⟩ := Cast.allocateAll_eq_ok hall
  have texts : ∀ text ∈ told.freeTexts, ∃ filled, cast.substitute text = (.ok filled, cast) := by
    intro text htext
    obtain ⟨original, horiginal, rfl⟩ := htexts text htext
    have inked : ∀ name ∈ play.personae.map (·.name), Text.trim name ≠ "" := by simpa using ink
    refine fillable_restored hknown inked (unbraced known hknown original horiginal) fun id hid => named id ?_
    rwa [hdeclared]
  obtain ⟨filled, hfilled⟩ := exists_rests_fillProgram texts
  have hnaming := bind_eq_ok.2 ⟨_, hall, hfilled⟩
  obtain ⟨-, -, -, hlines⟩ := @Naming.ofProgram_eq_ok standard _ _ _ hnaming
  have ample := Vocabulary.ample_of_standard (Cast.drawn_of_grows hgrows).named
  obtain ⟨acts, hacts⟩ := (composeActs_succeeds ample filled.acts (Generator.ofSeed seed)).2
    ((composable_parsed htold named).of_linesByScene hlines)
  exact ⟨_, dramatize_eq_ok_iff.2 ⟨filled, _, acts, hnaming, hacts, rfl⟩⟩

/-- two whom the title mentions, one of them in capitals and with braces around -/
def elopement : Play where
  title := "\x7bROMEO\x7d and Juliet"
  personae := [⟨"Romeo", "in love with Juliet"⟩, ⟨"Juliet", "a girl"⟩]
  acts := [⟨"I", "Juliet's balcony", [⟨"I", "Night", [
    .direction "Enter Romeo and Juliet",
    .speech "Romeo" ["You are as good as the difference between Juliet and a rose.", "Let us proceed to scene I."]]⟩]⟩]

theorem dramatize_transcribed_elopement : ∃ told, elopement.transcribe standard = .ok told ∧
    ∀ seed, ∃ again, told.dramatize standard seed = .ok again := by
  have transcribed : (elopement.transcribe standard).toOption.isSome = true := by decide +kernel
  obtain ⟨told, htold⟩ := Option.isSome_iff_exists.1 transcribed
  have plain : ∀ persona ∈ elopement.personae, persona.name.toList.any Template.isBrace = false := by decide
  have returns := eq_ok_of_toOption htold
  exact ⟨told, returns, dramatize_transcribed returns (by decide) (by decide) (unbraced_of_plain plain)⟩

/-- **A brace in a name is not escaped.** Where such a name is recognized in the title, its identifier is put between
braces as it is, and the program that the play has is no program of any play. -/
theorem dramatize_braced : ∃ (play : Play) (told : Program), play.personae.length ≤ 30 ∧
    (∀ persona ∈ play.personae, Text.trim persona.name ≠ "") ∧ play.transcribe standard = .ok told ∧
      ∀ seed, told.dramatize standard seed = .error (.cast (.badTemplate .unclosed "\x7br\x7bx\x7d")) := by
  have transcribed : Play.transcribe standard ⟨"R\x7bx", [⟨"R\x7bx", "a man"⟩], []⟩ =
      .ok ⟨"\x7br\x7bx\x7d", [⟨⟨"r\x7bx"⟩, "a man"⟩], []⟩ := eq_ok_of_toOption (by decide +kernel)
  refine ⟨_, _, by decide, by decide, transcribed, fun seed => ?_⟩
  have named : Naming.ofProgram standard ⟨"\x7br\x7bx\x7d", [⟨⟨"r\x7bx"⟩, "a man"⟩], []⟩ =
      .error (.badTemplate .unclosed "\x7br\x7bx\x7d") := by decide +kernel
  rw [Program.dramatize, named]

end Conversion

end Playscript
