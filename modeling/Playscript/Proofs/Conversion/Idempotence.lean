/-
A program that has come back from a play once comes back as it is.

- `Naming.namesFor_of_ofProgram`: the declared characters of a program have the first names of the lexicon, in order;
- `Cast.allotted`: so a program that has come back gives out the same names, each to the identifier derived from it;
- `Naming.Rests`, `Conversion.ofProgram_told`: its free texts, restored, ask for no other name;
- `retoldProgram_retold`: told once more, it is the same program;
- `transcribe_dramatize_told`: so it has a play, whatever the seed, and comes back from it unchanged;
- `transcribe_dramatize_idem`: the same, said of programs that compile.
-/
import Playscript.Proofs.Cast.Allotting
import Playscript.Proofs.Cast.Restoring
import Playscript.Proofs.Conversion.Acceptance
import Playscript.Proofs.Conversion.Forming
import Playscript.Proofs.Conversion.Retelling

namespace Playscript

/-! ## The first names -/

namespace Cast

/-- the names of all members are the names of the cast -/
theorem namesFor_identifiers {cast : Cast} (once : (cast.members.map (·.1)).Nodup) :
    cast.namesFor (cast.members.map (·.1)) = cast.names := by
  rw [namesFor, List.map_map, Cast.names]
  refine List.map_congr_left fun member hmember => ?_
  rw [Function.comp_apply, nameOf_of_mem once hmember, Option.getD_some]

/-- whoever has a name keeps it -/
theorem Grows.namesFor {cast next : Cast} (h : cast.Grows next) {ids : List Ident}
    (named : ∀ id ∈ ids, ∃ name, cast.nameOf id = some name) : next.namesFor ids = cast.namesFor ids := by
  refine List.map_congr_left fun id hid => ?_
  obtain ⟨name, hname⟩ := named id hid
  rw [hname, h.nameOf hname]

/-- a fresh cast gives its names out in order -/
theorem allocateAll_ofNames {names : List String} (apart : (names.map Text.lowercase).Nodup) {ids : List Ident}
    (hids : ids.Nodup) {next : Cast} :
    (ofNames names).allocateAll ids = .ok next ↔
      ids.length ≤ names.length ∧ next = ⟨names.drop ids.length, ids.zip (names.take ids.length)⟩ := by
  have fresh : ((ofNames names).members.map (·.1) ++ ids).Nodup := by simpa [ofNames] using hids
  have unborne : (((ofNames names).names ++ (ofNames names).pool).map Text.lowercase).Nodup := by
    simpa [ofNames, Cast.names] using apart
  refine (allocateAll_eq_ok_iff fresh unborne).trans (and_congr_right fun hpool => ?_)
  have hlength : ids.length ≤ names.length := hpool
  have paired : ids.zip names = ids.zip (names.take ids.length) := by
    rw [List.zip_eq_zip_take_min, Nat.min_eq_left hlength, List.take_length]
  rw [← paired]
  rfl

/-- the first `n` names given out, each to the identifier derived from it -/
def allotted (names : List String) (n : Nat) : Cast := ⟨names.drop n, (ofMembers (names.take n)).members⟩

section Allotted

variable {names : List String} (identifiers : (names.map identifierFor).Nodup) (n : Nat)
include identifiers

theorem once_allotted : ((allotted names n).members.map (·.1)).Nodup := by
  rw [allotted, identifiers_ofMembers]
  exact identifiers.sublist ((names.take_sublist n).map _)

/-- a name has been given to the identifier derived from it -/
theorem nameOf_allotted {name : String} (h : name ∈ names.take n) :
    (allotted names n).nameOf (identifierFor name) = some name :=
  nameOf_of_mem (once_allotted identifiers n) (List.mem_map.2 ⟨name, h, rfl⟩)

theorem namesFor_allotted : (allotted names n).namesFor ((names.take n).map identifierFor) = names.take n := by
  have all := namesFor_identifiers (once_allotted identifiers n)
  rw [allotted, identifiers_ofMembers] at all
  exact all.trans (names_ofMembers _)

/-- identifiers that names have given come from these names again -/
theorem identifierOf_allotted {id : Ident} (h : id ∈ (names.take n).map identifierFor) :
    (allotted names n).identifierOf id = id := by
  obtain ⟨name, hname, rfl⟩ := List.mem_map.1 h
  rw [identifierOf, nameOf_allotted identifiers n hname, Option.getD_some]

/-- **Identifiers derived from the first names are given these names**, when they ask in order. -/
theorem allocateAll_identifiers (apart : (names.map Text.lowercase).Nodup) (hn : n ≤ names.length) :
    (ofNames names).allocateAll ((names.take n).map identifierFor) = .ok (allotted names n) := by
  have nodup : ((names.take n).map identifierFor).Nodup := identifiers.sublist ((names.take_sublist n).map _)
  have length : ((names.take n).map identifierFor).length = n := by rw [List.length_map, List.length_take_of_le hn]
  have paired : ((names.take n).map identifierFor).zip (names.take n) =
      (names.take n).map fun name => (identifierFor name, name) := by
    rw [← List.zip_map', List.map_id']
  rw [allocateAll_ofNames apart nodup, length, paired]
  exact ⟨hn, rfl⟩

end Allotted

end Cast

namespace Naming

/-- **Declared characters have the first names of the lexicon**, in order. -/
theorem namesFor_of_ofProgram {lexicon : Lexicon} {program filled : Program} {cast : Cast}
    (apart : (lexicon.cast.map Text.lowercase).Nodup) (nodup : program.declared.Nodup)
    (h : ofProgram lexicon program = .ok (filled, cast)) :
    program.declared.length ≤ lexicon.cast.length ∧
      cast.namesFor program.declared = lexicon.cast.take program.declared.length := by
  obtain ⟨first, hall, hfilled⟩ := bind_eq_ok.1 h
  obtain ⟨-, hnamed⟩ := Cast.allocateAll_eq_ok hall
  obtain ⟨hgrows, -⟩ := keeps_fillProgram program _ filled cast hfilled
  obtain ⟨hlength, rfl⟩ := (Cast.allocateAll_ofNames apart nodup).1 hall
  have hpairs : program.declared.length = (lexicon.cast.take program.declared.length).length :=
    (List.length_take_of_le hlength).symm
  have ids := List.map_fst_zip (Nat.le_of_eq hpairs)
  have once : ((program.declared.zip (lexicon.cast.take program.declared.length)).map (·.1)).Nodup := by rwa [ids]
  have names := @Cast.namesFor_identifiers ⟨lexicon.cast.drop program.declared.length, program.declared.zip _⟩ once
  rw [ids] at names
  exact ⟨hlength, (hgrows.namesFor hnamed).trans (names.trans (List.map_snd_zip (Nat.le_of_eq hpairs.symm)))⟩

/-! ## Texts that ask for no name -/

variable {α β γ : Type} {cast : Cast}

/-- the answer is this one, and no name has been given out -/
def Rests (cast : Cast) (x : Naming α) (a : α) : Prop := x cast = .ok (a, cast)

theorem rests_pure (a : α) : Rests cast (pure a) a := rfl

theorem Rests.bind {x : Naming α} {f : α → Naming β} {a : α} {b : β} (hx : Rests cast x a) (hf : Rests cast (f a) b) :
    Rests cast (x >>= f) b :=
  bind_eq_ok.2 ⟨(a, cast), hx, hf⟩

theorem rests_mapM {items : List γ} {f : α → Naming β} {before : γ → α} {after : γ → β}
    (h : ∀ item ∈ items, Rests cast (f (before item)) (after item)) :
    Rests cast ((items.map before).mapM f) (items.map after) := by
  induction items with
  | nil => exact rests_pure []
  | cons item items ih =>
    rw [List.map_cons, List.mapM_cons]
    have rest := ih fun other hother => h other (List.mem_cons_of_mem item hother)
    exact (h item List.mem_cons_self).bind (rest.bind (rests_pure _))

end Naming

namespace Conversion

open Lexicon Naming

section Texts

variable {cast : Cast} {restore again : String → String}
  (texts : ∀ text, cast.substitute (restore text) = (.ok (again text), cast)) (f : Ident → Ident)
include texts

theorem rests_fill (text : String) : Rests cast (fill (restore text)) (again text) := by
  unfold Rests fill
  rw [texts]

theorem rests_fillScene (scene : Scene) :
    Rests cast (fillScene (retoldScene restore f scene)) (retoldScene again f scene) :=
  (rests_fill texts _).bind (rests_pure _)

theorem rests_fillAct (act : Act) : Rests cast (fillAct (retoldAct restore f act)) (retoldAct again f act) :=
  (rests_mapM fun scene _ => rests_fillScene texts f scene).bind ((rests_fill texts _).bind (rests_pure _))

/-- **A program that is filled in without a new name** is the same but for its free texts. -/
theorem rests_fillProgram (program : Program) :
    Rests cast (fillProgram (retoldProgram restore f program)) (retoldProgram again f program) := by
  have declaration : ∀ declaration ∈ program.characters,
      Rests cast (fillDeclaration ⟨f declaration.id, restore declaration.description⟩)
        ⟨f declaration.id, again declaration.description⟩ :=
    fun declaration _ => (rests_fill texts _).bind (rests_pure _)
  have act : ∀ act ∈ program.acts, Rests cast (fillAct (retoldAct restore f act)) (retoldAct again f act) :=
    fun act _ => rests_fillAct texts f act
  exact (rests_fill texts _).bind ((rests_mapM declaration).bind ((rests_mapM act).bind (rests_pure _)))

end Texts

/-- **A program that has come back is filled in** with the names that it had. -/
theorem ofProgram_told {filled : Program} {f : Ident → Ident} {n : Nat} (hn : n ≤ standardCast.length)
    (hdeclared : filled.declared.map f = (standardCast.take n).map identifierFor) :
    ∃ again : String → String,
      (∀ text, (Cast.allotted standardCast n).restore (again text) = (Cast.allotted standardCast n).restore text) ∧
      Naming.ofProgram standard (retoldProgram (Cast.allotted standardCast n).restore f filled) =
        .ok (retoldProgram again f filled, Cast.allotted standardCast n) := by
  have placeable : ∀ member ∈ (Cast.allotted standardCast n).members, member.1.Placeable := by
    intro member hmember
    obtain ⟨name, hname, rfl⟩ := List.mem_map.1 hmember
    exact placeable_of_standard (List.mem_of_mem_take hname)
  choose again texts restored _ using
    Cast.substitute_restore (Cast.once_allotted standard_names.identifiers_nodup n) placeable
  have asked : (retoldProgram (Cast.allotted standardCast n).restore f filled).characters.map (·.id) =
      (standardCast.take n).map identifierFor := (declared_retoldProgram _ f filled).trans hdeclared
  have allotted := Cast.allocateAll_identifiers standard_names.identifiers_nodup n standard_names.lowercase_nodup hn
  refine ⟨again, restored, bind_eq_ok.2 ⟨Cast.allotted standardCast n, ?_, rests_fillProgram texts f filled⟩⟩
  rw [asked]
  exact allotted

/-! ## Told once more -/

/-- a program that is told a second time is as it was told the first time, if this is so of each of its parts -/
theorem retoldProgram_retold {restore again : String → String} {f g : Ident → Ident} {program : Program}
    (texts : ∀ text, restore (again text) = restore text) (ids : ∀ id ∈ program.declared, g (f id) = f id)
    (lines : ∀ act ∈ program.acts, ∀ scene ∈ act.scenes, ∀ line ∈ scene.lines,
      (line.retold f).retold g = line.retold f) :
    retoldProgram restore g (retoldProgram again f program) = retoldProgram restore f program := by
  have scene : ∀ act ∈ program.acts, ∀ scene ∈ act.scenes,
      retoldScene restore g (retoldScene again f scene) = retoldScene restore f scene := by
    intro act hact scene hscene
    simp only [retoldScene, texts, List.map_map, Scene.mk.injEq, true_and]
    exact List.map_congr_left (lines act hact scene hscene)
  have act : ∀ act ∈ program.acts, retoldAct restore g (retoldAct again f act) = retoldAct restore f act := by
    intro act hact
    simp only [retoldAct, texts, List.map_map, Act.mk.injEq, true_and]
    exact List.map_congr_left (scene act hact)
  have declaration : ∀ declaration ∈ program.characters,
      (⟨g (f declaration.id), restore (again declaration.description)⟩ : Declaration) =
        ⟨f declaration.id, restore declaration.description⟩ := by
    intro declaration hmem
    rw [texts, ids _ (List.mem_map_of_mem hmem)]
  simp only [retoldProgram, texts, List.map_map, Program.mk.injEq, true_and]
  exact ⟨List.map_congr_left declaration, List.map_congr_left act⟩

/-- a program, its free texts filled in, that can be composed, and whose characters are told under the identifiers of the
first `n` names -/
structure Recast (filled : Program) (cast : Cast) (f : Ident → Ident) (n : Nat) : Prop where
  enough : n ≤ standardCast.length
  declared : filled.declared.map f = (standardCast.take n).map identifierFor
  mentioned : ∀ act ∈ filled.acts, ∀ scene ∈ act.scenes, ∀ line ∈ scene.lines, ∀ id ∈ line.mentions,
    id ∈ filled.declared
  composable : Composable standard cast filled.acts

/-- **What comes back is told under the identifiers of the first names.** -/
theorem recast_of_transcribe {program told : Program} {seed : UInt64} {play : Play}
    (hplay : program.dramatize standard seed = .ok play) (htold : play.transcribe standard = .ok told) :
    ∃ filled cast f n, Recast filled cast f n ∧
      told = retoldProgram (Cast.allotted standardCast n).restore f filled := by
  have closed := closed_of_transcribe hplay htold
  obtain ⟨filled, cast, acts, hnaming, hacts, rfl⟩ := dramatize_eq_ok_iff.1 hplay
  obtain ⟨hgrows, -, hdeclared, hlines⟩ := Naming.ofProgram_eq_ok hnaming
  obtain ⟨enough, hnames⟩ := Naming.namesFor_of_ofProgram standard_names.lowercase_nodup closed.nodup hnaming
  have identifiers : program.declared.map cast.identifierOf = (cast.namesFor program.declared).map identifierFor := by
    rw [Cast.namesFor, List.map_map]
    rfl
  have hretold := transcribe_eq_retold closed hnaming hacts
  rw [hnames] at identifiers hretold
  have ample := Vocabulary.ample_of_standard (Cast.drawn_of_grows hgrows).named
  refine ⟨filled, cast, cast.identifierOf, program.declared.length, ⟨enough, ?_, ?_, ?_⟩, ?_⟩
  · rw [hdeclared, identifiers]
    rfl
  · rw [hdeclared]
    exact closed.mem_declared hlines
  · exact (composeActs_succeeds ample filled.acts _).1 ⟨acts, hacts⟩
  · exact Except.ok.inj (htold.symm.trans hretold)

namespace Recast

variable {filled : Program} {cast : Cast} {f : Ident → Ident} {n : Nat} (recast : Recast filled cast f n)
include recast

/-- whoever is declared has the identifier of one of the first names -/
theorem mem_identifiers {id : Ident} (h : id ∈ filled.declared) : f id ∈ (standardCast.take n).map identifierFor :=
  recast.declared ▸ List.mem_map_of_mem h

/-- no two characters have become one -/
theorem apart {id other : Ident} (h : id ∈ filled.declared) (ho : other ∈ filled.declared) (hsame : f id = f other) :
    id = other := by
  have nodup : (filled.declared.map f).Nodup := by
    rw [recast.declared]
    exact standard_names.identifiers_nodup.sublist ((standardCast.take_sublist n).map _)
  exact List.inj_on_of_nodup_map nodup h ho hsame

/-- **The program can be composed again** with the first names. -/
theorem composable_again (again : String → String) :
    Composable standard (Cast.allotted standardCast n) (filled.acts.map (retoldAct again f)) := by
  refine recast.composable.retold (fun act hact scene hscene line hline id hid => ?_) again
  have mem := recast.mem_identifiers (recast.mentioned act hact scene hscene line hline id hid)
  obtain ⟨name, hname, heq⟩ := List.mem_map.1 mem
  exact ⟨name, heq ▸ Cast.nameOf_allotted standard_names.identifiers_nodup n hname⟩

/-- **Told once more, it is as it was**, if all its lines are formed. -/
theorem retold_settled {restore again : String → String} (formed : (retoldProgram restore f filled).Formed)
    (texts : ∀ text, restore (again text) = restore text) :
    retoldProgram restore (Cast.allotted standardCast n).identifierOf (retoldProgram again f filled) =
      retoldProgram restore f filled := by
  have fixed : ∀ id ∈ filled.declared, (Cast.allotted standardCast n).identifierOf (f id) = f id := fun id hid =>
    Cast.identifierOf_allotted standard_names.identifiers_nodup n (recast.mem_identifiers hid)
  refine retoldProgram_retold texts fixed fun act hact scene hscene line hline => ?_
  have mentioned := recast.mentioned act hact scene hscene line hline
  obtain ⟨i, j, hhas⟩ := @Program.hasLine_of_mem (retoldProgram restore f filled) _ (List.mem_map_of_mem hact) _
    (List.mem_map_of_mem hscene) _ (List.mem_map_of_mem hline)
  refine Line.retold_eq_self (formed.lines i j _ hhas) ?_ fun id hid => ?_
  · exact Line.retold_modest fun id hid other ho => recast.apart (mentioned id hid) (mentioned other ho)
  · obtain ⟨own, hown, rfl⟩ := Line.mem_mentions_retold_iff.1 hid
    exact fixed own (mentioned own hown)

end Recast

/-- **A program that has come back comes back as it is.** Let a play of any program come back as a program. Whatever
the seed, this has a play, and comes back from it unchanged. -/
theorem transcribe_dramatize_told {program told : Program} {seed : UInt64} {play : Play}
    (hplay : program.dramatize standard seed = .ok play) (htold : play.transcribe standard = .ok told) (other : UInt64) :
    ∃ again, told.dramatize standard other = .ok again ∧ again.transcribe standard = .ok told := by
  have formed := formed_of_transcribe htold
  obtain ⟨filled, cast, f, n, recast, rfl⟩ := recast_of_transcribe hplay htold
  obtain ⟨again, restored, hnaming⟩ := ofProgram_told recast.enough recast.declared
  have named : ∀ name ∈ (Cast.allotted standardCast n).names, name ∈ standardCast := fun name hname =>
    List.mem_of_mem_take (Cast.names_ofMembers (standardCast.take n) ▸ hname)
  obtain ⟨acts, hacts⟩ :=
    (composeActs_succeeds (Vocabulary.ample_of_standard named) _ (Generator.ofSeed other)).2
      (recast.composable_again again)
  refine ⟨_, dramatize_eq_ok_iff.2 ⟨_, _, acts, hnaming, hacts, rfl⟩, ?_⟩
  -- the cast that is recovered has the same members, so texts are restored as before
  have declared : (retoldProgram (Cast.allotted standardCast n).restore f filled).declared =
      (standardCast.take n).map identifierFor := (declared_retoldProgram _ f filled).trans recast.declared
  have names : (Cast.allotted standardCast n).namesFor ((standardCast.take n).map identifierFor) =
      standardCast.take n := Cast.namesFor_allotted standard_names.identifiers_nodup n
  have back := transcribe_eq_retold formed.toClosed hnaming hacts
  rw [declared, names] at back
  exact back.trans (congrArg Except.ok (recast.retold_settled formed restored))

/-- **One pass through a play is enough.** Let a program without defects have a play, with words chosen by any seed. It
comes back from the play as another program; and this one, with words chosen by any other seed, has a play again, and
comes back from it the same in every respect: title, characters and their descriptions, acts, scenes, directions and
statements. -/
theorem transcribe_dramatize_idem {program : Program} {script : Script} {seed : UInt64} {play : Play}
    (hcompile : program.compile = .ok script) (hplay : program.dramatize standard seed = .ok play) :
    ∃ told, play.transcribe standard = .ok told ∧
      ∀ other, ∃ again, told.dramatize standard other = .ok again ∧ again.transcribe standard = .ok told := by
  have sound := (Program.defects_eq_nil_iff program).1 (Program.compile_eq_ok_iff.1 hcompile).1
  obtain ⟨told, htold⟩ := (transcribe_iff_closed hplay).2 sound.closed
  exact ⟨told, htold, transcribe_dramatize_told hplay htold⟩

theorem transcribe_dramatize_idem_countdown :
    ∃ script play, countdown.compile = .ok script ∧ countdown.dramatize standard 7 = .ok play ∧
      ∃ told, play.transcribe standard = .ok told ∧
        ∀ other, ∃ again, told.dramatize standard other = .ok again ∧ again.transcribe standard = .ok told := by
  obtain ⟨script, hcompile⟩ := countdown_compiles
  obtain ⟨play, hplay⟩ := countdown_dramatizes
  exact ⟨script, play, hcompile, hplay, transcribe_dramatize_idem hcompile hplay⟩

/-- a name that stands in a text by chance becomes a placeholder, in whatever letter case, and that of somebody who is
not declared stays -/
example :
    (Program.dramatize standard 0 ⟨"ROMEO or \x7bx\x7d, and \x7by\x7d", [⟨⟨"x"⟩, "a man"⟩], []⟩ >>=
      Play.transcribe standard).toOption =
        some ⟨"\x7bromeo\x7d or \x7bromeo\x7d, and Juliet", [⟨⟨"romeo"⟩, "a man"⟩], []⟩ := by decide +kernel

end Conversion

end Playscript
