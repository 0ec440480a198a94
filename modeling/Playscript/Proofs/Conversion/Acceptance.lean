/-
Which plays come back as programs.

- `closed_of_transcribe`: if the play of a program comes back, every character of the program was declared, once, and
  whoever its lines mention was declared;
- `transcribe_iff_closed`: this is exactly what it takes, for any program that has a play at all.
-/
import Playscript.Proofs.Cast.Template
import Playscript.Proofs.Conversion.Overhearing
import Playscript.Proofs.Conversion.RoundTrip

namespace Playscript

namespace Conversion

open Lexicon

/-- the identifiers of the standard names can stand in a text -/
theorem placeable_of_standard {name : String} (h : name ∈ standardCast) : (identifierFor name).Placeable := by
  have plain : ∀ name ∈ standardCast, Text.trim name ≠ "" ∧
      (name.toList.all fun c => !Template.isBrace c) = true := by decide
  obtain ⟨hink, hplain⟩ := plain name h
  exact identifierFor_placeable hink (by simpa using hplain)

/-- the identifier derived from a name tells the characters apart, also from those without a name -/
theorem identifierOf_inj {cast : Cast} (hdrawn : cast.Drawn standardCast) {id other : Ident} {name : String}
    (hname : cast.nameOf other = some name) (h : cast.identifierOf id = cast.identifierOf other) : id = other := by
  have hmem := hdrawn.named name (Cast.mem_names (Cast.nameOf_eq_some hname))
  unfold Cast.identifierOf at h
  rw [hname] at h
  cases hid : cast.nameOf id with
  | none =>
    rw [hid] at h
    -- without a name, the identifier is derived from the empty text, and is empty
    exact absurd (congrArg (·.text.toList) h.symm) (placeable_of_standard hmem).nonempty
  | some name' =>
    rw [hid] at h
    have hmem' := hdrawn.named name' (Cast.mem_names (Cast.nameOf_eq_some hid))
    have hsame : name' = name := List.inj_on_of_nodup_map standard_names.identifiers_nodup hmem' hmem h
    have found := hdrawn.identOf_of_mem (Cast.nameOf_eq_some hid)
    rw [hsame, hdrawn.identOf_of_mem (Cast.nameOf_eq_some hname)] at found
    exact (Option.some.inj found).symm

/-- the cast of all characters that have names, each under the identifier derived from its name -/
def everyone (cast : Cast) : Cast := Cast.ofMembers (cast.namesFor (cast.members.map (·.1)))

theorem everyone_follows {cast : Cast} (hdrawn : cast.Drawn standardCast) :
    (everyone cast).Drawn standardCast ∧ (everyone cast).Follows cast cast.identifierOf fun _ => True := by
  have hnamed : ∀ id ∈ cast.members.map (·.1), ∃ name, cast.nameOf id = some name := by
    intro id hid
    cases hname : cast.nameOf id with
    | some name => exact ⟨name, rfl⟩
    | none => exact absurd hid (Cast.nameOf_eq_none hname)
  obtain ⟨-, drawn, follows⟩ := Cast.recovered_follows hdrawn hdrawn.once hnamed
  refine ⟨drawn, fun id name _ hname => follows id name ?_ hname⟩
  exact List.mem_map.2 ⟨_, Cast.nameOf_eq_some hname, rfl⟩

/-- a cast recovered from the names of some characters understands no more than everyone -/
theorem within_everyone {cast small : Cast} (hdrawn : cast.Drawn standardCast) {ids : List Ident}
    (hnamed : ∀ id ∈ ids, ∃ name, cast.nameOf id = some name) (hsmall : Cast.recover (cast.namesFor ids) = .ok small) :
    small.Within standard (everyone cast) := by
  refine Cast.within_of_standard (everyone_follows hdrawn).1 fun ⟨id, name⟩ hmember => ?_
  have hname : name ∈ cast.namesFor ids := (Cast.identifiers_of_recover hsmall).1 ▸ Cast.mem_names hmember
  obtain ⟨other, hother, rfl⟩ := List.mem_map.1 hname
  obtain ⟨name, hname⟩ := hnamed other hother
  rw [(Cast.recovered_of_recover hsmall).derived _ _ hmember]
  refine List.mem_map.2 ⟨_, List.mem_map.2 ⟨other, ?_, rfl⟩, rfl⟩
  exact List.mem_map.2 ⟨_, Cast.nameOf_eq_some hname, rfl⟩

/-- **What comes back was declared.** If the play of a program comes back, all characters of the program were declared,
once each, and so was whoever its lines mention. -/
theorem closed_of_transcribe {program told : Program} {seed : UInt64} {play : Play}
    (hplay : program.dramatize standard seed = .ok play) (htold : play.transcribe standard = .ok told) :
    program.Closed := by
  obtain ⟨filled, cast, hnaming, hacts, hpersonae⟩ := dramatize_eq_ok hplay
  obtain ⟨hgrows, hnamed, hdeclared, hlines⟩ := Naming.ofProgram_eq_ok hnaming
  have drawn := Cast.drawn_of_grows hgrows
  have names : play.personae.map (·.name) = cast.namesFor program.declared := by
    rw [hpersonae, names_personae hdeclared]
  unfold Play.transcribe at htold
  rw [names] at htold
  split at htold
  · cases htold
  · rename_i small hsmall
    obtain ⟨acts, hparsed, -⟩ := bind_eq_ok.1 htold
    obtain ⟨-, hids, hnodup⟩ := Cast.identifiers_of_recover hsmall
    have identifiers : small.members.map (·.1) = program.declared.map cast.identifierOf := by
      rw [hids, Cast.namesFor, List.map_map]
      rfl
    -- everyone understands the acts as they were meant, and the declared characters as everyone does
    obtain ⟨everyoneDrawn, follows⟩ := everyone_follows drawn
    have hearer : Sentence.Hearer (Vocabulary.of standard (everyone cast)) := ⟨rfl, everyoneDrawn.named⟩
    have meant := composeActs_yields hearer follows (fun _ _ _ _ _ _ _ _ => trivial) _ _ hacts
    obtain ⟨_, heard, hagree, hknown⟩ :=
      Transcribe.parseActs_refines (within_everyone drawn hnamed hsmall) play.acts acts hparsed
    cases meant.symm.trans heard
    have retold : ∀ i j line, program.HasLine i j line → small.HasAll (line.retold cast.identifierOf).mentions := by
      rintro i j line ⟨scenes, lines, hscenes, hlinesAt, hline⟩
      have told : Program.linesByScene ⟨"", [], filled.acts.map (retoldAct (everyone cast).restore cast.identifierOf)⟩ =
          program.linesByScene.map fun scenes => scenes.map fun lines => lines.map (Line.retold cast.identifierOf) :=
        hlines ▸ linesByScene_retold rfl
      refine hknown _ ?_ _ (List.mem_map_of_mem (List.mem_of_getElem? hlinesAt)) _ (List.mem_map_of_mem hline)
      rw [hagree]
      change _ ∈ Program.linesByScene ⟨"", [], filled.acts.map (retoldAct (everyone cast).restore cast.identifierOf)⟩
      rw [told]
      exact List.mem_map_of_mem (List.mem_of_getElem? hscenes)
    rw [← hids, identifiers] at hnodup
    refine ⟨hnodup.of_map, fun i j line hline id hid => ?_⟩
    have hmem := retold i j line hline _ (Line.mem_mentions_retold_iff.2 ⟨id, hid, rfl⟩)
    rw [identifiers] at hmem
    obtain ⟨other, hother, hsame⟩ := List.mem_map.1 hmem
    obtain ⟨name, hname⟩ := hnamed other hother
    rwa [identifierOf_inj drawn hname hsame.symm]

/-- **Which plays come back as programs.** Let any program, compiled or not, have a play. The play is a program again
exactly when the first program declares no character twice and declares everyone who speaks, is directed or is named in
a statement; a play does not tell who is missing from, or stands twice in, its list of characters. -/
theorem transcribe_iff_closed {program : Program} {seed : UInt64} {play : Play}
    (hplay : program.dramatize standard seed = .ok play) :
    (∃ told, play.transcribe standard = .ok told) ↔ program.Closed := by
  refine ⟨fun ⟨told, htold⟩ => closed_of_transcribe hplay htold, fun closed => ?_⟩
  obtain ⟨-, -, told, -, -, htold, -⟩ := retold_of_dramatize closed hplay
  exact ⟨told, htold⟩

/-- the play of the countdown comes back -/
theorem transcribe_iff_closed_countdown : ∃ play, countdown.dramatize standard 7 = .ok play ∧
    ((∃ told, play.transcribe standard = .ok told) ↔ countdown.Closed) := by
  obtain ⟨play, hplay⟩ := countdown_dramatizes
  exact ⟨play, hplay, transcribe_iff_closed hplay⟩

/-- two programs whose plays do not come back: in one a character is declared twice, in the other somebody speaks who
has a name from the title only -/
theorem dramatize_without_return :
    let twice : Program := ⟨"T", [⟨⟨"x"⟩, "a man"⟩, ⟨⟨"x"⟩, "the same man"⟩], []⟩
    let stranger : Program := ⟨"\x7by\x7d", [], [⟨"", [⟨"", [.speech ⟨"y"⟩ []]⟩]⟩]⟩
    (∃ play, twice.dramatize standard 0 = .ok play ∧
        play.transcribe standard = .error (.cast (.duplicateIdentifier "Romeo" "Romeo" ⟨"romeo"⟩))) ∧
      ∃ play, stranger.dramatize standard 0 = .ok play ∧
        play.transcribe standard = .error (.unknownSpeaker ⟨1, 1⟩ "Romeo") := by
  refine ⟨⟨⟨"T", [⟨"Romeo", "a man"⟩, ⟨"Romeo", "the same man"⟩], []⟩, ?_, ?_⟩,
    ⟨"Romeo", [], [⟨"I", "", [⟨"I", "", [.speech "Romeo" []]⟩]⟩]⟩, ?_, ?_⟩
  · exact eq_ok_of_toOption (by decide +kernel)
  · rfl
  · exact eq_ok_of_toOption (by decide +kernel)
  · rfl

end Conversion

end Playscript
