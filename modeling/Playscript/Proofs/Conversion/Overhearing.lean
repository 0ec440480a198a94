/-
Plays overheard by a smaller cast.

- `parseActs_refines`: acts that the smaller cast understands have the same lines for the larger, about characters of
  the smaller only;
- `Cast.within_of_standard`: among casts named from the standard lexicon the larger is always one that understands
  whatever the smaller does, since no two names begin alike and none with a word of the lexicon.
-/
import Playscript.Conversion.Transcribe
import Playscript.Proofs.Cast.Reached
import Playscript.Proofs.Sentence.Overhearing
import Playscript.Proofs.Vocabulary

namespace Playscript

namespace Transcribe

variable {lexicon : Lexicon} {small large : Cast} (h : small.Within lexicon large)
include h

theorem parseLine_refines (place : Location) (line : PlayLine) :
    Refines (Agree fun line : Line => small.HasAll line.mentions) (parseLine (Vocabulary.of lexicon small) place line)
      (parseLine (Vocabulary.of lexicon large) place line) := by
  cases line with
  | direction text =>
    have parsed := Direction.parse_refines h text
    -- the two parsers matter by their answers only
    unfold parseLine Vocabulary.of
    revert parsed
    generalize Direction.parse small = readSmall
    generalize Direction.parse large = readLarge
    intro parsed
    dsimp only
    cases hsmall : readSmall text with
    | error cause => exact refines_error _ _
    | ok direction =>
      obtain ⟨_, hlarge, rfl, hdirection⟩ := parsed direction hsmall
      rw [hlarge]
      exact refines_ok ⟨rfl, hdirection⟩
  | speech name sentences =>
    have parsed := Refines.mapM fun sentence (_ : sentence ∈ sentences) => Sentence.parse_refines h sentence
    unfold parseLine
    generalize Direction.parse = readDirection
    dsimp only
    cases hsmall : (Vocabulary.of lexicon small).cast.identOf name with
    | none => exact refines_error _ _
    | some speaker =>
      have hlarge : (Vocabulary.of lexicon large).cast.identOf name = some speaker := h.ident name speaker hsmall
      rw [hlarge]
      dsimp only [parseSentences]
      cases hstatements : sentences.mapM (Sentence.parse (Vocabulary.of lexicon small)) with
      | error cause => exact refines_error _ _
      | ok statements =>
        obtain ⟨_, hagain, hagree⟩ := parsed statements hstatements
        obtain ⟨rfl, hmentions⟩ := agree_of_forall₂ hagree
        rw [hagain]
        refine refines_ok ⟨rfl, fun id hid => ?_⟩
        rcases List.mem_cons.1 hid with rfl | hid
        · exact Cast.mem_of_identOf hsmall
        · obtain ⟨statement, hstatement, hid⟩ := List.mem_flatMap.1 hid
          exact hmentions statement hstatement id hid

/-- lines that are about these characters only -/
def AboutOnly (cast : Cast) (lines : List Line) : Prop := ∀ line ∈ lines, cast.HasAll line.mentions

theorem parseScene_refines (place : Location) (scene : PlayScene) :
    Refines (fun a b => Agree (AboutOnly small) a.lines b.lines) (parseScene (Vocabulary.of lexicon small) place scene)
      (parseScene (Vocabulary.of lexicon large) place scene) := by
  refine refines_same (expectNumeral (Vocabulary.of lexicon small) .scene place.scene scene.numeral) fun _ => ?_
  have lines := Refines.mapM fun line (_ : line ∈ scene.lines) => parseLine_refines h place line
  exact lines.bind fun _ _ hlines => refines_ok (agree_of_forall₂ hlines)

theorem parseAct_refines (n : Nat) (act : PlayAct) :
    Refines (fun a b => Agree (fun scenes => ∀ lines ∈ scenes, AboutOnly small lines) (a.scenes.map (·.lines))
        (b.scenes.map (·.lines)))
      (parseAct (Vocabulary.of lexicon small) n act) (parseAct (Vocabulary.of lexicon large) n act) := by
  refine refines_same (expectNumeral (Vocabulary.of lexicon small) .act n act.numeral) fun _ => ?_
  have scenes := Refines.mapM fun (item : PlayScene × Nat) (_ : item ∈ act.scenes.zipIdx 1) =>
    parseScene_refines h ⟨n, item.2⟩ item.1
  exact scenes.bind fun _ _ hscenes => refines_ok (agree_map_of_forall₂ hscenes)

/-- **Acts overheard are the acts performed**, line by line, about nobody who is not known. -/
theorem parseActs_refines (acts : List PlayAct) :
    Refines (fun a b => Agree (fun acts => ∀ scenes ∈ acts, ∀ lines ∈ scenes, AboutOnly small lines)
        (a.map fun act : Act => act.scenes.map (·.lines)) (b.map fun act : Act => act.scenes.map (·.lines)))
      (parseActs (Vocabulary.of lexicon small) acts) (parseActs (Vocabulary.of lexicon large) acts) := by
  have parsed := Refines.mapM fun (item : PlayAct × Nat) (_ : item ∈ acts.zipIdx 1) =>
    parseAct_refines h item.2 item.1
  exact parsed.mono fun _ _ => agree_map_of_forall₂

end Transcribe

namespace Cast

open Lexicon

/-- **Among casts of the standard lexicon the larger understands whatever the smaller does.** -/
theorem within_of_standard {small large : Cast} (hlarge : large.Drawn standardCast)
    (hsub : ∀ member ∈ small.members, member ∈ large.members) : small.Within standard large where
  ident name id hsmall := by
    obtain ⟨member, hfind, rfl⟩ := Option.map_eq_some_iff.1 hsmall
    have hsame : Text.lowercase member.2 = Text.lowercase name := by simpa using List.find?_some hfind
    have hknown := hlarge.identOf_of_mem (hsub member (List.mem_of_find?_eq_some hfind))
    rwa [identOf, hsame] at hknown
  named ws found hsmall := by
    obtain ⟨name, rest⟩ := found
    obtain ⟨hname, heat⟩ := Words.mem_of_eatLongest hsmall
    obtain ⟨w, left, rfl, hw⟩ := Words.same_initial_of_eatPhrase heat
    have hmem : name ∈ large.names := List.map_subset _ hsub hname
    refine Words.eatLongest_eq_some hmem heat fun other hother hne => Words.eatPhrase_eq_none ?_ left
    rw [Text.same_congr hw]
    exact standard_names.apart name (hlarge.named name hmem) other (hlarge.named other hother) hne
  plain ws answer hanswer _ := by
    refine Words.eatLongest_eq_none fun name hname => Option.eq_none_iff_forall_ne_some.2 fun rest heat => ?_
    obtain ⟨w, left, rfl, hw⟩ := Words.same_initial_of_eatPhrase heat
    obtain ⟨hunlisted, hnoArticle⟩ := standard_names_unlisted name (hlarge.named name hname)
    refine Phrase.readPlain_ne_ok ?_ (fun article harticle => ?_) left answer hanswer
    · rw [classify, Text.lowercase_congr hw]
      exact hunlisted
    · rw [Text.same_congr hw]
      exact hnoArticle article harticle

end Cast

end Playscript
