/-
Free text that is harmless.

The title and the descriptions of a program are laid out as they are, and a reader of plays takes every line by its
surface. So a text that goes on after a line feed puts lines into the play that nobody composed.

- `parse_render_iff`: the play of a program is read back with the same names, numerals and lines exactly if each free
  text fits on its line;
- `parse_render_smuggled`: a description that does not, and the stage direction that it adds.
-/
import Playscript.Proofs.Conversion.Layout
import Playscript.Proofs.Play.Spilling

namespace Playscript

namespace Conversion

open Lexicon

/-- **Free text is harmless exactly if it fits on its line.** Let a program without defects have a play, with words
chosen by any seed, and let the title not be blank. The rendered play is read back as a play with the same names of
characters, the same numerals of acts and scenes in the same nesting and the same lines if, and only if, nothing but
blanks follows a line feed in any description, nor stands on another line than the title. -/
theorem parse_render_iff {program : Program} {script : Script} {seed : UInt64} {play : Play}
    (hcompile : program.compile = .ok script) (hplay : program.dramatize standard seed = .ok play)
    (htitle : Text.trim play.title ≠ "") :
    (∃ again, Play.parse play.render = .ok again ∧ again.bare = play.bare) ↔ play.Fits := by
  have sound := (Program.defects_eq_nil_iff program).1 (Program.compile_eq_ok_iff.1 hcompile).1
  have composed := composed_of_dramatize sound.closed hplay
  constructor
  · rintro ⟨again, hparse, hbare⟩
    exact fits_of_parse composed htitle hparse hbare
  · intro hfits
    exact ⟨play.tidy, parse_composed composed hfits htitle (laidOut_render play), play.bare_tidy⟩

/-- a play whose free texts look like directions and headings and have line feeds at their ends -/
theorem parse_render_iff_of_gate :
    let program : Program := ⟨"\n [The gate] \n", [⟨⟨"page"⟩, "who waits:\n\n"⟩],
      [⟨" Scene I: outside\n", [⟨"[Exeunt]", [.direction (.enter [⟨"page"⟩])]⟩]⟩]⟩
    ∃ script play, program.compile = .ok script ∧ program.dramatize standard 0 = .ok play ∧
      Text.trim play.title ≠ "" ∧ play.Fits ∧
      ∃ again, Play.parse play.render = .ok again ∧ again.bare = play.bare := by
  intro program
  have compiled : program.compile = .ok program.lower := rfl
  let play : Play := ⟨"\n [The gate] \n", [⟨"Romeo", "who waits:\n\n"⟩],
    [⟨"I", " Scene I: outside\n", [⟨"I", "[Exeunt]", [.direction "Enter Romeo"]⟩]⟩]⟩
  have hplay : program.dramatize standard 0 = .ok play := eq_ok_of_toOption (by decide +kernel)
  have htitle : Text.trim play.title ≠ "" := by decide
  have hfits : play.Fits := ⟨by decide, by decide⟩
  exact ⟨_, play, compiled, hplay, htitle, hfits, (parse_render_iff compiled hplay htitle).2 hfits⟩

-- text on a second line does not fit, wherever on the line it begins
example : ¬ (⟨"The gate", [⟨"Romeo", "who waits\n  for rain"⟩], []⟩ : Play).Fits :=
  fun fits => absurd fits.descriptions (by decide +kernel)

/-- **A description can smuggle a stage direction into the play**: it has two lines, the second of which is read as a
direction by which everyone leaves. -/
theorem parse_render_smuggled :
    let program : Program := ⟨"The gate", [⟨⟨"page"⟩, "who waits"⟩],
      [⟨"Outside", [⟨"A gate\n[Exeunt]", []⟩]⟩]⟩
    ∃ script play again, program.compile = .ok script ∧ program.dramatize standard 0 = .ok play ∧
      Play.parse play.render = .ok again ∧ again.bare ≠ play.bare := by
  intro program
  have compiled : program.compile = .ok program.lower := rfl
  let play : Play := ⟨"The gate", [⟨"Romeo", "who waits"⟩], [⟨"I", "Outside", [⟨"I", "A gate\n[Exeunt]", []⟩]⟩]⟩
  let again : Play := ⟨"The gate", [⟨"Romeo", "who waits"⟩],
    [⟨"I", "Outside", [⟨"I", "A gate", [.direction "Exeunt"]⟩]⟩]⟩
  have hplay : program.dramatize standard 0 = .ok play := eq_ok_of_toOption (by decide +kernel)
  have hparse : Play.parse play.render = .ok again := eq_ok_of_toOption (by decide)
  exact ⟨_, play, again, compiled, hplay, hparse, by decide⟩

end Conversion

end Playscript
