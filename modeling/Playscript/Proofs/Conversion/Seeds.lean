/-
What the seed of a play decides: its words, and nothing else.

- `Phrase.spell_uniform`, `Sentence.compose_uniform`: whether a value has a phrase and a statement a sentence does not
  depend on the words, nor does the cause of the failure if it has none;
- `Play.outline`: all of a play but its sentences, of which only the number is kept;
- `dramatize_outline`: so two plays of one program have one outline, and come back as one program.
-/
import Playscript.Proofs.Conversion.RoundTrip

namespace Playscript

open Choosing

/-! ## Phrases and sentences -/

namespace Phrase

variable (stock : Stock) (n : Int64)

theorem spellAdjectives_uniform (count : Nat) :
    Uniform Any (spellAdjectives stock n count) (spellAdjectives stock n count) := by
  induction count with
  | zero => exact uniform_pure trivial
  | succ count ih =>
    exact (uniform_chooseOr _ _).bind fun _ _ _ => ih.bind fun _ _ _ => uniform_pure trivial

theorem spellPower_uniform (exponent : Nat) :
    Uniform Any (spellPower stock n exponent) (spellPower stock n exponent) :=
  (uniform_chooseOr _ _).bind fun _ _ _ =>
    (spellAdjectives_uniform stock n exponent).bind fun _ _ _ => uniform_pure trivial

theorem spellBits_uniform (bits : List Nat) : Uniform Any (spellBits stock n bits) (spellBits stock n bits) := by
  induction bits using spellBits.induct with
  | case1 => exact uniform_pure trivial
  | case2 bit => exact spellPower_uniform stock n bit
  | case3 bit bits hne ih =>
    rw [spellBits.eq_3 stock n bit bits hne]
    exact (spellPower_uniform stock n bit).bind fun _ _ _ => ih.bind fun _ _ _ => uniform_pure trivial

/-- **A value has a phrase or it has none**, whatever words are chosen. -/
theorem spell_uniform (vocabulary : Vocabulary) (subject : Option Role) (value : Value) :
    Uniform Any (spell vocabulary subject value) (spell vocabulary subject value) := by
  induction value with
  | constant n => exact spellBits_uniform vocabulary.stock n _
  | binary op lhs rhs ihl ihr =>
    rw [spell]
    split
    · exact ihr.bind fun _ _ _ => uniform_pure trivial
    · exact ihl.bind fun _ _ _ => ihr.bind fun _ _ _ => uniform_pure trivial
  | unary op operand ih => exact ih.bind fun _ _ _ => uniform_pure trivial
  | character id =>
    rw [spell]
    split
    · exact uniform_pure trivial
    · exact uniform_throw _ _
  | role role =>
    have word : Uniform Any (spell.liftExcept (pronounFor vocabulary.lexicon subject role))
        (spell.liftExcept (pronounFor vocabulary.lexicon subject role)) := by
      intro g g'
      unfold spell.liftExcept
      cases pronounFor vocabulary.lexicon subject role with
      | ok word => exact .answered trivial
      | error cause => exact .failed cause
    exact word.bind fun _ _ _ => uniform_pure trivial

end Phrase

namespace Sentence

variable (vocabulary : Vocabulary)

theorem spelled_uniform (subject : Option Role) (value : Value) :
    Uniform Any (spelled vocabulary subject value) (spelled vocabulary subject value) :=
  ((Phrase.spell_uniform vocabulary subject value).adapt _).bind fun _ _ _ => uniform_pure trivial

/-- the pronoun of a partner is not chosen -/
theorem subjectAndVerb_uniform (role : Role) :
    Uniform (· = ·) (subjectAndVerb vocabulary role) (subjectAndVerb vocabulary role) := by
  unfold subjectAndVerb
  split
  · exact uniform_pure rfl
  · exact uniform_throw _ _

theorem composeAssignment_uniform (value : Value) :
    Uniform Any (composeAssignment vocabulary value) (composeAssignment vocabulary value) := by
  have spelled := spelled_uniform vocabulary (some .addressee) value
  refine (subjectAndVerb_uniform vocabulary .addressee).bind fun _ _ _ => ?_
  dsimp only
  split
  · exact spelled.bind fun _ _ _ => uniform_pure trivial
  · exact (uniform_chooseOr _ _).bind fun _ _ _ => spelled.bind fun _ _ _ => uniform_pure trivial

/-- the opening of a question may differ in words, but not in its subject -/
theorem composeSubject_uniform (value : Value) :
    Uniform (fun opening opening' => opening.2 = opening'.2) (composeSubject vocabulary value)
      (composeSubject vocabulary value) := by
  unfold composeSubject
  split
  · exact (subjectAndVerb_uniform vocabulary _).bind fun _ _ _ => uniform_pure rfl
  · exact (spelled_uniform vocabulary none value).bind fun _ _ _ => uniform_pure rfl

theorem composeRelation_uniform (relation : Relation) :
    Uniform Any (composeRelation vocabulary relation) (composeRelation vocabulary relation) := by
  cases relation <;> exact (uniform_chooseOr _ _).bind fun _ _ _ => uniform_pure trivial

theorem composeQuestion_uniform (speaker : Ident) (c : Comparison) :
    Uniform Any (composeQuestion vocabulary speaker c) (composeQuestion vocabulary speaker c) := by
  refine (composeSubject_uniform vocabulary _).bind fun ⟨_, subject⟩ ⟨_, subject'⟩ hsubject => ?_
  cases hsubject
  exact (composeRelation_uniform vocabulary c.relation).bind fun _ _ _ =>
    (spelled_uniform vocabulary subject _).bind fun _ _ _ => uniform_pure trivial

theorem composeSimple_uniform (speaker : Ident) (statement : Statement) :
    Uniform Any (composeSimple vocabulary speaker statement) (composeSimple vocabulary speaker statement) := by
  cases statement with
  | assign value => exact composeAssignment_uniform vocabulary _
  | compare c => exact composeQuestion_uniform vocabulary speaker c
  | conditional polarity body => exact uniform_throw _ _
  | jump target =>
    simp only [composeSimple]
    split
    · exact uniform_pure trivial
    · exact uniform_throw _ _
  | input channel => cases channel <;> exact uniform_pure trivial
  | output channel => cases channel <;> exact uniform_pure trivial
  | remember value => exact (spelled_uniform vocabulary _ _).bind fun _ _ _ => uniform_pure trivial
  | «recall» => exact uniform_pure trivial

/-- **A statement has a sentence or it has none**, whatever words are chosen. -/
theorem compose_uniform (speaker : Ident) (statement : Statement) :
    Uniform Any (compose vocabulary speaker statement) (compose vocabulary speaker statement) := by
  cases statement with
  | conditional polarity body =>
    exact (composeSimple_uniform vocabulary speaker body).bind fun _ _ _ => uniform_pure trivial
  | _ => exact composeSimple_uniform vocabulary speaker _

end Sentence

/-! ## Plays -/

/-- a line of which the sentences are blanked out -/
def PlayLine.outline : PlayLine → PlayLine
  | .direction text => .direction text
  | .speech speaker sentences => .speech speaker (sentences.map fun _ => "")

def PlayScene.outline (scene : PlayScene) : PlayScene := { scene with lines := scene.lines.map PlayLine.outline }

def PlayAct.outline (act : PlayAct) : PlayAct := { act with scenes := act.scenes.map PlayScene.outline }

/-- the play with its sentences blanked out: what stays are the title, the personae, all numerals, descriptions and
directions, and of each speech the speaker and the number of sentences -/
def Play.outline (play : Play) : Play := { play with acts := play.acts.map PlayAct.outline }

namespace Dramatize

variable (vocabulary : Vocabulary)

/-- the two are the same when their sentences are blanked out -/
theorem composeLine_uniform (place : Location) (line : Line) :
    Uniform (fun told again => told.outline = again.outline) (composeLine vocabulary place line)
      (composeLine vocabulary place line) := by
  cases line with
  | direction d =>
    simp only [composeLine]
    split
    · exact uniform_pure rfl
    · exact uniform_throw _ _
  | speech speaker statements =>
    simp only [composeLine, composeSpeech]
    split
    · exact uniform_throw _ _
    · have sentences := uniform_mapM fun s (_ : s ∈ statements) => Sentence.compose_uniform vocabulary speaker s
      refine (sentences.adapt _).bind fun told again h => uniform_pure ?_
      have blanks : told.map (fun _ => "") = again.map fun _ => "" :=
        (map_eq_of_forall₂ (fun _ _ _ => rfl) h).symm
      rw [PlayLine.outline, PlayLine.outline, blanks]

/-- a numeral is not chosen -/
theorem numbered_uniform (n : Nat) : Uniform (· = ·) (numbered vocabulary n) (numbered vocabulary n) := by
  unfold numbered
  split
  · exact uniform_pure rfl
  · exact uniform_throw _ _

theorem composeScene_uniform (place : Location) (scene : Scene) :
    Uniform (fun told again => told.outline = again.outline) (composeScene vocabulary place scene)
      (composeScene vocabulary place scene) := by
  have lines := uniform_mapM fun line (_ : line ∈ scene.lines) => composeLine_uniform vocabulary place line
  refine lines.bind fun told again h => (numbered_uniform vocabulary place.scene).bind fun _ _ hn => uniform_pure ?_
  rw [PlayScene.outline, PlayScene.outline, map_eq_of_forall₂ (fun _ _ same => same) h, hn]

theorem composeAct_uniform (n : Nat) (act : Act) :
    Uniform (fun told again => told.outline = again.outline) (composeAct vocabulary n act)
      (composeAct vocabulary n act) := by
  have scenes := uniform_mapM fun item (_ : item ∈ act.scenes.zipIdx 1) =>
    composeScene_uniform vocabulary ⟨n, item.2⟩ item.1
  refine scenes.bind fun told again h => (numbered_uniform vocabulary n).bind fun _ _ hn => uniform_pure ?_
  rw [PlayAct.outline, PlayAct.outline, map_eq_of_forall₂ (fun _ _ same => same) h, hn]

/-- **Acts are composed alike**, whatever words are chosen. -/
theorem composeActs_uniform (acts : List Act) :
    Uniform (fun told again => told.map PlayAct.outline = again.map PlayAct.outline) (composeActs vocabulary acts)
      (composeActs vocabulary acts) :=
  (uniform_mapM fun item (_ : item ∈ acts.zipIdx 1) => composeAct_uniform vocabulary item.2 item.1).mono
    fun _ _ h => (map_eq_of_forall₂ (fun _ _ same => same) h).symm

end Dramatize

namespace Conversion

open Lexicon

/-- **The seed chooses words only.** Let any program be made a play with any lexicon, once with words chosen by one seed
and once by another. Both times it fails with the same error, or the two plays differ in their sentences only, and not
in how many there are of them in each speech. If the lexicon is the standard one and the program has no defects, both
plays come back as the same program. -/
theorem dramatize_outline (lexicon : Lexicon) (program : Program) (seed other : UInt64) :
    EndAlike (fun play again => play.outline = again.outline) (program.dramatize lexicon seed)
        (program.dramatize lexicon other) ∧
      ∀ script play again, program.compile = .ok script → program.dramatize standard seed = .ok play →
        program.dramatize standard other = .ok again →
          ∃ told, play.transcribe standard = .ok told ∧ again.transcribe standard = .ok told := by
  constructor
  · unfold Program.dramatize
    cases Naming.ofProgram lexicon program with
    | error cause => exact .failed _
    | ok named =>
      obtain ⟨filled, cast⟩ := named
      have ends := Dramatize.composeActs_uniform (Vocabulary.of lexicon cast) filled.acts (Generator.ofSeed seed)
        (Generator.ofSeed other)
      dsimp only
      generalize (Dramatize.composeActs (Vocabulary.of lexicon cast) filled.acts (Generator.ofSeed seed)).1 = acts
        at ends ⊢
      generalize (Dramatize.composeActs (Vocabulary.of lexicon cast) filled.acts (Generator.ofSeed other)).1 = acts'
        at ends ⊢
      cases ends with
      | failed cause => exact .failed cause
      | answered hacts => exact .answered (congrArg (Play.mk _ _) hacts)
  · intro script play again hcompile hplay hagain
    have sound := (Program.defects_eq_nil_iff program).1 (Program.compile_eq_ok_iff.1 hcompile).1
    obtain ⟨filled, cast, acts, hnaming, hacts, rfl⟩ := dramatize_eq_ok_iff.1 hplay
    obtain ⟨filled', cast', acts', hnaming', hacts', rfl⟩ := dramatize_eq_ok_iff.1 hagain
    -- the characters are named before any word is chosen
    cases hnaming.symm.trans hnaming'
    exact ⟨_, transcribe_eq_retold sound.closed hnaming hacts, transcribe_eq_retold sound.closed hnaming hacts'⟩

/-- two seeds tell the countdown in different words, and it comes back the same -/
theorem dramatize_outline_countdown : ∃ script play again, countdown.compile = .ok script ∧
    countdown.dramatize standard 7 = .ok play ∧ countdown.dramatize standard 8 = .ok again ∧ play ≠ again ∧
      play.outline = again.outline ∧
        ∃ told, play.transcribe standard = .ok told ∧ again.transcribe standard = .ok told := by
  obtain ⟨script, hcompile⟩ := countdown_compiles
  obtain ⟨play, hplay⟩ := countdown_dramatizes
  obtain ⟨alike, returns⟩ := dramatize_outline standard countdown 7 8
  have differ : (countdown.dramatize standard 7).toOption ≠ (countdown.dramatize standard 8).toOption := by
    decide +kernel
  rw [hplay] at alike differ
  generalize hagain : countdown.dramatize standard 8 = answer at alike differ
  cases alike with
  | @answered _ again same =>
    refine ⟨script, play, again, hcompile, hplay, rfl, fun heq => differ (congrArg some heq), same, ?_⟩
    exact returns script play again hcompile hplay hagain

end Conversion

end Playscript
