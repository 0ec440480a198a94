import Playscript.Main
import Playscript.Proofs.Arithmetic.Root
import Playscript.Proofs.Cast.Bijection
import Playscript.Proofs.Cast.Casing
import Playscript.Proofs.Cast.Directing
import Playscript.Proofs.Cast.Recognizing
import Playscript.Proofs.Cast.Substituting
import Playscript.Proofs.Console.Reading
import Playscript.Proofs.Conversion.Acceptance
import Playscript.Proofs.Conversion.Behaviour
import Playscript.Proofs.Conversion.Forming
import Playscript.Proofs.Conversion.FreeText
import Playscript.Proofs.Conversion.Idempotence
import Playscript.Proofs.Conversion.Layout
import Playscript.Proofs.Conversion.Revival
import Playscript.Proofs.Conversion.Seeds
import Playscript.Proofs.Lexicon.Validation
import Playscript.Proofs.Performance.Calls
import Playscript.Proofs.Performance.Checked
import Playscript.Proofs.Performance.Counter
import Playscript.Proofs.Performance.Deciding
import Playscript.Proofs.Performance.Flag
import Playscript.Proofs.Performance.Forward
import Playscript.Proofs.Performance.Frame
import Playscript.Proofs.Performance.Guards
import Playscript.Proofs.Performance.Interrupted
import Playscript.Proofs.Performance.Phrases
import Playscript.Proofs.Performance.Safety
import Playscript.Proofs.Performance.Settling
import Playscript.Proofs.Phrase.Articles
import Playscript.Proofs.Phrase.Delimiting
import Playscript.Proofs.Phrase.Expansion
import Playscript.Proofs.Phrase.Leading
import Playscript.Proofs.Phrase.Limits
import Playscript.Proofs.Phrase.Respelling
import Playscript.Proofs.Phrase.RoundTrip
import Playscript.Proofs.Play.Continuing
import Playscript.Proofs.Play.Lossless
import Playscript.Proofs.Play.Rejecting
import Playscript.Proofs.Play.Rereading
import Playscript.Proofs.Rehearsal.Lockstep
import Playscript.Proofs.Script.Reports
import Playscript.Proofs.Sentence.Numerals
import Playscript.Proofs.Sentence.Pronouns
import Playscript.Proofs.Sentence.Respelling
import Playscript.Proofs.Text.Small
