/-
The words of one sentence, and the steps by which readers take them from the front.

Commas are words of their own, the mark that ends the sentence is dropped, and words are compared without regard to the
case of ASCII letters. A reader gives its answer with the words left over; one that fails says why, and what words were
left when it did.
-/
import Playscript.Text.Blank
import Playscript.Text.Fold

namespace Playscript

/-- the words of a sentence that are still to be read -/
abbrev Words := List String

/-- one thing was expected and another found -/
structure Mismatch where
  expected : String
  found : Option String
  deriving DecidableEq, Repr

def Mismatch.message (m : Mismatch) : String :=
  match m.found with
  | some word => s!"expected '{m.expected}', found '{word}'"
  | none => s!"expected '{m.expected}', found end of sentence"

/-- why a reader failed, and the words left where it did -/
structure Stopped (ε : Type) where
  cause : ε
  left : Words
  deriving DecidableEq, Repr

/-- marks that end a sentence -/
def isTerminator (c : Char) : Bool := c == '.' || c == '!' || c == '?'

namespace Words

/-- the text without the one mark that ends it, if one does -/
def dropTerminator (cs : List Char) : List Char :=
  if (cs.getLast?.map isTerminator).getD false then cs.dropLast else cs

/-- a run of characters as words: a comma at its end stands alone -/
def ofPiece (piece : List Char) : Words :=
  if piece.getLast? = some ',' then
    (if piece.dropLast.isEmpty then [","] else [String.ofList piece.dropLast, ","])
  else [String.ofList piece]

def ofText (text : String) : Words :=
  (Text.splitBlank (dropTerminator (Text.trimChars text.toList))).flatMap ofPiece

/-- the mismatch of the next word with what was expected -/
def mismatch (ws : Words) (expected : String) : Mismatch := ⟨expected, ws.head?⟩

/-- the words after `word`, if that comes next -/
def eat (word : String) : Words → Option Words
  | w :: ws => if Text.same w word then some ws else none
  | [] => none

/-- the words after all of `phrase`, if they come next -/
def eatAll : List String → Words → Option Words
  | [], ws => some ws
  | word :: phrase, ws => (eat word ws).bind (eatAll phrase)

/-- the words after the words of a phrase, if they come next; a phrase without words never does -/
def eatPhrase (phrase : String) (ws : Words) : Option Words :=
  match Text.words phrase with
  | [] => none
  | parts => eatAll parts ws

/-- of two matches the one that leaves fewer words, and of equals the later -/
def longer (ws : Words) (best : Option (String × Words)) (name : String) : Option (String × Words) :=
  match eatPhrase name ws with
  | none => best
  | some rest =>
    match best with
    | none => some (name, rest)
    | some (_, left) => if rest.length ≤ left.length then some (name, rest) else best

/-- the longest of `names` that comes next, as given, and the words after it -/
def eatLongest (names : List String) (ws : Words) : Option (String × Words) :=
  names.foldl (longer ws) none

variable {ε : Type} (wrap : Mismatch → ε)

def expect (word : String) (ws : Words) : Except (Stopped ε) Words :=
  match eat word ws with
  | some rest => .ok rest
  | none => .error ⟨wrap (ws.mismatch word), ws⟩

/-- succeeds when every word has been read -/
def expectEnd (ws : Words) : Except (Stopped ε) Unit :=
  match ws with
  | [] => .ok ()
  | _ => .error ⟨wrap (ws.mismatch "end of sentence"), ws⟩

end Words

end Playscript
