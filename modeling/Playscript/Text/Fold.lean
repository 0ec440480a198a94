/-
Comparing texts without regard to the case of the ASCII letters. Every other character is compared as it is, so an
accented letter differs from its capital.
-/

namespace Playscript.Text

/-- the text with its ASCII capitals made small -/
def foldCase (cs : List Char) : List Char := cs.map Char.toLower

def sameFolded (a b : List Char) : Bool := foldCase a == foldCase b

/-- equal up to the case of ASCII letters -/
def same (a b : String) : Bool := sameFolded a.toList b.toList

theorem same_refl (a : String) : same a a = true := by
  simp [same, sameFolded]

theorem same_comm (a b : String) : same a b = same b a := by
  simp [same, sameFolded, Bool.beq_comm]

end Playscript.Text
