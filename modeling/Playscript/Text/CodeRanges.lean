/-
Sets of characters given by ranges of code points.
-/

namespace Playscript.Text

/-- code points from the first to the last of each pair, both included -/
abbrev CodeRanges := List (Nat × Nat)

def CodeRanges.has (ranges : CodeRanges) (c : Char) : Bool :=
  ranges.any fun range => range.1 ≤ c.toNat && c.toNat ≤ range.2

/-- the seven-bit characters, for which every table below is spelled out in code -/
def isAscii (c : Char) : Bool := c.toNat < 0x80

end Playscript.Text
