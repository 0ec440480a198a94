/-
The source of choices between words: a stream of 32-bit words from the ChaCha permutation with twelve rounds, keyed by
a seed, so that a seed always makes the same choices.

`choose` draws an index below the length of a list by multiplying a stream word with the length and keeping the high
half, and draws again when the low half shows that the index would be favoured. An empty list draws nothing.
-/

namespace Playscript

/-- four 32-bit words, one row of the permutation's state -/
structure Lanes where
  a : UInt32
  b : UInt32
  c : UInt32
  d : UInt32
  deriving DecidableEq, Repr

namespace Lanes

def map₂ (f : UInt32 → UInt32 → UInt32) (x y : Lanes) : Lanes :=
  ⟨f x.a y.a, f x.b y.b, f x.c y.c, f x.d y.d⟩

def add : Lanes → Lanes → Lanes := map₂ (· + ·)

/-- the exclusive or of two rows, each word turned left by `bits` -/
def mix (bits : UInt32) : Lanes → Lanes → Lanes :=
  map₂ fun x y => (x ^^^ y) <<< bits ||| (x ^^^ y) >>> (32 - bits)

/-- the row moved one place to the left, the first word last -/
def turn (x : Lanes) : Lanes := ⟨x.b, x.c, x.d, x.a⟩

def toList (x : Lanes) : List UInt32 := [x.a, x.b, x.c, x.d]

end Lanes

/-- the sixteen words of the permutation's state, by rows -/
structure Block where
  r0 : Lanes
  r1 : Lanes
  r2 : Lanes
  r3 : Lanes
  deriving DecidableEq, Repr

namespace Block

def add (x y : Block) : Block := ⟨x.r0.add y.r0, x.r1.add y.r1, x.r2.add y.r2, x.r3.add y.r3⟩

/-- one half of a quarter round on all four columns -/
def half (left right : UInt32) (x : Block) : Block :=
  let r0 := x.r0.add x.r1
  let r3 := x.r3.mix left r0
  let r2 := x.r2.add r3
  let r1 := x.r1.mix right r2
  ⟨r0, r1, r2, r3⟩

def columnRound (x : Block) : Block := half 8 7 (half 16 12 x)

/-- lines the diagonals up as columns -/
def skew (x : Block) : Block := ⟨x.r0, x.r1.turn, x.r2.turn.turn, x.r3.turn.turn.turn⟩

def unskew (x : Block) : Block := ⟨x.r0, x.r1.turn.turn.turn, x.r2.turn.turn, x.r3.turn⟩

def doubleRound (x : Block) : Block := unskew (columnRound (skew (columnRound x)))

def doubleRounds : Nat → Block → Block
  | 0, x => x
  | n + 1, x => doubleRounds n (doubleRound x)

/-- the words that a state yields: six double rounds, then the state added in -/
def output (x : Block) : List UInt32 :=
  let y := (doubleRounds 6 x).add x
  y.r0.toList ++ y.r1.toList ++ y.r2.toList ++ y.r3.toList

end Block

/-- a place in the stream of a key: the number of the next block, and the words of the last one not drawn yet -/
structure Generator where
  key : Lanes × Lanes
  counter : UInt64
  pending : List UInt32
  deriving DecidableEq, Repr

namespace Generator

/-- one step of the linear generator that spreads a seed over a key -/
def spread (state : UInt64) : UInt64 × UInt32 :=
  let state := state * 6364136223846793005 + 11634580027462260723
  let x := (((state >>> 18) ^^^ state) >>> 27).toUInt32
  let turn := (state >>> 59).toUInt32
  (state, x >>> turn ||| x <<< ((32 - turn) % 32))

def spreadRow (state : UInt64) : UInt64 × Lanes :=
  let (state, a) := spread state
  let (state, b) := spread state
  let (state, c) := spread state
  let (state, d) := spread state
  (state, ⟨a, b, c, d⟩)

def ofSeed (seed : UInt64) : Generator :=
  let (state, low) := spreadRow seed
  let (_, high) := spreadRow state
  ⟨(low, high), 0, []⟩

def block (g : Generator) : Block where
  r0 := ⟨0x61707865, 0x3320646e, 0x79622d32, 0x6b206574⟩
  r1 := g.key.1
  r2 := g.key.2
  r3 := ⟨g.counter.toUInt32, (g.counter >>> 32).toUInt32, 0, 0⟩

/-- the next word of the stream -/
def next (g : Generator) : UInt32 × Generator :=
  match g.pending with
  | word :: rest => (word, { g with pending := rest })
  | [] =>
    let words := g.block.output
    (words.headD 0, { g with counter := g.counter + 1, pending := words.tail })

/-- the largest low half that a draw below `n` accepts: `n` shifted to the top of the word, less one -/
def zone (n : Nat) : Nat := (n <<< (31 - n.log2)) - 1

/-- an index below `n`, after at most `tries` refused draws -/
def indexBelow (n : Nat) : (tries : Nat) → Generator → Nat × Generator
  | 0, g => ((g.next.1.toNat * n) / UInt32.size, g.next.2)
  | tries + 1, g =>
    let product := g.next.1.toNat * n
    if product % UInt32.size ≤ zone n then (product / UInt32.size, g.next.2) else indexBelow n tries g.next.2

/-- a choice settles within this many draws but for one seed in 2 ^ 256 -/
def patience : Nat := 256

/-- one of the words, or none of none -/
def choose (words : List String) (g : Generator) : Option String × Generator :=
  match words with
  | [] => (none, g)
  | _ =>
    let (i, g) := indexBelow words.length patience g
    (words[i]?, g)

theorem indexBelow_lt {n : Nat} (h : 0 < n) (tries : Nat) (g : Generator) :
    (indexBelow n tries g).1 < n := by
  have bound : ∀ w : UInt32, w.toNat * n / UInt32.size < n := fun w => by
    have := w.toNat_lt
    exact Nat.div_lt_of_lt_mul (Nat.mul_lt_mul_of_pos_right this h)
  induction tries generalizing g with
  | zero => exact bound _
  | succ tries ih =>
    simp only [indexBelow]
    split
    · exact bound _
    · exact ih _

/-- a choice is one of the words, and there is one unless there are no words -/
theorem choose_fst (words : List String) (g : Generator) :
    (words = [] ∧ (choose words g).1 = none) ∨ ∃ word ∈ words, (choose words g).1 = some word := by
  match words with
  | [] => exact .inl ⟨rfl, rfl⟩
  | word :: rest =>
    have h := indexBelow_lt (n := (word :: rest).length) (by simp) patience g
    exact .inr ⟨_, List.getElem_mem h, by simp [choose]⟩

end Generator

end Playscript
