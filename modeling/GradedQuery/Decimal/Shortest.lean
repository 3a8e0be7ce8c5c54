import GradedQuery.Decimal.Binary

/-!
# The fewest digits that read back

Every decimal in a certain interval around a double-precision number reads back as that number:
the interval reaches half-way to the two neighbours, and its ends belong to it exactly when the
significand is even.  The shortest text is a point of the coarsest decimal grid `10 ^ k` that has
a point in the interval.  **If a grid has a point there, then one of the number's two neighbours
on that grid is one**, so each grid takes two tests; of two hits the nearer one is taken.
-/

namespace GradedQuery.Decimal

/-- The number `digits · 10 ^ exponent`. -/
structure Digits where
  digits : Nat
  exponent : Int
  deriving DecidableEq, Repr

/-- The ends of the interval that reads back as `b`, in quarters of a unit of its last place.  Below
a power of two the numbers lie twice as close. -/
def readBackEnds (b : Binary) : Nat × Nat :=
  let below := if b.significand = exponentWeight ∧ leastExponent < b.exponent then 1 else 2
  (4 * b.significand - below, 4 * b.significand + 2)

/-- Whether `d · 10 ^ k` reads back as `b`. -/
def readsBack (b : Binary) (k : Int) (d : Nat) : Bool :=
  let ends := readBackEnds b
  let (low, den) := gridQuotient ends.1 (b.exponent - 2) k
  let (high, _) := gridQuotient ends.2 (b.exponent - 2) k
  if b.significand % 2 = 0 then low ≤ d * den && d * den ≤ high
  else low < d * den && d * den < high

/-- The neighbour of `b` on the grid `10 ^ k` that reads back as `b`; the nearer one of two, and
the even one where they are equally near. -/
def hit? (b : Binary) (k : Int) : Option Nat :=
  let (num, den) := gridQuotient b.significand b.exponent k
  let below := num / den
  let twiceRest := 2 * (num % den)
  match readsBack b k below, readsBack b k (below + 1) with
  | true, true =>
    if twiceRest < den then some below
    else if den < twiceRest then some (below + 1)
    else some (below + below % 2)
  | true, false => some below
  | false, true => some (below + 1)
  | false, false => none

/-- The first hit on grids that get finer and finer.  After `steps` grids the point below the
number is taken. -/
def firstHit (b : Binary) : (steps : Nat) → (k : Int) → Digits
  | 0, k => let (num, den) := gridQuotient b.significand b.exponent k; ⟨num / den, k⟩
  | steps + 1, k =>
    match hit? b k with
    | some d => ⟨d, k⟩
    | none => firstHit b steps (k - 1)

/-- A grid that is coarser than the number itself. -/
def coarsestGrid (b : Binary) : Int :=
  (b.exponent + (Nat.log2 b.significand + 1)) * 30103 / 100000 + 1

/-- The fewest digits that read back as a positive number.  Seventeen always do, so the search ends
within nineteen grids. -/
def shortest (b : Binary) : Digits := firstHit b 19 (coarsestGrid b)

/-! ## Layout -/

/-- Where positional notation ends. -/
structure Layout where
  /-- The least power of ten of a leading digit that is written positionally. -/
  positionalFrom : Int
  /-- The power of ten of a leading digit from which on an exponent is written. -/
  exponentFrom : Int

/-- Lays digits out with a point, or with an exponent.  A positional number always shows a
fraction; an exponent always shows its sign, and a single digit before it has no point. -/
def layOut (layout : Layout) (d : Digits) : String :=
  let text := toString d.digits
  let leading := d.exponent + (text.length - 1)
  let zeros (n : Int) := String.ofList (List.replicate n.toNat '0')
  if layout.positionalFrom ≤ leading ∧ leading < layout.exponentFrom then
    if 0 ≤ d.exponent then text ++ zeros d.exponent ++ ".0"
    else if 0 ≤ leading then
      let cs := text.toList
      let whole := (leading + 1).toNat
      String.ofList (cs.take whole) ++ "." ++ String.ofList (cs.drop whole)
    else "0." ++ zeros (-leading - 1) ++ text
  else
    let mantissa := match text.toList with
      | first :: second :: rest => String.ofList (first :: '.' :: second :: rest)
      | single => String.ofList single
    mantissa ++ "e" ++ (if leading < 0 then "-" else "+") ++ toString leading.natAbs

/-- The text of a finite number. -/
def writeShortest (layout : Layout) (negative : Bool) (b : Binary) : String :=
  (if negative then "-" else "") ++
    if b.significand = 0 then "0.0" else layOut layout (shortest b)

end GradedQuery.Decimal
