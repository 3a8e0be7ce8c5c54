import GradedQuery.Decimal.Fixed
import GradedQuery.Display.Color
import GradedQuery.Grade
import GradedQuery.Text.Upper

/-!
# Scores, truth values and headings on display

A score shows as a number with four decimals, in the color of its band, and as a bar whose filled
part is proportional to it.
-/

namespace GradedQuery.Display

/-! ## Scores -/

/-- The quality of a match. -/
inductive Band where
  | strong
  | medium
  | weak
  deriving DecidableEq, Repr

namespace Band

/-- The band of a score. -/
def ofScore (score : Float) : Band :=
  if 0.75 ≤ score then .strong else if 0.4 ≤ score then .medium else .weak

/-- The color of a band. -/
def color : Band → Color
  | .strong => .pass
  | .medium => .warn
  | .weak => .fail

end Band

/-- A score with four decimals. -/
def scoreText (score : Float) : String := Decimal.writeFixed 4 (Decimal.decode score.toBits)

/-- A score with four decimals, in the color of its band. -/
def score (colored : Bool) (x : Float) : String :=
  paint colored (Band.ofScore x).color (scoreText x)

/-- A character so many times. -/
def repeated (n : Nat) (c : Char) : String := String.ofList (List.replicate n c)

/-- The number of filled cells in a bar of `width` cells: the part that the score, moved into
[0, 1], makes of them, a half counting up. -/
def filledCells (x : Float) (width : Nat) : Nat :=
  (Grade.clamp x * Float.ofNat width).round.toUInt64.toNat

/-- A bar of `width` cells. -/
def barText (x : Float) (width : Nat) : String :=
  repeated (filledCells x width) '█' ++ repeated (width - filledCells x width) '░'

/-- A bar of `width` cells, in gray. -/
def bar (colored : Bool) (x : Float) (width : Nat) : String :=
  paint colored .muted (barText x width)

/-! ## Truth values and headings -/

/-- A truth value with a mark. -/
def truth (colored value : Bool) : String :=
  if value then paint colored .pass "✓ true" else paint colored .fail "✖ false"

/-- A heading in upper case. -/
def heading (colored : Bool) (text : String) : String :=
  embolden colored (paint colored .accent (Text.upper text))

/-- A line of `width` columns. -/
def rule (colored : Bool) (width : Nat) : String := paint colored .muted (repeated width '─')

end GradedQuery.Display
