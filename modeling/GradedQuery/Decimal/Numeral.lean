/-!
# Numerals

Naturals in any base up to sixteen, and decimal numerals with a fraction or an exponent, as they
stand in configuration.  A decimal numeral denotes `digits · 10 ^ exponent`.
-/

namespace GradedQuery.Decimal

/-- The number of naturals of 64 bits, `2 ^ 64`. -/
def wordCount : Nat := 0x10000000000000000

/-- Half of `wordCount`: the greatest magnitude of a negative integer of 64 bits. -/
def halfWordCount : Nat := 0x8000000000000000

/-- The value of a digit in a base up to sixteen. -/
def digitValue? (base : Nat) (c : Char) : Option Nat :=
  let value :=
    if c.isDigit then some (c.toNat - '0'.toNat)
    else if 'a' ≤ c ∧ c ≤ 'f' then some (c.toNat - 'a'.toNat + 10)
    else if 'A' ≤ c ∧ c ≤ 'F' then some (c.toNat - 'A'.toNat + 10)
    else none
  value.filter (· < base)

/-- The natural that a text of one or more digits denotes. -/
def natural? (base : Nat) (cs : List Char) : Option Nat :=
  if cs.isEmpty then none
  else cs.foldlM (fun n c => do return base * n + (← digitValue? base c)) 0

/-- Takes a sign off the front of a text; says whether it is a minus. -/
def takeSign : List Char → Bool × List Char
  | '-' :: rest => (true, rest)
  | '+' :: rest => (false, rest)
  | cs => (false, cs)

/-- A signed text as an integer, where `magnitude?` reads what follows the sign. -/
def signedBy? (magnitude? : List Char → Option Nat) (cs : List Char) : Option Int := do
  let (negative, rest) := takeSign cs
  let n ← magnitude? rest
  return if negative then -(n : Int) else n

/-- The exponent at the end of a numeral, 0 where there is none. -/
def exponent? : List Char → Option Int
  | [] => some 0
  | c :: rest => if c = 'e' ∨ c = 'E' then signedBy? (natural? 10) rest else none

/-- The digits and the exponent of an unsigned decimal numeral.  The fraction or the whole part may
be missing, but not both. -/
def numeral? (cs : List Char) : Option (Nat × Int) := do
  let whole := cs.takeWhile Char.isDigit
  let (fraction, rest) := match cs.dropWhile Char.isDigit with
    | '.' :: rest => (rest.takeWhile Char.isDigit, rest.dropWhile Char.isDigit)
    | rest => ([], rest)
  let digits ← natural? 10 (whole ++ fraction)
  let exponent ← exponent? rest
  return (digits, exponent - fraction.length)

end GradedQuery.Decimal
