import GradedQuery.Decimal.Numeral
import GradedQuery.Text.Alphanumeric

/-!
# Patterns in directives

A directive may ask for events by the value of a field, which is then given as a regular
expression.  Since the program has no values of that kind to offer, **all that counts of a pattern
is whether it is well-formed**.  A pattern stands in braces and so contains no closing one; that is
why counted repetitions never are.
-/

namespace GradedQuery.CommandLine.Pattern

/-! ## Escapes -/

/-- The number of hexadecimal digits behind the letter of an escape by code point. -/
def escapeWidth? : Char → Option Nat
  | 'x' => some 2
  | 'u' => some 4
  | 'U' => some 8
  | _ => none

/-- The escapes of a letter that stand for a class of characters. -/
def classLetters : List Char := ['d', 'D', 's', 'S', 'w', 'W']

/-- The escapes of a letter that stand for a control character. -/
def controlLetters : List (Char × Char) :=
  [('a', '\x07'), ('f', '\x0c'), ('t', '\t'), ('n', '\n'), ('r', '\r'), ('v', '\x0b')]

/-- The general categories of characters that an escape can name by a letter. -/
def categoryLetters : List Char := ['c', 'l', 'm', 'n', 'p', 's', 'z']

/-- Reads an escape behind its backslash.  Yields the character that it stands for, if it is a
single one, and what follows. -/
def escape? : List Char → Option (Option Char × List Char)
  | [] => none
  | c :: rest =>
    match escapeWidth? c, controlLetters.lookup c with
    | some width, _ => do
      let digits := rest.take width
      if digits.length < width then none
      let n ← Decimal.natural? 16 digits
      if n.isValidChar then some (some (Char.ofNat n), rest.drop width) else none
    | none, some d => some (some d, rest)
    | none, none =>
      if classLetters.contains c then some (none, rest)
      else if c = 'p' || c = 'P' then
        if rest.head?.any (categoryLetters.contains ·.toLower) then some (none, rest.drop 1)
        else none
      else if c.isAlphanum || c = '<' || c = '>' || 0x80 ≤ c.toNat then none
      else some (some c, rest)

/-! ## Classes in brackets -/

/-- Reads one item of a class: an escape or a character that stands for itself. -/
def classItem? : List Char → Option (Option Char × List Char)
  | [] => none
  | '\\' :: rest => escape? rest
  | c :: rest => some (some c, rest)

/-- Skips what has no meaning of its own at the start of a class: hyphens, or else a closing
bracket. -/
def classHead (cs : List Char) : List Char :=
  let cs := match cs with
    | '^' :: rest => rest
    | cs => cs
  match cs with
  | '-' :: rest => rest.dropWhile (· = '-')
  | ']' :: rest => rest
  | cs => cs

/-- Whether two ends make a range. -/
def isRange : Option Char → Option Char → Bool
  | some a, some b => a ≤ b
  | _, _ => false

/-- Reads the rest of a class up to and with its closing bracket. -/
def classTail? (fuel : Nat) (cs : List Char) : Option (List Char) :=
  match fuel, cs with
  | 0, _ | _, [] => none
  | _ + 1, ']' :: rest => some rest
  | fuel + 1, '[' :: rest => (classTail? fuel (classHead rest)).bind (classTail? fuel)
  | fuel + 1, cs => do
    let (low, rest) ← classItem? cs
    match rest with
    | '-' :: d :: rest' =>
      if d = ']' || d = '-' then classTail? fuel rest
      else do
        let (high, rest) ← classItem? (d :: rest')
        if isRange low high then classTail? fuel rest else none
    | _ => classTail? fuel rest

/-! ## Groups -/

/-- The letters that switch a way of matching on or off. -/
def flagLetters : List Char := ['i', 'm', 's', 'U', 'u', 'R', 'x', '-']

/-- Whether a group can have this name. -/
def isGroupName : List Char → Bool
  | [] => false
  | c :: rest =>
    (c = '_' || Text.isAlphanumeric c && !c.isDigit) &&
      rest.all fun c => c = '_' || c = '.' || c = '[' || c = ']' || Text.isAlphanumeric c

/-- Reads a name up to and with the mark behind it. -/
def groupName? (cs : List Char) : Option (List Char) :=
  match cs.dropWhile (· ≠ '>') with
  | _ :: rest => if isGroupName (cs.takeWhile (· ≠ '>')) then some rest else none
  | [] => none

/-- Reads what may stand behind an opening parenthesis to say what kind of group it is, and whether
a group is opened at all. -/
def groupHead? : List Char → Option (Bool × List Char)
  | '?' :: 'P' :: '<' :: rest | '?' :: '<' :: rest => (groupName? rest).map (true, ·)
  | '?' :: rest =>
    let flags := rest.takeWhile flagLetters.contains
    if !flags.Nodup || flags.getLast? = some '-' then none
    else match rest.dropWhile flagLetters.contains with
      | ':' :: rest => some (true, rest)
      | ')' :: rest => if flags.isEmpty then none else some (false, rest)
      | _ => none
  | rest => some (true, rest)

/-! ## Patterns -/

/-- Whether a pattern goes on in a well-formed way inside so many groups; `operand` says whether
something stands in front that can be repeated. -/
def goesOn (fuel depth : Nat) (operand : Bool) (cs : List Char) : Bool :=
  match fuel, cs with
  | 0, _ => false
  | _ + 1, [] => depth = 0
  | fuel + 1, '(' :: rest =>
    match groupHead? rest with
    | some (true, rest) => goesOn fuel (depth + 1) false rest
    | some (false, rest) => goesOn fuel depth false rest
    | none => false
  | fuel + 1, ')' :: rest => depth ≠ 0 && goesOn fuel (depth - 1) true rest
  | fuel + 1, '|' :: rest => goesOn fuel depth false rest
  | fuel + 1, '[' :: rest =>
    (classTail? (rest.length + 1) (classHead rest)).any (goesOn fuel depth true)
  | fuel + 1, '\\' :: rest =>
    if rest.head?.any fun c => c = 'A' || c = 'z' then goesOn fuel depth true (rest.drop 1)
    else (escape? rest).any fun (_, rest) => goesOn fuel depth true rest
  | fuel + 1, c :: rest =>
    if c = '?' || c = '*' || c = '+' then
      operand && goesOn fuel depth true (if rest.head? = some '?' then rest.drop 1 else rest)
    else c ≠ '\x7b' && goesOn fuel depth true rest

/-- Whether a text is a well-formed pattern.  So is every number. -/
def isWellFormed (text : List Char) : Bool :=
  (Decimal.numeral? (Decimal.takeSign text).2).isSome || goesOn (text.length + 1) 0 false text

end GradedQuery.CommandLine.Pattern
