import GradedQuery.Json.Reader

/-!
# Skipping values

A value under an unknown key is skipped, whatever it is, as long as it is well-formed.  Nesting is
kept as a stack of open brackets, so there is no limit to its depth; and an ignored number may be
of any size.
-/

namespace GradedQuery.Json

/-- The brackets that nest values. -/
inductive Bracket where
  | list
  | object
  deriving DecidableEq, Repr

namespace Bracket

/-- The closing mark of a bracket. -/
def closing : Bracket → Char
  | .list => ']'
  | .object => '\x7d'

/-- The refusal of a text that ends inside a bracket. -/
def ended : Bracket → Cause
  | .list => .endInList
  | .object => .endInObject

/-- The refusal of anything but a comma or the closing mark behind a value. -/
def unseparated : Bracket → Cause
  | .list => .expectedListCommaOrEnd
  | .object => .expectedObjectCommaOrEnd

end Bracket

/-! ## Numbers -/

/-- Skips an exponent, if one is next. -/
def skipExponent : Reader Unit := do
  match ← Reader.next? with
  | some 'e' | some 'E' => do
    Reader.drop 1
    let sign ← Reader.next?
    if sign = some '+' ∨ sign = some '-' then Reader.drop 1
    let digits ← Reader.takeWhile Char.isDigit
    if digits.isEmpty then .refuse .invalidNumber 1
  | _ => return ()

/-- Skips what is left of a number behind its first digit. -/
def skipNumberTail (first : Char) : Reader Unit := do
  if first = '0' then
    if ((← Reader.next?).map Char.isDigit).getD false then .refuse .invalidNumber 1
  else
    let _ ← Reader.takeWhile Char.isDigit
  if (← Reader.next?) = some '.' then
    Reader.drop 1
    let digits ← Reader.takeWhile Char.isDigit
    if digits.isEmpty then .refuse .invalidNumber 1
  skipExponent

/-- Skips what is left of a number behind its sign. -/
def skipUnsigned : Reader Unit := do
  match ← Reader.next? with
  | some c =>
    if c.isDigit then do
      Reader.drop 1
      skipNumberTail c
    else .refuse .invalidNumber 1
  | none => .refuse .invalidNumber

/-! ## Values -/

/-- Whether a value can start with this character. -/
def startsValue (c : Char) : Bool :=
  c.isDigit || ['n', 't', 'f', '-', '"', '[', '\x7b'].contains c

/-- Skips what is left of a value behind its first character.  Of a list or an object only the
opening bracket is skipped. -/
def skipBehind (first : Char) : Reader (Option Bracket) :=
  match first with
  | 'n' => do wordTail "ull".toList; return none
  | 't' => do wordTail "rue".toList; return none
  | 'f' => do wordTail "alse".toList; return none
  | '"' => do ignoredTextBody; return none
  | '[' => return some .list
  | '\x7b' => return some .object
  | '-' => do skipUnsigned; return none
  | c => do skipNumberTail c; return none

/-- Skips closing brackets, and the comma behind a value, up to the next value or to the end of
all brackets.  Yields the brackets that are still open. -/
def closeBrackets (behindValue : Bool) : List Bracket → Reader (List Bracket)
  | [] => return []
  | b :: opened => do
    match ← nextMark? with
    | none => .refuse b.ended 1
    | some c =>
      if behindValue && c = ',' then do
        Reader.drop 1
        return b :: opened
      else if c = b.closing then do
        Reader.drop 1
        closeBrackets true opened
      else if behindValue then .refuse b.unseparated 1
      else return b :: opened

/-- Skips a key and its colon. -/
def skipKey : Reader Unit := do
  match ← nextMark? with
  | some '"' => do
    Reader.drop 1
    ignoredTextBody
    colon
  | some _ => .refuse .keyMustBeText 1
  | none => .refuse .endInObject 1

/-- Goes on to the next value inside the open brackets. -/
def toNextValue (behindValue : Bool) (opened : List Bracket) : Reader (List Bracket) := do
  let opened ← closeBrackets behindValue opened
  if opened.head? = some .object then skipKey
  return opened

/-- Skips a value inside open brackets, and all that follows up to the last closing bracket. -/
def skipFrom (opened : List Bracket) (cs : List Char) : Except Refusal (Unit × List Char) :=
  match _hs : skipSpace cs with
  | [] => .error ⟨.endInValue, [], 1⟩
  | c :: rest =>
    if startsValue c then
      match _hv : (skipBehind c).run rest with
      | .error e => .error e
      | .ok (bracket, rest') =>
        match _hn : (toNextValue bracket.isNone (bracket.toList ++ opened)).run rest' with
        | .error e => .error e
        | .ok ([], rest'') => .ok ((), rest'')
        | .ok (opened', rest'') => skipFrom opened' rest''
    else .error ⟨.expectedValue, c :: rest, 1⟩
termination_by cs.length
decreasing_by
  have h₁ := length_skipSpace cs
  have h₂ := (skipBehind c).shrinks _hv
  have h₃ := (toNextValue _ _).shrinks _hn
  rw [_hs, List.length_cons] at h₁
  omega

theorem length_skipFrom {opened : List Bracket} {cs rest : List Char} {u : Unit}
    (h : skipFrom opened cs = .ok (u, rest)) : rest.length ≤ cs.length := by
  fun_induction skipFrom opened cs
  case case4 opened cs c tail hs hc bracket mid hv rest' hn =>
    have h₁ := length_skipSpace cs
    have h₂ := (skipBehind c).shrinks hv
    have h₃ := (toNextValue _ _).shrinks hn
    cases h
    rw [hs, List.length_cons] at h₁
    omega
  case case5 opened cs c tail hs hc bracket mid hv opened' rest' _ hn ih =>
    have h₁ := length_skipSpace cs
    have h₂ := (skipBehind c).shrinks hv
    have h₃ := (toNextValue _ _).shrinks hn
    have h₄ := ih h
    rw [hs, List.length_cons] at h₁
    omega
  all_goals cases h

/-- Skips one value. -/
def skipValue : Reader Unit := ⟨skipFrom [], length_skipFrom⟩

end GradedQuery.Json
