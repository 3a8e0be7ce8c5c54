import GradedQuery.Json.Number

/-!
# Reading JSON by expectation

A text is read from left to right by readers that know what they expect, so that a value of the
wrong kind is refused as soon as it is seen, before anything is said about the text behind it.
**A reader never leaves more than it was given** (`Reader.shrinks`); that is why loops over the
entries of an object and over nested values end.
-/

namespace GradedQuery.Json

/-- Takes a value off the front of a text. -/
structure Reader (α : Type) where
  run : List Char → Except Refusal (α × List Char)
  shrinks : ∀ {cs a rest}, run cs = .ok (a, rest) → rest.length ≤ cs.length

namespace Reader

variable {α β : Type}

instance : Monad Reader where
  pure a := ⟨fun cs => .ok (a, cs), fun h => by cases h; exact Nat.le_refl _⟩
  bind x f :=
    { run := fun cs =>
        match x.run cs with
        | .error e => .error e
        | .ok (a, rest) => (f a).run rest
      shrinks := fun {cs b rest} h => by
        split at h
        · cases h
        · next a mid hx => exact Nat.le_trans ((f a).shrinks h) (x.shrinks hx) }

/-- Refuses the text; `ahead` bytes of what is left count as read. -/
def refuse (cause : Cause) (ahead : Nat := 0) : Reader α :=
  ⟨fun cs => .error ⟨cause, cs, ahead⟩, fun h => by cases h⟩

/-- Reads nothing and yields what is left. -/
def remaining : Reader (List Char) := ⟨fun cs => .ok (cs, cs), fun h => by cases h; simp⟩

/-- Drops characters. -/
def drop (n : Nat) : Reader Unit :=
  ⟨fun cs => .ok ((), cs.drop n), fun h => by cases h; simp⟩

/-- Takes characters as long as they satisfy `p`. -/
def takeWhile (p : Char → Bool) : Reader (List Char) :=
  ⟨fun cs => .ok (cs.takeWhile p, cs.dropWhile p),
    fun h => by cases h; exact (List.dropWhile_sublist p).length_le⟩

/-- Yields the next character, if there is one, without reading it. -/
def next? : Reader (Option Char) := do return (← remaining).head?

end Reader

/-- The white space of JSON. -/
def isSpace (c : Char) : Bool := c = ' ' || c = '\n' || c = '\t' || c = '\r'

/-- A text without the white space in front. -/
def skipSpace (cs : List Char) : List Char := cs.dropWhile isSpace

theorem length_skipSpace (cs : List Char) : (skipSpace cs).length ≤ cs.length :=
  (List.dropWhile_sublist _).length_le

/-- Skips white space and yields the next character without reading it. -/
def nextMark? : Reader (Option Char) := do
  let _ ← Reader.takeWhile isSpace
  Reader.next?

/-! ## Words -/

/-- Reads the rest of one of the words `null`, `true` and `false`. -/
def wordTail : List Char → Reader Unit
  | [] => return ()
  | w :: ws => do
    match ← Reader.next? with
    | none => .refuse .endInValue
    | some c => if c = w then do Reader.drop 1; wordTail ws else .refuse .expectedIdent 1

/-! ## Texts -/

/-- The value of a hexadecimal digit. -/
def hexDigit? (c : Char) : Option Nat :=
  if c.isDigit then some (c.toNat - '0'.toNat)
  else if 'a' ≤ c ∧ c ≤ 'f' then some (c.toNat - 'a'.toNat + 10)
  else if 'A' ≤ c ∧ c ≤ 'F' then some (c.toNat - 'A'.toNat + 10)
  else none

/-- Reads the four hexadecimal digits of an escape. -/
def hexEscape : Reader Nat := do
  let rest ← Reader.remaining
  if utf8Length rest < 4 then
    Reader.drop rest.length
    .refuse .endInString
  else match (rest.take 4).mapM hexDigit? with
    | some digits => do Reader.drop 4; return digits.foldl (16 * · + ·) 0
    | none => .refuse .invalidEscape 4

/-- The character of a one-letter escape. -/
def shortEscape? : Char → Option Char
  | '"' => some '"'
  | '\\' => some '\\'
  | '/' => some '/'
  | 'b' => some '\x08'
  | 'f' => some '\x0c'
  | 'n' => some '\n'
  | 'r' => some '\r'
  | 't' => some '\t'
  | _ => none

/-- Reads one given character of a surrogate's partner. -/
def partnerMark (mark : Char) : Reader Unit := do
  match ← Reader.next? with
  | none => .refuse .endInString
  | some c => if c = mark then Reader.drop 1 else .refuse .missingSurrogate 1

/-- Reads an escape by code unit.  A character beyond the Basic Multilingual Plane is written as
two escapes, its surrogates. -/
def unicodeEscape : Reader Char := do
  let unit ← hexEscape
  if 0xDC00 ≤ unit ∧ unit ≤ 0xDFFF then .refuse .loneSurrogate
  else if 0xD800 ≤ unit ∧ unit ≤ 0xDBFF then do
    partnerMark '\\'
    partnerMark 'u'
    let partner ← hexEscape
    if 0xDC00 ≤ partner ∧ partner ≤ 0xDFFF then
      return Char.ofNat (0x10000 + (unit - 0xD800) * 0x400 + (partner - 0xDC00))
    else .refuse .loneSurrogate
  else return Char.ofNat unit

/-- Reads an escape behind its backslash. -/
def escape : Reader Char := do
  match ← Reader.next? with
  | none => .refuse .endInString
  | some 'u' => do Reader.drop 1; unicodeEscape
  | some c =>
    match shortEscape? c with
    | some d => do Reader.drop 1; return d
    | none => .refuse .invalidEscape 1

/-- Reads an escape behind its backslash in a text that is ignored: surrogates need no partner. -/
def ignoredEscape : Reader Char := do
  match ← Reader.next? with
  | some 'u' => do Reader.drop 1; let _ ← hexEscape; return 'u'
  | _ => escape

/-- The characters of a text up to its closing quotation mark, with the text behind it.  Of a
control character `ahead` bytes count as read. -/
def textChars (escape : Reader Char) (ahead : Nat) :
    List Char → Except Refusal (List Char × List Char)
  | [] => .error ⟨.endInString, [], 0⟩
  | c :: rest =>
    if c = '"' then .ok ([], rest)
    else if c = '\\' then
      match _h : escape.run rest with
      | .error e => .error e
      | .ok (d, rest') =>
        match textChars escape ahead rest' with
        | .error e => .error e
        | .ok (ds, rest'') => .ok (d :: ds, rest'')
    else if c.toNat < 0x20 then .error ⟨.controlCharacter, c :: rest, ahead⟩
    else
      match textChars escape ahead rest with
      | .error e => .error e
      | .ok (ds, rest') => .ok (c :: ds, rest')
termination_by cs => cs.length
decreasing_by
  · have := escape.shrinks _h
    simp only [List.length_cons]
    omega
  · simp

theorem length_textChars {escape : Reader Char} {ahead : Nat} {cs ds rest : List Char}
    (h : textChars escape ahead cs = .ok (ds, rest)) : rest.length ≤ cs.length := by
  fun_induction textChars escape ahead cs generalizing ds rest
  case case5 hd _ _ hr _ ih =>
    have := escape.shrinks hd
    have := ih hr
    cases h
    simp only [List.length_cons]
    omega
  case case8 hr ih =>
    have := ih hr
    cases h
    simp only [List.length_cons]
    omega
  all_goals cases h
  all_goals simp

/-- Reads a text behind its opening quotation mark. -/
def textBody : Reader String :=
  { run := fun cs => (textChars escape 1 cs).map fun (ds, rest) => (String.ofList ds, rest)
    shrinks := fun {cs a rest} h => by
      cases hr : textChars escape 1 cs with
      | error e => simp [hr, Except.map] at h
      | ok r =>
        simp only [hr, Except.map, Except.ok.injEq, Prod.mk.injEq] at h
        exact h.2 ▸ length_textChars hr }

/-- Skips a text behind its opening quotation mark. -/
def ignoredTextBody : Reader Unit :=
  { run := fun cs => (textChars ignoredEscape 0 cs).map fun (_, rest) => ((), rest)
    shrinks := fun {cs a rest} h => by
      cases hr : textChars ignoredEscape 0 cs with
      | error e => simp [hr, Except.map] at h
      | ok r =>
        simp only [hr, Except.map, Except.ok.injEq, Prod.mk.injEq] at h
        exact h.2 ▸ length_textChars hr }

/-! ## Numbers -/

/-- Yields `± digits · 10 ^ exponent` if it is finite. -/
def scaled (negative : Bool) (digits : Nat) (exponent : Int) : Reader Number :=
  match scale? (ofWord digits) exponent with
  | some x => return .float (signed negative x)
  | none => .refuse .numberOutOfRange

/-- The greatest exponent that can be written in a number other than zero. -/
def exponentLimit : Nat := 2147483647

/-- The number of digits up to the one that takes an exponent beyond the limit, if one does.  The
digits before these have the value `n`. -/
def excessLength? (n : Nat) : List Char → Option Nat
  | [] => none
  | d :: ds =>
    let n := digitsValue [d] + 10 * n
    if exponentLimit < n then some 1 else (excessLength? n ds).map (· + 1)

/-- Reads an exponent behind its letter.  One that makes the number too great is refused at the
digit that shows it. -/
def exponentTail (zero : Bool) : Reader Int := do
  let sign ← Reader.next?
  if sign = some '+' ∨ sign = some '-' then Reader.drop 1
  match ← Reader.next? with
  | none => .refuse .endInValue
  | some c =>
    if c.isDigit then do
      let ds := (← Reader.remaining).takeWhile Char.isDigit
      if sign = some '-' then do Reader.drop ds.length; return -(digitsValue ds : Int)
      else match (excessLength? 0 ds).filter fun _ => !zero with
        | some n => do Reader.drop n; .refuse .numberOutOfRange
        | none => do Reader.drop ds.length; return digitsValue ds
    else .refuse .invalidNumber 1

/-- Reads what may follow the digits of a number: an exponent, or nothing. -/
def exponentOrEnd (negative : Bool) (digits : Nat) (exponent : Int) : Reader Number := do
  match ← Reader.next? with
  | some 'e' | some 'E' => do
    Reader.drop 1
    let e ← exponentTail (digits = 0)
    scaled negative digits (exponent + e)
  | _ => scaled negative digits exponent

/-- Reads what may follow the integer part of a number.  Without fraction and exponent it is an
integer, unless it does not fit or is a negative zero. -/
def numberTail (negative : Bool) (whole : List Char) : Reader Number := do
  let (n, count) := takeDigits 0 whole
  -- each digit of the integer part that does not count makes the number ten times as great
  let excess : Int := whole.length - count
  match ← Reader.next? with
  | some '.' => do
    Reader.drop 1
    let fraction ← Reader.takeWhile Char.isDigit
    if fraction.isEmpty then
      match ← Reader.next? with
      | none => .refuse .endInValue
      | some _ => .refuse .invalidNumber 1
    else
      let (m, places) := takeDigits n fraction
      exponentOrEnd negative m (excess - places)
  | some 'e' | some 'E' => exponentOrEnd negative n excess
  | _ =>
    if excess ≠ 0 then scaled negative n excess
    else if negative then
      if n ≠ 0 ∧ n ≤ Decimal.halfWordCount then return .integer (-n) else scaled negative n 0
    else return .integer n

/-- Reads the digits of a number from its first one on. -/
def unsignedNumber (negative : Bool) : Reader Number := do
  match ← Reader.next? with
  | none => .refuse .endInValue
  | some '0' => do
    Reader.drop 1
    match ← Reader.next? with
    | some c => if c.isDigit then .refuse .invalidNumber 1 else numberTail negative ['0']
    | none => numberTail negative ['0']
  | some c =>
    if c.isDigit then do
      let whole ← Reader.takeWhile Char.isDigit
      numberTail negative whole
    else .refuse .invalidNumber 1

/-- Reads a number whose first character is next. -/
def number : Reader Number := do
  if (← Reader.next?) = some '-' then do
    Reader.drop 1
    unsignedNumber true
  else unsignedNumber false

/-! ## Values of a wanted kind -/

/-- Refuses the value that is next, because it is of another kind than `expected`. -/
def wrongKind {α : Type} (expected : String) : Reader α := do
  let refuseAs (found : Shape) : Reader α := .refuse (.invalidType found expected)
  match ← Reader.next? with
  | some 'n' => do Reader.drop 1; wordTail "ull".toList; refuseAs .null
  | some 't' => do Reader.drop 1; wordTail "rue".toList; refuseAs (.boolean true)
  | some 'f' => do Reader.drop 1; wordTail "alse".toList; refuseAs (.boolean false)
  | some '"' => do Reader.drop 1; let s ← textBody; refuseAs (.text s)
  | some '[' => refuseAs .sequence
  | some '\x7b' => refuseAs .map
  | some c =>
    if c = '-' ∨ c.isDigit then do let n ← number; refuseAs n.shape
    else .refuse .expectedValue 1
  | none => .refuse .endInValue 1

/-- Reads a text; `expected` says in a refusal what it is wanted for. -/
def text (expected : String := "a string") : Reader String := do
  if (← nextMark?) = some '"' then do
    Reader.drop 1
    textBody
  else wrongKind expected

/-- Reads a number. -/
def float : Reader Float := do
  match ← nextMark? with
  | some c =>
    if c = '-' ∨ c.isDigit then do let n ← number; return n.toFloat
    else wrongKind "f64"
  | none => wrongKind "f64"

/-- Reads `null`. -/
def unit : Reader Unit := do
  if (← nextMark?) = some 'n' then do
    Reader.drop 1
    wordTail "ull".toList
  else wrongKind "unit"

/-- Reads the colon between a key and its value. -/
def colon : Reader Unit := do
  match ← nextMark? with
  | some ':' => Reader.drop 1
  | some _ => .refuse .expectedColon 1
  | none => .refuse .endInObject 1

/-! ## Entries of an object -/

/-- Reads an entry behind the opening quotation mark of its key. -/
def entry {σ : Type} (step : σ → String → Reader σ) (s : σ) : Reader σ := do
  let key ← textBody
  step s key

/-- Reads the entries of an object up to and with its closing brace.  `step` reads the part of an
entry behind its key; `first` says whether no entry has been read yet. -/
def entriesFrom {σ : Type} (step : σ → String → Reader σ) (first : Bool) (s : σ) (cs : List Char) :
    Except Refusal (σ × List Char) :=
  match _hs : skipSpace cs with
  | [] => .error ⟨.endInObject, [], 1⟩
  | c :: rest =>
    if c = '\x7d' then .ok (s, rest)
    else if first then
      if c = '"' then
        match _h : (entry step s).run rest with
        | .error e => .error e
        | .ok (s', rest') => entriesFrom step false s' rest'
      else .error ⟨.keyMustBeText, c :: rest, 1⟩
    else if c = ',' then
      match _hs' : skipSpace rest with
      | [] => .error ⟨.endInValue, [], 1⟩
      | d :: rest' =>
        if d = '"' then
          match _h : (entry step s).run rest' with
          | .error e => .error e
          | .ok (s', rest'') => entriesFrom step false s' rest''
        else .error ⟨if d = '\x7d' then .trailingComma else .keyMustBeText, d :: rest', 1⟩
    else .error ⟨.expectedObjectCommaOrEnd, c :: rest, 1⟩
termination_by cs.length
decreasing_by
  · have h₁ := (entry step s).shrinks _h
    have h₂ := length_skipSpace cs
    rw [_hs, List.length_cons] at h₂
    omega
  · have h₁ := (entry step s).shrinks _h
    have h₂ := length_skipSpace cs
    have h₃ := length_skipSpace rest
    rw [_hs, List.length_cons] at h₂
    rw [_hs', List.length_cons] at h₃
    omega

theorem length_entriesFrom {σ : Type} {step : σ → String → Reader σ} {first : Bool} {s t : σ}
    {cs rest : List Char} (h : entriesFrom step first s cs = .ok (t, rest)) :
    rest.length ≤ cs.length := by
  fun_induction entriesFrom step first s cs
  case case2 cs _ hs =>
    have h₂ := length_skipSpace cs
    cases h
    rw [hs, List.length_cons] at h₂
    omega
  case case4 cs _ _ _ hm hs _ ih =>
    have h₁ := (entry step _).shrinks hm
    have h₂ := length_skipSpace cs
    have h₃ := ih h
    rw [hs, List.length_cons] at h₂
    omega
  case case8 cs tail _ _ _ _ hm hs _ hs' ih =>
    have h₁ := (entry step _).shrinks hm
    have h₂ := length_skipSpace cs
    have h₃ := ih h
    have h₄ := length_skipSpace tail
    rw [hs, List.length_cons] at h₂
    rw [hs', List.length_cons] at h₄
    omega
  all_goals cases h

/-- Reads an object behind its opening brace. -/
def entries {σ : Type} (step : σ → String → Reader σ) (s : σ) : Reader σ :=
  ⟨entriesFrom step true s, length_entriesFrom⟩

/-- Reads an object into the value that `step` makes of its entries; `expected` says in a refusal
what it is wanted for. -/
def object {σ : Type} (expected : String) (step : σ → String → Reader σ) (s : σ) : Reader σ := do
  if (← nextMark?) = some '\x7b' then do
    Reader.drop 1
    entries step s
  else wrongKind expected

/-! ## Whole texts -/

/-- Reads a text that holds one value and nothing else. -/
def decode {α : Type} (r : Reader α) (text : List Char) : Except Fault α :=
  match r.run text with
  | .error refusal => .error (refusal.inText text)
  | .ok (a, rest) =>
    match skipSpace rest with
    | [] => .ok a
    | rest => .error (Refusal.inText text ⟨.trailingCharacters, rest, 1⟩)

end GradedQuery.Json
