import GradedQuery.Text.Unshown

/-!
# Quoted texts in messages

A message shows a text that it refuses between quotation marks, in a form that makes every
character visible.
-/

namespace GradedQuery.Text

/-- A code point in lower-case hexadecimal digits. -/
def hex (n : Nat) : String := String.ofList (Nat.toDigits 16 n)

/-- The visible form of a character between quotation marks. -/
def quoteChar (c : Char) : String :=
  match c with
  | '"' => "\\\""
  | '\\' => "\\\\"
  | '\n' => "\\n"
  | '\r' => "\\r"
  | '\t' => "\\t"
  | '\x00' => "\\0"
  | c => if isUnshown c then "\\u\x7b" ++ hex c.toNat ++ "\x7d" else String.singleton c

/-- A text between quotation marks. -/
def quote (s : String) : String := "\"" ++ String.join (s.toList.map quoteChar) ++ "\""

end GradedQuery.Text
