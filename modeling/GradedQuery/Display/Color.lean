import GradedQuery.Environment

/-!
# Colors

Text is colored by escape sequences of the terminal, and only where colors are wanted: the
environment may ask for them or refuse them, and otherwise they are used on a terminal only.
-/

namespace GradedQuery.Display

/-! ## Whether to use colors -/

/-- What the environment says about colors. -/
inductive ColorChoice where
  | never
  | always
  /-- On a terminal only. -/
  | auto
  deriving DecidableEq, Repr

namespace ColorChoice

/-- The choice of an environment.  A refusal wins over a request. -/
def ofEnvironment (env : Environment) : ColorChoice :=
  if env.isSet "NO_COLOR" then .never
  else if env.get? "CLICOLOR" = some "0" ∨ env.get? "TERM" = some "dumb" then .never
  else if env.isSet "CLICOLOR_FORCE" then .always
  else .auto

/-- Whether output that goes to a terminal, or does not, is colored. -/
def applies (choice : ColorChoice) (toTerminal : Bool) : Bool :=
  match choice with
  | .never => false
  | .always => true
  | .auto => toTerminal

end ColorChoice

/-! ## The palette -/

/-- A color by its parts of red, green and blue. -/
structure Color where
  red : UInt8
  green : UInt8
  blue : UInt8
  deriving DecidableEq, Repr

namespace Color

/-- For what is good: a bright green. -/
def pass : Color := ⟨0xc2, 0xd9, 0x4c⟩

/-- For what is in between: a bright yellow. -/
def warn : Color := ⟨0xff, 0xb4, 0x54⟩

/-- For what is bad: a bright red. -/
def fail : Color := ⟨0xf0, 0x71, 0x78⟩

/-- For what stands back: a gray. -/
def muted : Color := ⟨0x6c, 0x76, 0x80⟩

/-- For headings: a bright blue. -/
def accent : Color := ⟨0x59, 0xc2, 0xff⟩

end Color

/-- The escape sequence with the given parameters. -/
def escapeSequence (parameters : List Nat) : String :=
  "\x1b[" ++ ";".intercalate (parameters.map toString) ++ "m"

/-- A text in a color, where `colored` says that colors are used. -/
def paint (colored : Bool) (color : Color) (text : String) : String :=
  if colored then
    escapeSequence [38, 2, color.red.toNat, color.green.toNat, color.blue.toNat] ++ text ++
      escapeSequence [39]
  else text

/-- A text in bold face, where `colored` says that colors are used. -/
def embolden (colored : Bool) (text : String) : String :=
  if colored then escapeSequence [1] ++ text ++ escapeSequence [0] else text

end GradedQuery.Display
