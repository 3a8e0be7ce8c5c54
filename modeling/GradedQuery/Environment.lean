/-!
# Environment variables

The variables that the surroundings of a run set.  They choose colors, locate the configuration
and override its settings.
-/

namespace GradedQuery

/-- Variables with their values, in the order in which they are set. -/
structure Environment where
  bindings : List (String × String)
  deriving DecidableEq, Repr, Inhabited

namespace Environment

/-- The value of a variable. -/
def get? (env : Environment) (name : String) : Option String := env.bindings.lookup name

/-- Whether a variable is set, be it to the empty text. -/
def isSet (env : Environment) (name : String) : Bool := (env.get? name).isSome

/-- Sets a variable, as the last one. -/
def set (env : Environment) (name value : String) : Environment :=
  ⟨env.bindings.filter (·.1 ≠ name) ++ [(name, value)]⟩

/-- Removes a variable. -/
def unset (env : Environment) (name : String) : Environment :=
  ⟨env.bindings.filter (·.1 ≠ name)⟩

end Environment

end GradedQuery
