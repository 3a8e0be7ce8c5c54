import GradedQuery.Normalize

/-!
# Compilation

Text is parsed, its weighted connectives are expanded, and the result is normalized.  Each stage
reports its formula to the trace.
-/

namespace GradedQuery

/-- A compiled query, with the formula of every stage. -/
structure Compiled where
  parsed : Formula
  expanded : Formula
  normalized : Formula
  deriving DecidableEq, Repr

/-- Compiles a text.  The events up to a failure are kept. -/
def compile (opts : SplitOptions) (naming : Naming) (text : String) : Traced Compiled := do
  let parsed ← .ofExcept ((parse text).mapError .parse)
  .report (.parsed parsed)
  let expanded := parsed.expand
  .report (.expandedWeights expanded)
  let normalized ← expanded.normalize opts naming
  .report (.normalized normalized)
  return ⟨parsed, expanded, normalized⟩

end GradedQuery
