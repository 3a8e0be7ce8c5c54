import GradedQuery.Formula.Parser
import GradedQuery.Text.Quoted

/-!
# Errors of the query stages

Text can fail to parse, and a stage that works on plain formulas refuses a weighted connective
that has not been expanded.  The normalizer has a failure of its own for overlapping attributes
on which it finds no literal.
-/

namespace GradedQuery

/-- The stages that accept plain formulas only. -/
inductive Stage where
  | dnfConversion
  | normalizer
  | evaluator
  deriving DecidableEq, Repr

/-- How messages name a stage. -/
def Stage.name : Stage → String
  | .dnfConversion => "DNF conversion"
  | .normalizer => "normalizer"
  | .evaluator => "evaluator"

/-- Why a query cannot be compiled or scored. -/
inductive QueryError where
  /-- The text is no formula. -/
  | parse (error : ParseError)
  /-- A stage met the weighted form of a connective. -/
  | weighted (stage : Stage) (connective : Connective)
  /-- Attributes overlap, but no literal is on one of them. -/
  | noSplitLiteral (overlapping : List String)
  deriving DecidableEq, Repr

namespace QueryError

/-- The class of an error. -/
def kind : QueryError → String
  | .parse e => e.kind
  | .weighted .. => "unsupported node"
  | .noSplitLiteral _ => "internal error"

/-- The text of an error. -/
def message : QueryError → String
  | .parse e => e.message
  | .weighted stage connective =>
    stage.name ++ " does not accept " ++ connective.callName ++ " nodes (expand weights first)"
  | .noSplitLiteral overlapping =>
    "internal invariant violated: overlapping attributes \x7b" ++
      ", ".intercalate (overlapping.map Text.quote) ++ "\x7d but no literal to split on"

end QueryError

end GradedQuery
