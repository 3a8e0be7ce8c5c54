import GradedQuery.Dnf.OfFormula
import GradedQuery.Overlap
import GradedQuery.Trace

/-!
# Normalization

Overlaps on ordinal attributes are removed by splitting cases.  The first literal on an
overlapping attribute gives the atom `o`, and a normal form `e` becomes `(o & e₁) | (!o & e₂)`,
where `e₁` are the terms compatible with `o`, without it, and `e₂` those compatible with `!o`.
Both branches are split in turn.  **A split removes its atom from both branches**, so the depth
needed is at most the number of distinct ordinal atoms; a smaller limit cuts the splitting short,
with a warning in the trace.
-/

namespace GradedQuery

namespace Dnf

/-- The first literal, in the order of terms and of literals in them, on one of the attributes. -/
def splitLiteral (naming : Naming) (overlapping : OrderedSet String) (d : Dnf) :
    Except QueryError Literal :=
  match d.literals.find? (naming ·.atom ∈ overlapping) with
  | some literal => .ok literal
  | none => .error (.noSplitLiteral overlapping.toList)

/-- The terms that do not contain the complement of `o`, without `o`. -/
def cofactor (d : Dnf) (o : Literal) : Dnf :=
  ofTerms ((d.terms.toList.filter (!·.contains o.complement)).map (·.without o))

/-- Puts two branches of a split together again. -/
def recombine (o : Literal) (positive negative : Dnf) : Dnf :=
  ((ofLiteral o).and positive).or ((ofLiteral o.complement).and negative)

/-- Splits cases until no attribute overlaps, `depthLeft` levels deep at most. -/
def split (opts : SplitOptions) (naming : Naming) (depthLeft : Nat) (d : Dnf) : Traced Dnf := do
  let overlapping := d.overlappingAttributes opts naming
  if overlapping.isEmpty then return d
  match depthLeft with
  | 0 =>
    .report (.depthExhausted opts.maxDepth d.size)
    return d
  | depthLeft + 1 =>
    let literal ← .ofExcept (d.splitLiteral naming overlapping)
    let o := literal.positiveForm
    .report (.splitting o (opts.maxDepth - (depthLeft + 1)) d.size)
    let positive ← split opts naming depthLeft (d.cofactor o)
    let negative ← split opts naming depthLeft (d.cofactor o.complement)
    return recombine o positive negative

/-- A normal form without overlaps that means the same, or with some left if the depth limit cuts
the splitting short.  One that is overlap-free to begin with is returned as it is. -/
def normalize (opts : SplitOptions) (naming : Naming) (d : Dnf) : Traced Dnf := do
  if d.isOverlapFree opts naming then
    .report (.alreadyOverlapFree d.size)
    return d
  split opts naming opts.maxDepth d

end Dnf

/-- The normalized form of a plain formula. -/
def Formula.normalize (opts : SplitOptions) (naming : Naming) (f : Formula) : Traced Formula := do
  let d ← .ofExcept (Dnf.ofFormulaIn .normalizer f)
  let e ← d.normalize opts naming
  return e.toFormula

end GradedQuery
