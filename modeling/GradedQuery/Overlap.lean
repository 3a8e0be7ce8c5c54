import GradedQuery.Attribute
import GradedQuery.Dnf

/-!
# Overlaps on ordinal attributes

Two terms overlap on an ordinal attribute when they make different claims about it, as
`price__low` and `price__high` do, and yet can hold together: an object that partly fits both
buckets would be counted twice.  A normal form is *overlap-free* when every two of its terms
either exclude each other or differ in at most one literal on each ordinal attribute.

A wider notion decides whether there is anything left to split on: an attribute is *overlapping*
when the whole normal form has two or more literals on it.
-/

namespace GradedQuery

/-- What the normalizer splits on, and how deep. -/
structure SplitOptions where
  /-- The attributes whose buckets must not overlap. -/
  ordinal : OrderedSet String := ∅
  /-- The greatest depth of nested case splits. -/
  maxDepth : Nat := 50
  deriving DecidableEq

namespace Dnf

/-- The literals on an attribute that belong to `t` and not to `u`. -/
def onlyIn (naming : Naming) (attr : String) (t u : Term) : OrderedSet Literal :=
  t.literals.filter fun l => naming l.atom = attr && !u.contains l

/-- The number of literals on an attribute that belong to exactly one of two terms. -/
def differences (naming : Naming) (attr : String) (t u : Term) : Nat :=
  (onlyIn naming attr t u).size + (onlyIn naming attr u t).size

/-- Whether two terms exclude each other or differ in at most one literal on each ordinal
attribute. -/
def separated (opts : SplitOptions) (naming : Naming) (t u : Term) : Bool :=
  t.excludes u || opts.ordinal.toList.all fun attr => differences naming attr t u ≤ 1

/-- Whether every two terms are separated. -/
def isOverlapFree (opts : SplitOptions) (naming : Naming) (d : Dnf) : Bool :=
  decide (d.terms.toList.Pairwise (separated opts naming · ·))

/-- The distinct literals on an attribute. -/
def literalsOn (naming : Naming) (attr : String) (d : Dnf) : OrderedSet Literal :=
  .ofList (d.literals.filter (naming ·.atom = attr))

/-- The ordinal attributes with two or more distinct literals. -/
def overlappingAttributes (opts : SplitOptions) (naming : Naming) (d : Dnf) : OrderedSet String :=
  opts.ordinal.filter fun attr => 2 ≤ (d.literalsOn naming attr).size

end Dnf

end GradedQuery
