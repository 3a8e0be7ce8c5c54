import GradedQuery.Json.Document
import GradedQuery.Ranking

/-!
# Rankings as JSON values

A ranking is written as the list of its objects, each with its name and its score.
-/

namespace GradedQuery

open Json

/-- The form in which a ranked object is written. -/
def Ranked.toDocument (r : Ranked Float) : Document :=
  .object [("name", .text r.name), ("score", .number r.score)]

/-- The form in which a ranking is written. -/
def rankingDocument (ranked : List (Ranked Float)) : Document :=
  .list (ranked.map Ranked.toDocument)

end GradedQuery
