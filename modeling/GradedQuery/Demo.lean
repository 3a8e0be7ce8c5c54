import GradedQuery.Config
import GradedQuery.Evaluate

/-!
# The built-in demonstration

Six flats in Berlin with scores for district, amenities, buckets of price, distance and size, and
soft features of their texts.  They are ranked when no dataset is given, and their configuration
counts when there is none.
-/

namespace GradedQuery.Demo

/-- The attributes that are facts.  The weights are among them, so that each is a switch. -/
def facts : List String :=
  ["balcony", "elevator", "furnished", "pets", "kreuzberg", "neukoelln", "charlottenburg",
   "prenzlauerberg", "theta_price", "theta_dist", "theta_text"]

/-- The attributes with ordinal buckets. -/
def proximities : List String := ["price", "dist", "size"]

/-- The attributes that compare texts. -/
def texts : List String := ["quiet", "modern", "sunny", "family"]

/-- The configuration of the demonstration. -/
def config : Config where
  ordinal := proximities
  attributes := .ofList <| facts.map (·, .db) ++ proximities.map (·, .prox) ++ texts.map (·, .text)

/-- The atoms that a flat is scored on, in the order of `flat`. -/
def atoms : List String :=
  ["kreuzberg", "neukoelln", "charlottenburg", "prenzlauerberg",
   "balcony", "elevator", "furnished", "pets",
   "price__low", "price__mid", "price__high",
   "dist__near", "dist__mid", "dist__far",
   "size__small", "size__ok", "size__large",
   "quiet", "modern", "sunny", "family"]

/-- The weights, which all flats share. -/
def weights : List (String × Float) :=
  [("theta_price", 0.8), ("theta_dist", 0.7), ("theta_text", 0.6)]

/-- A flat by its name and its scores. -/
def flat (name : String) (scores : List Float) : ScoredObject Float :=
  ⟨name, .ofList (atoms.zip scores ++ weights)⟩

/-- The flats of the demonstration. -/
def objects : List (ScoredObject Float) :=
  [flat "Apt1-Kreuzberg-Modern"
     [1.0, 0.0, 0.0, 0.0, 1.0, 0.0, 1.0, 0.0, 0.6, 0.8, 0.2, 0.7, 0.6, 0.2, 0.3, 0.7, 0.4,
      0.4, 0.9, 0.6, 0.3],
   flat "Apt2-Neukoelln-Budget"
     [0.0, 1.0, 0.0, 0.0, 0.0, 0.0, 0.0, 1.0, 0.9, 0.5, 0.1, 0.4, 0.7, 0.3, 0.6, 0.5, 0.2,
      0.3, 0.4, 0.5, 0.4],
   flat "Apt3-Charlottenburg-Quiet"
     [0.0, 0.0, 1.0, 0.0, 1.0, 1.0, 0.0, 1.0, 0.2, 0.6, 0.8, 0.6, 0.7, 0.2, 0.2, 0.6, 0.8,
      0.9, 0.5, 0.5, 0.7],
   flat "Apt4-PrenzlauerBerg-Family"
     [0.0, 0.0, 0.0, 1.0, 1.0, 1.0, 1.0, 1.0, 0.3, 0.7, 0.6, 0.8, 0.5, 0.1, 0.1, 0.6, 0.9,
      0.7, 0.7, 0.6, 0.9],
   flat "Apt5-Kreuzberg-Cheap-Far"
     [1.0, 0.0, 0.0, 0.0, 0.0, 0.0, 0.0, 1.0, 1.0, 0.4, 0.0, 0.2, 0.5, 0.7, 0.7, 0.4, 0.1,
      0.4, 0.3, 0.4, 0.2],
   flat "Apt6-Charlottenburg-Lux"
     [0.0, 0.0, 1.0, 0.0, 1.0, 1.0, 1.0, 0.0, 0.0, 0.3, 1.0, 0.7, 0.6, 0.1, 0.0, 0.4, 1.0,
      0.8, 0.9, 0.7, 0.6]]

end GradedQuery.Demo
