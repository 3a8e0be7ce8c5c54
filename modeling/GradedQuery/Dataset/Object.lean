import GradedQuery.Dataset
import GradedQuery.Json.Document
import GradedQuery.Json.Skip

/-!
# Scored objects as JSON values

How the lines of a dataset are written: an object with its name and its scores.  It is read from
such an object, where unknown keys are skipped and missing scores are no scores, or from a list of
the name and the scores.
-/

namespace GradedQuery

open Json

namespace ScoredObject

/-- What has been read of an object. -/
structure Draft where
  name : Option String
  scores : Option (Scores Float)

/-- Refuses an object that is not closed yet.  The place of such a refusal lies behind the closing
mark if that is next. -/
def refuseOpen {α : Type} (cause : Cause) : Reader α := do
  if (← nextMark?) = some '\x7d' then Reader.drop 1
  .refuse cause

/-- Reads the scores of an object.  Of two scores for one atom the later one counts. -/
def readScores : Reader (Scores Float) :=
  object "a map" (fun scores atom => do
    colon
    let x ← float
    return OrderedMap.insert scores atom x) ∅

/-- Reads the part of an entry behind its key. -/
def readEntry (draft : Draft) (key : String) : Reader Draft := do
  if key = "name" then
    if draft.name.isSome then refuseOpen (.duplicateField key)
    else
      colon
      let name ← text
      return { draft with name := some name }
  else if key = "scores" then
    if draft.scores.isSome then refuseOpen (.duplicateField key)
    else
      colon
      let scores ← readScores
      return { draft with scores := some scores }
  else
    colon
    skipValue
    return draft

/-- Reads an object behind its opening brace. -/
def readFields : Reader (ScoredObject Float) := do
  let draft ← entries readEntry ⟨none, none⟩
  match draft.name with
  | none => .refuse (.missingField "name")
  | some name => return ⟨name, draft.scores.getD ∅⟩

/-- Reads the end of a list of name and scores. -/
def closeList : Reader Unit := do
  match ← nextMark? with
  | some ']' => Reader.drop 1
  | some ',' => do
    Reader.drop 1
    if (← nextMark?) = some ']' then .refuse .trailingComma 1 else .refuse .trailingCharacters 1
  | some _ => .refuse .trailingCharacters 1
  | none => .refuse .endInList 1

/-- Reads the scores in a list, behind the name, if there are any. -/
def readListedScores : Reader (Scores Float) := do
  match ← nextMark? with
  | some ']' => return ∅
  | some ',' => do
    Reader.drop 1
    match ← nextMark? with
    | some ']' => .refuse .trailingComma 1
    | some _ => readScores
    | none => .refuse .endInValue 1
  | some _ => .refuse .expectedListCommaOrEnd 1
  | none => .refuse .endInList 1

/-- Reads a list of name and scores behind its opening bracket. -/
def readList : Reader (ScoredObject Float) := do
  match ← nextMark? with
  | none => .refuse .endInList 1
  | some ']' => do
    Reader.drop 1
    .refuse (.invalidLength 0 "struct ScoredObject with 2 elements")
  | some _ => do
    let name ← text
    let scores ← readListedScores
    closeList
    return ⟨name, scores⟩

/-- Reads an object in either form. -/
def read : Reader (ScoredObject Float) := do
  match ← nextMark? with
  | some '[' => do
    Reader.drop 1
    readList
  | some '\x7b' => do
    Reader.drop 1
    readFields
  | _ => wrongKind "struct ScoredObject"

/-- The form in which an object is written. -/
def toDocument (object : ScoredObject Float) : Document :=
  .object [("name", .text object.name),
    ("scores", .object (object.scores.toList.map fun (atom, x) => (atom, .number x)))]

/-! ## Lines of a dataset -/

/-- The object of a line. -/
def decode (line : String) : Except Fault (ScoredObject Float) := Json.decode read line.toList

/-- The line of an object.  Every object has one. -/
def encode (object : ScoredObject Float) : Except Fault String := return object.toDocument.compact

end ScoredObject

end GradedQuery
