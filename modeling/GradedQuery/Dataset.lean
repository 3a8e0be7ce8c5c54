import GradedQuery.Evaluate
import GradedQuery.FileError
import GradedQuery.Text.Blank

/-!
# Datasets

A dataset is a file with one object a line.  Lines end at a line feed, the last one possibly at the
end of the file; each is trimmed, and blank ones are passed over.  A line that is not UTF-8 or does
not decode is an error of its own and does not keep the lines behind it from being read.

The line number of an error counts the lines that are UTF-8.

How an object is written in a line is left open: **reading takes a decoder of lines and writing an
encoder of objects**, and errors carry what these refuse a line or an object for.
-/

namespace GradedQuery

variable {ε : Type}

/-- Why a dataset cannot be read or written. -/
inductive DatasetError (ε : Type) where
  /-- The file cannot be read, or a line of it is not UTF-8. -/
  | file (error : FileError)
  /-- A line does not decode, or the object of a line does not encode. -/
  | line (number : Nat) (source : ε)

namespace DatasetError

/-- What underlies an error. -/
def cause (describe : ε → String) : DatasetError ε → String
  | .file e => e.message
  | .line _ source => describe source

/-- The text of an error. -/
def message (describe : ε → String) : DatasetError ε → String
  | .file e => "I/O error: " ++ e.message
  | .line number source => "JSON error at line " ++ toString number ++ ": " ++ describe source

end DatasetError

namespace Dataset

/-! ## Reading -/

/-- Puts a byte in front of the lines behind it; a line feed ends a line. -/
def addByte (b : UInt8) (lines : List (List UInt8)) : List (List UInt8) :=
  if b = 10 then [] :: lines
  else match lines with
    | [] => [[b]]
    | line :: rest => (b :: line) :: rest

/-- The lines of a file, without their ends. -/
def lines (bytes : List UInt8) : List (List UInt8) := bytes.foldr addByte []

/-- The text of a line, if it is UTF-8. -/
def lineText? (line : List UInt8) : Option String := String.fromUTF8? ⟨line.toArray⟩

/-- The objects and errors of some lines, of which `count` lines in UTF-8 come before. -/
def itemsFrom (decode : String → Except ε (ScoredObject Float)) (count : Nat) :
    List (List UInt8) → List (Except (DatasetError ε) (ScoredObject Float))
  | [] => []
  | line :: rest =>
    match lineText? line with
    | none => .error (.file .invalidUtf8) :: itemsFrom decode count rest
    | some text =>
      let trimmed := Text.trim text
      if trimmed.isEmpty then itemsFrom decode (count + 1) rest
      else (decode trimmed).mapError (.line (count + 1)) :: itemsFrom decode (count + 1) rest

/-- The objects and errors of a file, line by line. -/
def items (decode : String → Except ε (ScoredObject Float)) (bytes : List UInt8) :
    List (Except (DatasetError ε) (ScoredObject Float)) :=
  itemsFrom decode 0 (lines bytes)

/-- All objects of a file, or its first error. -/
def read (decode : String → Except ε (ScoredObject Float)) (bytes : List UInt8) :
    Except (DatasetError ε) (List (ScoredObject Float)) :=
  (items decode bytes).mapM id

/-! ## Writing -/

/-- The lines of some objects, of which `count` come before. -/
def writeFrom (encode : ScoredObject Float → Except ε String) (count : Nat) :
    List (ScoredObject Float) → Except (DatasetError ε) String
  | [] => return ""
  | object :: rest => do
    let text ← (encode object).mapError (.line (count + 1))
    let behind ← writeFrom encode (count + 1) rest
    return text ++ "\n" ++ behind

/-- The text of a file with these objects, or the first error of encoding one. -/
def write (encode : ScoredObject Float → Except ε String) (objects : List (ScoredObject Float)) :
    Except (DatasetError ε) String :=
  writeFrom encode 0 objects

end Dataset

end GradedQuery
