/-!
# Paths

Paths are texts whose parts are separated by slashes.  They are kept as they are given, because
they are shown so; only where a part is looked for are empty parts and single points passed over.
-/

namespace GradedQuery.Path

/-- Whether a path starts at the root. -/
def isAbsolute (path : String) : Bool := path.toList.head? = some '/'

/-- The parts of a path that are not empty. -/
def parts (path : String) : List String := (path.splitOn "/").filter (!·.isEmpty)

/-- The parts of a path to walk along.  A slash at the end asks for a directory, which is what a
single point does, too. -/
def steps (path : String) : List String :=
  if path.toList.getLast? = some '/' then parts path ++ ["."] else parts path

/-- The last part of a path that is not a single point. -/
def lastPart? (path : String) : Option String :=
  ((steps path).filter (· ≠ ".")).getLast?

/-- The path of `name` as seen from the directory `base`. -/
def join (base name : String) : String :=
  if isAbsolute name || base.isEmpty then name
  else if base.toList.getLast? = some '/' then base ++ name
  else base ++ "/" ++ name

/-- The path of a list of names from the root on. -/
def ofNames (names : List String) : String := "/" ++ "/".intercalate names

/-- The directory of a list of names, and all directories around it, from the inside out. -/
def around (names : List String) : List (List String) :=
  (List.range (names.length + 1)).reverse.map fun n => names.take n

/-- The directories on the way along a path, each with the parts that lead to it, from the inside
out.  The first one is what the path itself leads to, with all points at its end. -/
def onTheWay (path : String) : List (List String) :=
  ((parts path) :: around ((parts path).filter (· ≠ ".")).dropLast).filter (!·.isEmpty)

end GradedQuery.Path
