import GradedQuery.Yaml.Node
import GradedQuery.Yaml.Scalar

/-!
# Reading YAML documents

In block style the columns tell what belongs together: the entries of a list or a table all start
in one column, and what is part of an entry stands further to the right.  In flow style brackets
tell it.  A scalar, or a collection in brackets, is a key if a colon follows it in the same line;
any node is one behind a question mark.

Not read are directives, tags, anchors and aliases.  The readers call each other along with what
they consume; `fuel` bounds the calls, and `Yaml.read` gives more than a text of its length needs.
-/

namespace GradedQuery.Yaml

/-- What is known about the place of a node. -/
structure Slot where
  /-- The column of the collection around it, and −1 outside of all. -/
  column : Int
  /-- The line of what stands before it. -/
  line : Nat
  /-- Whether a block collection may start in that very line. -/
  inLine : Bool
  /-- Whether a list may start in the column of the collection around it. -/
  flush : Bool

/-- A key must end within so many bytes. -/
def keyLimit : Nat := 1024

/-- Whether the node from `start` up to `after` is a key: its colon stands in the same line. -/
def isKey (flow : Bool) (start after : List Glyph) : Bool :=
  match start, after with
  | s :: _, a :: _ =>
    a.char = ':' && (flow || isolated after) && a.line = s.line && a.offset - s.offset ≤ keyLimit
  | _, _ => false

/-- What stands where no node is written. -/
def nothing : Node := .plain ""

/-- Drops the blank characters behind a node in its line. -/
def dropBlanks (gs : List Glyph) : List Glyph := gs.dropWhile (isBlank ·.char)

/-- Whether the mark of a block scalar stands here. -/
def startsBlock (g : Glyph) : Bool := g.char = '|' || g.char = '>'

/-- Whether the next entry of a collection in a column starts here.  Every entry but the first one
starts its line. -/
def startsEntry (column : Nat) (first : Bool) (g : Glyph) : Bool :=
  g.column = column && (first || g.leads)

mutual

/-- Reads a scalar or a bracketed collection that starts with the first character.  The block
collection around it stands in the given column. -/
def atom (fuel : Nat) (flow : Bool) (column : Int) (gs : List Glyph) :
    Outcome (Node × List Glyph) :=
  match fuel, gs with
  | fuel + 1, g :: rest =>
    let scalar (form : String → Node) (r : Outcome (String × List Glyph)) :
        Outcome (Node × List Glyph) :=
      r.map fun (text, rest) => (form text, rest)
    if atDocumentBound gs then .error .misplaced
    else if g.char = '"' then scalar .quoted (doubleQuoted (.blanks []) [] rest)
    else if g.char = '\'' then scalar .quoted (singleQuoted (.blanks []) [] rest)
    else if g.char = '[' then flowItems fuel column [] rest
    else if g.char = '\x7b' then flowEntries fuel column [] rest
    else if !flow && startsBlock g then
      scalar .quoted (block (g.char = '>') column rest)
    else if startsPlain flow gs then
      scalar .plain (plain flow (column + 1) (.blanks []) [g.char] rest)
    else .error .misplaced
  | _, [] => .error .unclosed
  | 0, _ => .error .nestedTooDeep

/-- Reads a node in brackets, which is left out before one of the marks. -/
def flowNode (fuel : Nat) (column : Int) (marks : List Char) (gs : List Glyph) :
    Outcome (Node × List Glyph) :=
  match fuel with
  | 0 => .error .nestedTooDeep
  | fuel + 1 => do
    let gs ← skipGap true true false gs
    if gs.head?.any (marks.contains ·.char) then return (nothing, gs)
    atom fuel true column gs

/-- Reads the value of an entry in brackets behind its key, if there is one. -/
def flowValue (fuel : Nat) (column : Int) (close : Char) (key : Node) (gs : List Glyph) :
    Outcome ((Node × Option Node) × List Glyph) :=
  match fuel with
  | 0 => .error .nestedTooDeep
  | fuel + 1 => do
    if gs.head?.any (·.char = ':') then
      let (value, rest) ← flowNode fuel column [',', close] (gs.drop 1)
      return ((key, some value), rest)
    else return ((key, some nothing), gs)

/-- Reads a node in brackets with the value behind its colon, if there is one.  A question mark
makes a key of what follows, wherever the colon stands; in a list a question mark without a key
takes the mark behind it along. -/
def flowPair (fuel : Nat) (column : Int) (close : Char) (gs : List Glyph) :
    Outcome ((Node × Option Node) × List Glyph) :=
  match fuel with
  | 0 => .error .nestedTooDeep
  | fuel + 1 => do
    if gs.head?.any (·.char = '?') then
      let marks := [':', ',', close]
      let gs ← skipGap true true false (gs.drop 1)
      if close = ']' && gs.head?.any (marks.contains ·.char) then
        flowValue fuel column close nothing (← skipGap true true false (gs.drop 1))
      else
        let (key, after) ← flowNode fuel column marks gs
        flowValue fuel column close key (← skipGap true true false after)
    else
      let (key, after) ← atom fuel true column gs
      let after := dropBlanks after
      if isKey true gs after then flowValue fuel column close key after
      else return ((key, none), after)

/-- Reads the items of a list in brackets, of which `items` have been read. -/
def flowItems (fuel : Nat) (column : Int) (items : List Node) (gs : List Glyph) :
    Outcome (Node × List Glyph) :=
  match fuel with
  | 0 => .error .nestedTooDeep
  | fuel + 1 => do
    let gs ← skipGap true true false gs
    if gs.head?.any (·.char = ']') then return (.list items.reverse, gs.drop 1)
    let ((node, value?), after) ← flowPair fuel column ']' gs
    let item := match value? with
      | some value => .table [(node, value)]
      | none => node
    match ← skipGap true true false after with
    | [] => throw .unclosed
    | h :: rest =>
      if h.char = ',' then flowItems fuel column (item :: items) rest
      else if h.char = ']' then return (.list (item :: items).reverse, rest)
      else throw .misplaced

/-- Reads the entries of a table in brackets, of which `entries` have been read. -/
def flowEntries (fuel : Nat) (column : Int) (entries : List (Node × Node)) (gs : List Glyph) :
    Outcome (Node × List Glyph) :=
  match fuel with
  | 0 => .error .nestedTooDeep
  | fuel + 1 => do
    let gs ← skipGap true true false gs
    if gs.head?.any (·.char = '\x7d') then return (.table entries.reverse, gs.drop 1)
    let ((key, value?), after) ← flowPair fuel column '\x7d' gs
    let entry := (key, value?.getD nothing)
    match ← skipGap true true false after with
    | [] => throw .unclosed
    | h :: rest =>
      if h.char = ',' then flowEntries fuel column (entry :: entries) rest
      else if h.char = '\x7d' then return (.table (entry :: entries).reverse, rest)
      else throw .misplaced

/-- Reads a node in block style.  There is none if what comes next does not stand to the right of
the collection around it; only the mark of a block scalar may stand in the same column. -/
def blockNode (fuel : Nat) (slot : Slot) (gs : List Glyph) : Outcome (Node × List Glyph) :=
  match fuel with
  | 0 => .error .nestedTooDeep
  | fuel + 1 => do
    let gs ← skipGap false (!slot.inLine) false gs
    match gs with
    | [] => return (nothing, [])
    | g :: _ =>
      let collections := slot.inLine || slot.line < g.line
      if atDocumentBound gs then return (nothing, gs)
      else if startsWithMark '-' gs && collections &&
          (slot.column < g.column || slot.flush && slot.column = g.column) then
        blockItems fuel g.column [] gs
      else if g.column < slot.column || g.column = slot.column && !startsBlock g then
        return (nothing, gs)
      else if startsWithMark '?' gs then
        if collections then blockEntries fuel g.column [] gs else throw .misplaced
      else
        let (node, after) ← atom fuel false slot.column gs
        if isKey false gs (dropBlanks after) then
          if collections then blockEntries fuel g.column [] gs else throw .misplaced
        else return (node, after)

/-- Reads the items of a list in a column, of which `items` have been read. -/
def blockItems (fuel : Nat) (column : Nat) (items : List Node) (gs : List Glyph) :
    Outcome (Node × List Glyph) :=
  match fuel, gs with
  | 0, _ => .error .nestedTooDeep
  | fuel + 1, g :: rest => do
    if startsEntry column items.isEmpty g && startsWithMark '-' gs then
      let (item, after) ← blockNode fuel ⟨column, g.line, true, false⟩ rest
      blockItems fuel column (item :: items) (← skipGap false true false after)
    else return (.list items.reverse, gs)
  | _, [] => .ok (.list items.reverse, [])

/-- Reads an entry of a table behind its key and its colon. -/
def blockValue (fuel : Nat) (slot : Slot) (key : Node) (gs : List Glyph) :
    Outcome ((Node × Node) × List Glyph) :=
  match fuel with
  | 0 => .error .nestedTooDeep
  | fuel + 1 => (blockNode fuel slot gs).map fun (value, rest) => ((key, value), rest)

/-- Reads an entry of a table whose keys start in a column. -/
def blockEntry (fuel : Nat) (column : Nat) (g : Glyph) (rest : List Glyph) :
    Outcome ((Node × Node) × List Glyph) :=
  match fuel with
  | 0 => .error .nestedTooDeep
  | fuel + 1 => do
    if startsWithMark '?' (g :: rest) then
      let (key, after) ← blockNode fuel ⟨column, g.line, true, true⟩ rest
      match ← skipGap false true false after with
      | h :: rest' =>
        if startsEntry column false h && startsWithMark ':' (h :: rest') then
          blockValue fuel ⟨column, h.line, true, true⟩ key rest'
        else return ((key, nothing), h :: rest')
      | [] => return ((key, nothing), [])
    else
      let (key, after) ← atom fuel false column (g :: rest)
      let after := dropBlanks after
      if isKey false (g :: rest) after then
        blockValue fuel ⟨column, g.line, false, true⟩ key (after.drop 1)
      else throw .misplaced

/-- Reads the entries of a table in a column, of which `entries` have been read. -/
def blockEntries (fuel : Nat) (column : Nat) (entries : List (Node × Node)) (gs : List Glyph) :
    Outcome (Node × List Glyph) :=
  match fuel, gs with
  | 0, _ => .error .nestedTooDeep
  | fuel + 1, g :: rest => do
    if startsEntry column entries.isEmpty g && !atDocumentBound gs then
      let (entry, after) ← blockEntry fuel column g rest
      blockEntries fuel column (entry :: entries) (← skipGap false true false after)
    else return (.table entries.reverse, gs)
  | _, [] => .ok (.table entries.reverse, [])

end

/-! ## Documents -/

/-- Whether a character may occur in a document. -/
def isAllowed (c : Char) : Bool :=
  let n := c.toNat
  n = 0x09 || n = 0x0A || n = 0x0D || 0x20 ≤ n && n ≤ 0x7E || n = 0x85 ||
    0xA0 ≤ n && n ≤ 0xFFFD || 0x10000 ≤ n

/-- Collections are nested no deeper than this. -/
def maxDepth : Nat := 128

mutual

/-- How deep collections are nested in a node. -/
def Node.depth : Node → Nat
  | .plain _ | .quoted _ => 0
  | .list items => depthOfItems items + 1
  | .table entries => depthOfEntries entries + 1

/-- How deep collections are nested in the items of a list. -/
def depthOfItems : List Node → Nat
  | [] => 0
  | node :: rest => max node.depth (depthOfItems rest)

/-- How deep collections are nested in the entries of a table. -/
def depthOfEntries : List (Node × Node) → Nat
  | [] => 0
  | (key, value) :: rest => max (max key.depth value.depth) (depthOfEntries rest)

end

/-- Checks that nothing follows a document but marks of its end, of which there are at most
`fuel`. -/
def checkEnd (fuel : Nat) (gs : List Glyph) : Outcome Unit :=
  match fuel with
  | 0 => .error .misplaced
  | fuel + 1 => do
    let behind ← skipGap false true false gs
    if behind.isEmpty then return ()
    else if atMarker '.' behind then checkEnd fuel (behind.drop 3)
    else if atMarker '-' behind then throw .severalDocuments
    else throw .misplaced

/-- Reads the only document of a text. -/
def readNode (text : String) : Outcome Node := do
  if !text.toList.all isAllowed then throw .controlCharacter
  let gs ← skipGap false false false (locate text)
  if atMarker '.' gs then throw .misplaced
  let fuel := 8 * gs.length + 8
  let slot : Slot := ⟨-1, 0, true, false⟩
  let marked : Slot := ⟨-1, gs.head?.elim 0 (·.line), false, false⟩
  let (node, rest) ←
    if atMarker '-' gs then blockNode fuel marked (gs.drop 3) else blockNode fuel slot gs
  checkEnd fuel rest
  if maxDepth < node.depth then throw .nestedTooDeep
  return node

/-- Reads a text as a table of settings.  Without content it is the empty table. -/
def read (text : String) : Outcome Setting := do
  match ← readNode text with
  | .plain "" => return .table []
  | .table entries =>
    match (Node.table entries).toSetting? with
    | some setting => return setting
    | none => throw .keyIsNoScalar
  | _ => throw .noTable

end GradedQuery.Yaml
