import DocPress.Markdown.Block.Basic

namespace DocPress.Markdown

/-- The cells of a row. A bar after a backslash is part of its cell. -/
def splitCells (cell : Text) (escaped : Bool) : Text → List Text
  | [] => [cell.reverse]
  | c :: rest =>
    if c = '|' then
      if escaped then splitCells (c :: cell.drop 1) false rest
      else cell.reverse :: splitCells [] false rest
    else splitCells (c :: cell) (c == '\\') rest

def rowCells (line : Text) : List Text :=
  let cells := splitCells [] false line
  let cells := if cells.head? = some [] then cells.drop 1 else cells
  if cells.getLast? = some [] then cells.dropLast else cells

inductive Alignment where
  | unset
  | left
  | center
  | right
deriving DecidableEq

def Alignment.attributes : Alignment → List (Text × Text)
  | unset => []
  | left => [(text "style", text "text-align:left")]
  | center => [(text "style", text "text-align:center")]
  | right => [(text "style", text "text-align:right")]

def alignment? (cell : Text) : Option Alignment :=
  let isColon (c : Option CodePoint) : Bool := c == some (':' : CodePoint)
  let left := isColon cell.head?
  let body := if left then cell.drop 1 else cell
  let right := isColon body.getLast?
  let hyphens := if right then body.dropLast else body
  if hyphens.isEmpty || !hyphens.all (· == ('-' : CodePoint)) then none
  else
    some (match left, right with
      | true, true => .center
      | true, false => .left
      | false, true => .right
      | false, false => .unset)

/-- The alignments in a line. A cell at one of its ends may be blank. -/
def alignments? (line : Text) : Option (List Alignment) :=
  let cells := (Text.splitAt '|' line).map Text.trim
  let inner := if cells.head? = some [] then cells.drop 1 else cells
  let inner := if inner.getLast? = some [] then inner.dropLast else inner
  inner.mapM alignment?

/-- The line is made of bars, hyphens, colons and spaces, and does not look like a list. -/
def isAlignmentLine (line : Text) : Bool :=
  let isMark (c : CodePoint) := c == '|' || c == '-' || c == ':'
  match line with
  | first :: second :: rest =>
    isMark first && (isMark second || (second.isSpace && first != '-')) &&
      rest.all fun c => isMark c || c.isSpace
  | _ => false

structure TableHead where
  alignments : List Alignment
  headings : List Text

/-- No more empty cells than these are filled in. -/
def maxFilledCells : Int := 0x10000

namespace Area

def tableHead? (a : Area) (i limit : Nat) : Option TableHead :=
  let next := i + 1
  if next + 1 > limit || a.isOutdented next || a.isCode next || !isAlignmentLine (a.content next)
  then none
  else
    match alignments? (a.content next) with
    | none => none
    | some alignments =>
      let line := Text.trim (a.content i)
      let headings := rowCells line
      if ('|' : CodePoint) ∉ line ∨ a.isCode i ∨ headings = [] ∨
        headings.length ≠ alignments.length then none
      else some { alignments, headings }

def rowTokens (a : Area) (element : Element) (i : Nat) (alignments : List Alignment)
    (cells : List Text) : List Token :=
  let cell (k : Nat) (alignment : Alignment) : List Token :=
    a.inside.textBlock element i (i + 1) (i + 1) alignment.attributes (Text.trim (cells.getD k []))
  a.wrap .tableRow i (i + 1) []
    ((alignments.zipIdx.flatMap fun (alignment, k) => cell k alignment).map fun t =>
      if t.element = element then { t with lines := none } else t)

/-- The rows from line `i` on, and the line after them. `ends` tells where another block begins. -/
def tableRows (a : Area) (ends : Nat → Bool) (alignments : List Alignment) :
    Nat → Int → Nat → List (List Token) × Nat
  | 0, _, i => ([], i)
  | count + 1, filled, i =>
    let line := Text.trim (a.content i)
    if a.isOutdented i || ends i || line.isEmpty || a.isCode i then ([], i)
    else
      let cells := rowCells line
      let filled := filled + (alignments.length - cells.length : Int)
      if filled > maxFilledCells then ([], i)
      else
        let (rows, next) := tableRows a ends alignments count filled (i + 1)
        (a.rowTokens .cell i alignments cells :: rows, next)

def table? (a : Area) (ends : Nat → Bool) (i limit : Nat) : Option Reading :=
  (a.tableHead? i limit).map fun head =>
    let inner := a.inside
    let part := inner.inside
    let headings := inner.wrap .tableHead i (i + 1) []
      (part.rowTokens .headerCell i head.alignments head.headings)
    let (rows, next) := part.tableRows ends head.alignments (limit - (i + 2)) 0 (i + 2)
    let body := if rows.isEmpty then [] else inner.wrap .tableBody (i + 2) next [] rows.flatten
    { tokens := a.wrap .table i next [] (headings ++ body), next }

end Area

end DocPress.Markdown
