import DocPress.Markdown.Block.Leaf

namespace DocPress.Markdown

structure ListMarker where
  /-- The digits of a numbered item. -/
  number : Option Text
  /-- The last character, which all items of a list have in common. -/
  mark : CodePoint
deriving DecidableEq

namespace ListMarker

def width (m : ListMarker) : Nat := (m.number.getD []).length + 1

def element (m : ListMarker) : Element := if m.number.isSome then .orderedList else .bulletList

def value (m : ListMarker) : Nat := Text.digitsValue 10 (m.number.getD [])

/-- A list that does not begin at one says so. -/
def attributes (m : ListMarker) : List (Text × Text) :=
  if m.number.isSome && m.value ≠ 1 then [(text "start", Text.ofNat m.value)] else []

def maxDigits : Nat := 9

/-- A marker is followed by a space or ends the line. -/
def read? (content : Text) : Option ListMarker :=
  let digits := content.takeWhile CodePoint.isDigit
  match content.drop digits.length with
  | [] => none
  | mark :: rest =>
    let isNumbered := !digits.isEmpty && digits.length ≤ maxDigits && (mark == ')' || mark == '.')
    let isBullet := digits.isEmpty && (mark == '*' || mark == '-' || mark == '+')
    if (isNumbered || isBullet) && rest.head?.all CodePoint.isSpace then
      some { number := if isNumbered then some digits else none, mark }
    else none

def isLike (m other : ListMarker) : Bool :=
  m.number.isSome == other.number.isSome && m.mark == other.mark

end ListMarker

namespace Area

/-- The marker of the item that begins at a line. An item that would interrupt a paragraph is not
empty, and its number is one. -/
def listMarker? (a : Area) (inParagraph : Bool) (i : Nat) : Option ListMarker :=
  let l := a.line i
  let isDeep := a.listIndent.any fun n => l.column - n ≥ 4 && l.column < a.indent
  if a.isCode i || isDeep then none
  else
    (ListMarker.read? l.content).filter fun m =>
      let interrupts := inParagraph && !a.isOutdented i
      let isBare := (l.content.drop m.width).all CodePoint.isSpace
      !interrupts || ((m.number.isNone || m.value == 1) && !isBare)

structure ItemStart where
  line : Line
  indent : Nat
  isBare : Bool

def maxMarkerSpace : Nat := 4

/-- The content begins after the blanks behind the marker, or one column behind the marker if there
is nothing but blanks or more than four columns of them. -/
def itemStart (a : Area) (m : ListMarker) (i : Nat) : ItemStart :=
  let l := a.line i
  let rest := l.content.drop m.width
  let blanks := rest.takeWhile CodePoint.isSpace
  let first := (l.column + m.width).toNat
  let last := blanks.foldl (fun (n : Nat) (c : CodePoint) =>
    if c = '\t' then n + (tabStop - (n + l.offset) % tabStop) else n + 1) first
  let isBare := blanks.length == rest.length
  let space := if isBare || last - first > maxMarkerSpace then 1 else last - first
  { line := { l with shift := l.shift + m.width + blanks.length, column := last }
    indent := first + space
    isBare }

def beginsListEnd (a : Area) (i : Nat) : Bool :=
  (a.fenceOpening? i).isSome || a.beginsQuote i || a.isThematicBreak i

end Area

end DocPress.Markdown
