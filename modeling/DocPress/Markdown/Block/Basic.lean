import DocPress.Markdown.Link
import DocPress.Markdown.Token

namespace DocPress.Markdown

def tabStop : Nat := 4

def columnAfter (c : CodePoint) (column : Nat) : Nat :=
  if c = '\t' then column + (tabStop - column % tabStop) else column + 1

structure Line where
  text : Text := []
  /-- How many characters of the text are passed over as its margin. -/
  shift : Nat := 0
  /-- The column of the content, counted from where the block begins. Below zero, the line continues
  a paragraph whatever it looks like. -/
  column : Int := 0
  /-- Where the block begins on the line. -/
  offset : Nat := 0
  /-- A newline ends the line. -/
  ended : Bool := true
deriving Inhabited

namespace Line

def content (l : Line) : Text := l.text.drop l.shift

def isEmpty (l : Line) : Bool := l.shift ≥ l.text.length

def ofText (t : Text) (ended : Bool) : Line :=
  let blanks := t.takeWhile CodePoint.isSpace
  { text := t, shift := blanks.length, column := (blanks.foldl (fun n c => columnAfter c n) 0 : Nat)
    ended }

/-- The lines of a text. Blanks after the last newline are no line. -/
def split (t : Text) : List Line :=
  match (Text.splitAt '\n' t).reverse with
  | [] => []
  | tail :: lines =>
    let full := (lines.reverse.map fun l => ofText l true)
    if tail.all CodePoint.isSpace then full else full ++ [ofText tail false]

/-- What is left of a text when so many columns are taken off, as far as they are blank or belong to
the margin of `shift` characters. -/
def cutFrom (offset indent : Nat) : Nat → Nat → Text → Text
  | _, column, [] => List.replicate (column - indent) (' ' : CodePoint)
  | shift, column, c :: rest =>
    if column < indent then
      if c = '\t' then
        cutFrom offset indent (shift - 1)
          (column + (tabStop - (column + offset) % tabStop)) rest
      else if c = ' ' ∨ shift > 0 then cutFrom offset indent (shift - 1) (column + 1) rest
      else c :: rest
    else List.replicate (column - indent) (' ' : CodePoint) ++ c :: rest

/-- The text without its first `indent` columns. A tab that goes beyond them leaves spaces. -/
def cut (l : Line) (indent : Nat) : Text := cutFrom l.offset indent l.shift 0 l.text

/-- The line without its quotation mark, which is the first character of its content. One space
after it goes with it, or one column of a tab. -/
def unquoted (l : Line) : Line :=
  let rest := l.content.drop 1
  let column := l.column + 1
  let at_ (n : Int) : Nat := (n + l.offset).toNat
  let isSpaced := rest.head?.any (· == (' ' : CodePoint))
  let isTabbed := rest.head?.any (· == ('\t' : CodePoint))
  let takesTab := isTabbed && at_ column % tabStop == 3
  let takesOne := isSpaced || takesTab
  let text := if takesOne then rest.drop 1 else rest
  let first := if takesOne then column + 1 else column
  let extra := if isTabbed && !takesTab then 1 else 0
  let blanks := text.takeWhile CodePoint.isSpace
  let last := blanks.foldl (fun (n : Int) (c : CodePoint) =>
    if c = '\t' then n + (tabStop - (at_ n + extra) % tabStop : Nat) else n + 1) first
  { l with
    text, shift := blanks.length, column := last - first
    offset := (column + (if isSpaced || isTabbed then 1 else 0)).toNat }

end Line

/-- Where blocks are read: the lines of the document, and how the blocks around change them. -/
structure Area where
  lines : Array Line
  /-- Paragraphs end before this line. -/
  stop : Nat
  /-- The column at which the block begins. -/
  indent : Nat := 0
  /-- The column at which the list around begins. -/
  listIndent : Option Nat := none
  /-- How many blocks are around. -/
  level : Nat := 0

namespace Area

def inside (a : Area) : Area := { a with level := a.level + 1 }

/-- A line after the last one is empty. -/
def line (a : Area) (i : Nat) : Line := a.lines.getD i {}

def content (a : Area) (i : Nat) : Text := (a.line i).content

def isEmpty (a : Area) (i : Nat) : Bool := (a.line i).isEmpty

def column (a : Area) (i : Nat) : Int := (a.line i).column

def isOutdented (a : Area) (i : Nat) : Bool := a.column i < a.indent

def isCode (a : Area) (i : Nat) : Bool := a.column i - a.indent ≥ 4

/-- The text of the lines from `first` up to `last` without their first columns. -/
def text (a : Area) (first last indent : Nat) (keepNewline : Bool) : Text :=
  (List.range' first (last - first)).flatMap fun i =>
    let l := a.line i
    l.cut indent ++ if (i + 1 < last || keepNewline) && l.ended then DocPress.text "\n" else []

def updated (a : Area) (i : Nat) (l : Line) : Area := { a with lines := a.lines.setIfInBounds i l }

def token (a : Area) (element : Element) (first last : Nat) : Token :=
  { element, lines := some (first, last), level := a.level }

def wrap (a : Area) (element : Element) (first last : Nat) (attributes : List (Text × Text))
    (inner : List Token) : List Token :=
  { a.token element first last with place := .opening, attributes } ::
    (inner ++ [{ element, place := .closing, level := a.level }])

def textBlock (a : Area) (element : Element) (first last textLast : Nat)
    (attributes : List (Text × Text)) (content : Text) : List Token :=
  a.wrap element first last attributes
    [{ element := .inline, lines := some (first, textLast), level := a.level + 1, content }]

/-- The first line from `i` on that is not empty, or the one at which paragraphs end. -/
def skipEmpty (a : Area) (i : Nat) : Nat :=
  i + ((List.range' i (a.stop - i)).takeWhile a.isEmpty).length

end Area

structure Reading where
  tokens : List Token
  definitions : Definitions := []
  next : Nat

end DocPress.Markdown
