import DocPress.Text.Emoji

namespace DocPress.Console

def defaultWidth : Nat := 80

def tabWidth : Nat := 8

def beginsTag (c : CodePoint) : Bool := c.isLower || c ∈ text "#/@"

/-- What stands in the tag that a text begins with, and what follows it. -/
def tag? : Text → Option (Text × Text)
  | bracket :: c :: rest =>
    if bracket = '[' ∧ beginsTag c then
      let (inside, rest) := rest.span fun d => d ≠ ('[' : CodePoint) && d ≠ (']' : CodePoint)
      if rest.head? = some (']' : CodePoint) then some (c :: inside, rest.drop 1) else none
    else none
  | _ => none

inductive Piece where
  | plain (t : Text)
  | tag (slashes : Nat) (inside : Text)

def breakAtTag (t : Text) : Option (Text × Piece × Text) :=
  let (slashes, r) := t.span (· = ('\\' : CodePoint))
  match tag? r with
  | some (inside, rest) => some ([], .tag slashes.length inside, rest)
  | none =>
    match t with
    | [] => none
    | c :: r => (breakAtTag r).map fun (before, tag, rest) => (c :: before, tag, rest)

def piecesFuel : Nat → Text → List Piece
  | 0, t => [.plain t]
  | fuel + 1, t =>
    match breakAtTag t with
    | some (before, tag, rest) => .plain before :: tag :: piecesFuel fuel rest
    | none => [.plain t]

def pieces (t : Text) : List Piece := piecesFuel t.length t

/-- Text between tags. A bracket that begins no tag needs no backslash, and loses the one it has. -/
def showPlain (t : Text) : Text := Text.withEmoji (Text.substitute (text "\\[") (text "[") t)

def Piece.shown : Piece → Text
  | plain t => showPlain t
  | tag slashes inside =>
    List.replicate slashes ('\\' : CodePoint) ++ showPlain (text "[" ++ inside ++ text "]")

/-- A single backslash at the end is doubled. -/
def closeEnd (t : Text) : Text :=
  if Text.endsWith t (text "\\") ∧ !Text.endsWith t (text "\\\\") then t ++ text "\\" else t

/-- Bell, backspace, vertical tab, form feed and carriage return. -/
def isDropped (c : CodePoint) : Bool := c.val ∈ [7, 8, 11, 12, 13]

/-- Replaces tabs by blanks up to the next stop; `column` is where the text begins. -/
def expandTabs : Nat → Text → Text
  | _, [] => []
  | column, c :: rest =>
    if c = '\t' then
      let blanks := tabWidth - column % tabWidth
      List.replicate blanks (' ' : CodePoint) ++ expandTabs (column + blanks) rest
    else c :: expandTabs (column + 1) rest

/-- Cuts off blanks at the end of a line, as far as they reach beyond the width. -/
def trimBeyond (width : Nat) (line : Text) : Text :=
  let blanks := line.length - (Text.trimEnd line).length
  line.take (line.length - min blanks (line.length - width))

def layOut (width : Nat) (t : Text) : Text :=
  Text.join (text "\n") ((Text.splitAt '\n' t).map fun line => trimBeyond width (expandTabs 0 line))

def message (width : Nat) (mark t : Text) : Text :=
  let shown := (pieces (closeEnd t)).flatMap Piece.shown
  layOut width (mark ++ text " " ++ shown.filter (!isDropped ·)) ++ text "\n"

def escape : CodePoint := .ofNat 0x1B

def isParameter (c : CodePoint) : Bool := c.isDigit || c == ';' || c == '?'

/-- What follows a sequence that switches styles, after its first sign. -/
def afterSequence? : Text → Option Text
  | bracket :: rest =>
    if bracket = '[' then
      match List.dropWhile isParameter rest with
      | c :: rest => if c.isLetter then some rest else none
      | [] => none
    else none
  | [] => none

def unstyledFuel : Nat → Text → Text
  | 0, t => t
  | _, [] => []
  | fuel + 1, c :: rest =>
    match if c = escape then afterSequence? rest else none with
    | some rest => unstyledFuel fuel rest
    | none => c :: unstyledFuel fuel rest

def unstyled (t : Text) : Text := unstyledFuel t.length t

def styleNames : List (Text × Text) :=
  [(text "b", text "bold"), (text "d", text "dim"), (text "i", text "italic"),
    (text "u", text "underline"), (text "uu", text "underline2"), (text "r", text "reverse"),
    (text "c", text "conceal"), (text "s", text "strike"), (text "o", text "overline")]

def styleName (t : Text) : Text :=
  let name := Text.toLower t.trim
  (styleNames.lookup name).getD name

/-- Takes a tag into account: it opens a style, or closes the last one of its name. A closing tag
that names none closes the last style. -/
def openAfter (styles : List Text) (inside : Text) : Option (List Text) :=
  let name := inside.takeWhile (· ≠ ('=' : CodePoint))
  match Text.after? (text "/") name with
  | none => some (styleName name :: styles)
  | some closed =>
    if closed.trim = [] then (if styles = [] then none else some (styles.drop 1))
    else if styleName closed ∈ styles then some (styles.erase (styleName closed))
    else none

def openAfterPiece (styles : List Text) : Piece → Option (List Text)
  | .plain _ => some styles
  | .tag slashes inside => if slashes % 2 = 0 then openAfter styles inside else some styles

/-- Every closing tag of a label closes a style. -/
def isBalanced (label : Text) : Bool := ((pieces label).foldlM openAfterPiece []).isSome

end DocPress.Console
