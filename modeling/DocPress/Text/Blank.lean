import DocPress.Text.Basic

namespace DocPress

/-- White space by the Unicode character database, with the four information separators. -/
def CodePoint.isBlank (c : CodePoint) : Bool :=
  (0x09 ≤ c.val && c.val ≤ 0x0D) || (0x1C ≤ c.val && c.val ≤ 0x20) || c.val == 0x85 ||
  c.val == 0xA0 || c.val == 0x1680 || (0x2000 ≤ c.val && c.val ≤ 0x200A) ||
  c.val == 0x2028 || c.val == 0x2029 || c.val == 0x202F || c.val == 0x205F || c.val == 0x3000

def CodePoint.isSpace (c : CodePoint) : Bool := c == ' ' || c == '\t'

namespace Text

def trimStart (t : Text) : Text := t.dropWhile CodePoint.isBlank

def trimEnd (t : Text) : Text := (t.reverse.dropWhile CodePoint.isBlank).reverse

def trim (t : Text) : Text := trimEnd (trimStart t)

def isBlank (t : Text) : Bool := t.all CodePoint.isBlank

/-- The first run of code points that are not blank; none in a blank text. -/
def firstWord? (t : Text) : Option Text :=
  match t.trimStart with
  | [] => none
  | c :: r => some ((c :: r).takeWhile (!·.isBlank))

def collapseBlanks : Text → Text
  | [] => []
  | c :: r =>
    if c.isBlank then
      match r with
      | d :: _ => if d.isBlank then collapseBlanks r else ' ' :: collapseBlanks r
      | [] => [(' ' : CodePoint)]
    else c :: collapseBlanks r

/-- A carriage return, alone or before a newline, becomes one newline. -/
def unifyNewlines : Text → Text
  | [] => []
  | c :: r =>
    if c = '\r' then
      match r with
      | d :: r' => if d = '\n' then '\n' :: unifyNewlines r' else '\n' :: unifyNewlines (d :: r')
      | [] => [('\n' : CodePoint)]
    else c :: unifyNewlines r

end Text

end DocPress
