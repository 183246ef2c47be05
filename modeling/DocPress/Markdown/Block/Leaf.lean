import DocPress.Markdown.Block.Basic
import DocPress.Markdown.RawHtml

namespace DocPress.Markdown.Area

/-- The line after the last line of a block of code; blank lines at the end do not belong to it. -/
def codeEnd (a : Area) : Nat → Nat → Nat → Nat
  | 0, last, _ => last
  | count + 1, last, i =>
    if a.isEmpty i then codeEnd a count last (i + 1)
    else if a.isCode i then codeEnd a count (i + 1) (i + 1)
    else last

def code? (a : Area) (i limit : Nat) : Option Reading :=
  if a.isCode i then
    let next := a.codeEnd (limit - (i + 1)) (i + 1) (i + 1)
    let content := a.text i next (4 + a.indent) false ++ DocPress.text "\n"
    some { tokens := [{ a.token .codeBlock i next with content }], next }
  else none

structure FenceOpening where
  marker : CodePoint
  length : Nat
  info : Text

def fenceOpening? (a : Area) (i : Nat) : Option FenceOpening :=
  if a.isCode i then none
  else
    match a.content i with
    | [] => none
    | marker :: rest =>
      if marker = '~' ∨ marker = '\x60' then
        let length := 1 + (rest.takeWhile (· = marker)).length
        let info := rest.dropWhile (· = marker)
        if length < 3 ∨ (marker = '\x60' ∧ marker ∈ info) then none
        else some { marker, length, info }
      else none

def closesFence (a : Area) (o : FenceOpening) (i : Nat) : Bool :=
  let row := (a.content i).takeWhile (· = o.marker)
  !row.isEmpty && !a.isCode i && row.length ≥ o.length &&
    ((a.content i).drop row.length).all CodePoint.isSpace

/-- The line at which the fence ends, and whether it is a closing one. A fence that is not closed
ends with the block around it. -/
def fenceEnd (a : Area) (o : FenceOpening) : Nat → Nat → Nat × Bool
  | 0, i => (i, false)
  | count + 1, i =>
    if !a.isEmpty i && a.isOutdented i then (i, false)
    else if a.isEmpty i && !(a.line i).ended then (i, false)
    else if a.closesFence o i then (i, true)
    else fenceEnd a o count (i + 1)

def fence? (a : Area) (i limit : Nat) : Option Reading :=
  (a.fenceOpening? i).map fun o =>
    let (last, isClosed) := a.fenceEnd o (limit - (i + 1)) (i + 1)
    let next := if isClosed then last + 1 else last
    let content := a.text (i + 1) last (a.column i).toNat true
    { tokens := [{ a.token .fence i next with content, info := o.info }], next }

def isThematicBreak (a : Area) (i : Nat) : Bool :=
  match a.content i with
  | [] => false
  | marker :: rest =>
    !a.isCode i && (marker == '*' || marker == '-' || marker == '_') &&
      rest.all (fun c => c == marker || c.isSpace) && rest.count marker ≥ 2

def thematicBreak? (a : Area) (i : Nat) : Option Reading :=
  if a.isThematicBreak i then
    some { tokens := [a.token .thematicBreak i (i + 1)], next := i + 1 }
  else none

def headingRank? (a : Area) (i : Nat) : Option Nat :=
  let signs := (a.content i).takeWhile (· = ('#' : CodePoint))
  let rest := (a.content i).drop signs.length
  if a.isCode i || signs.isEmpty || signs.length > 6 || !rest.head?.all CodePoint.isSpace then none
  else some signs.length

def trimSigns (t : Text) : Text :=
  let trimmed := t.reverse.dropWhile CodePoint.isSpace
  let rest := trimmed.dropWhile (· = ('#' : CodePoint))
  match rest with
  | c :: _ => (if c.isSpace then rest else trimmed).reverse
  | [] => trimmed.reverse

def heading? (a : Area) (i : Nat) : Option Reading :=
  (a.headingRank? i).map fun rank =>
    let content := Text.trim (trimSigns ((a.content i).drop rank))
    { tokens := a.textBlock (.heading rank) i (i + 1) (i + 1) [] content, next := i + 1 }

def htmlKind? (a : Area) (i : Nat) : Option RawHtml.BlockKind :=
  if a.isCode i then none
  else
    match a.content i with
    | [] => none
    | c :: rest => if c = '<' then RawHtml.blockKind? (c :: rest) else none

def htmlEnd (a : Area) (kind : RawHtml.BlockKind) : Nat → Nat → Nat
  | 0, i => i
  | count + 1, i =>
    if a.isOutdented i then i
    else if kind.endsAt (a.content i) then if a.isEmpty i then i else i + 1
    else htmlEnd a kind count (i + 1)

def html? (a : Area) (i limit : Nat) : Option Reading :=
  (a.htmlKind? i).map fun kind =>
    let next :=
      if kind.endsAt (a.content i) then i + 1 else a.htmlEnd kind (limit - (i + 1)) (i + 1)
    let content := a.text i next a.indent true
    { tokens := [{ a.token .htmlBlock i next with content }], next }

def beginsQuote (a : Area) (i : Nat) : Bool :=
  !a.isCode i && (a.content i).head?.any (· == ('>' : CodePoint))

end DocPress.Markdown.Area
