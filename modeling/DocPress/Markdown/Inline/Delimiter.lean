import DocPress.Markdown.Token
import DocPress.Text.Blank
import DocPress.Text.Punctuation

namespace DocPress.Markdown

def isMarkupSpace (c : CodePoint) : Bool :=
  (0x09 ≤ c.val && c.val ≤ 0x0D) || c.val == 0x20 || c.val == 0xA0 || c.val == 0x1680 ||
  (0x2000 ≤ c.val && c.val ≤ 0x200A) || c.val == 0x202F || c.val == 0x205F || c.val == 0x3000

/-- A row of equal markers. -/
structure MarkerRun where
  marker : CodePoint
  length : Nat
  opens : Bool
  closes : Bool
deriving DecidableEq

/-- Whether a row of markers may open and close depends on what stands on either side. Markers that
do not split words are taken only at the edges of a word. -/
def MarkerRun.between (marker : CodePoint) (length : Nat) (before after : CodePoint)
    (splitsWords : Bool) : MarkerRun :=
  let isMark (c : CodePoint) := c.isAsciiPunctuation || c.isPunctuation
  let spaceBefore := isMarkupSpace before
  let spaceAfter := isMarkupSpace after
  let leftFlanking := !spaceAfter && (!isMark after || spaceBefore || isMark before)
  let rightFlanking := !spaceBefore && (!isMark before || spaceAfter || isMark after)
  { marker, length
    opens := leftFlanking && (splitsWords || !rightFlanking || isMark before)
    closes := rightFlanking && (splitsWords || !leftFlanking || isMark after) }

/-- One marker, whose token is the one at `token`. -/
structure Delimiter where
  marker : CodePoint
  /-- The length of its row, for the rule of three; zero where the rule does not hold. -/
  runLength : Nat
  token : Nat
  opens : Bool
  closes : Bool
  /-- The delimiter that closes this one. -/
  partner : Option Nat := none
deriving Inhabited

namespace Delimiter

/-- If one of two delimiters may both open and close, their lengths must not add up to a multiple of
three, unless both are such multiples. -/
def oddMatch (opener closer : Delimiter) : Bool :=
  (opener.closes || closer.opens) && (opener.runLength + closer.runLength) % 3 == 0 &&
  (opener.runLength % 3 != 0 || closer.runLength % 3 != 0)

end Delimiter

/-- The search for pairs, from left to right. -/
structure Pairing where
  delimiters : Array Delimiter
  /-- How many delimiters to the left are passed over along with each one. -/
  jumps : Array Nat := #[]
  /-- Where the search for an opener ends, for each kind of closer. -/
  bottoms : List ((CodePoint × Nat) × Nat) := []
  /-- The first delimiter of the row at hand. -/
  header : Nat := 0
  lastToken : Option Nat := none

namespace Pairing

def delimiter (p : Pairing) (i : Nat) : Delimiter := p.delimiters.getD i default

def jump (p : Pairing) (i : Nat) : Nat := p.jumps.getD i 0

/-- The nearest opener for `closer` among the delimiters from `bottom` up to before `above`. -/
def opener? (p : Pairing) (closer : Delimiter) (bottom : Nat) : Nat → Nat → Option Nat
  | 0, _ => none
  | fuel + 1, above =>
    if above ≤ bottom then none
    else
      let i := above - 1
      let o := p.delimiter i
      if o.marker = closer.marker && o.opens && o.partner.isNone && !o.oddMatch closer then some i
      else opener? p closer bottom fuel (i - p.jump i)

def bottomKey (closer : Delimiter) : CodePoint × Nat :=
  (closer.marker, (if closer.opens then 3 else 0) + closer.runLength % 3)

def join (p : Pairing) (opener closer : Nat) : Pairing :=
  let lastJump :=
    if opener > 0 && !(p.delimiter (opener - 1)).opens then p.jump (opener - 1) + 1 else 0
  { p with
    delimiters := (p.delimiters.modify closer fun d => { d with opens := false }).modify opener
      fun d => { d with partner := some closer, closes := false }
    jumps := (p.jumps.modify closer fun _ => closer - opener + lastJump).modify opener
      fun _ => lastJump
    lastToken := none }

def step (p : Pairing) (i : Nat) : Pairing :=
  let closer := p.delimiter i
  let p := { p with jumps := p.jumps.push 0 }
  let sameRun := (p.delimiter p.header).marker = closer.marker &&
    p.lastToken.any (· + 1 == closer.token)
  let p := { p with header := if sameRun then p.header else i, lastToken := some closer.token }
  if !closer.closes then p
  else
    let key := bottomKey closer
    let above := p.header - p.jump p.header
    match p.opener? closer ((p.bottoms.lookup key).getD 0) (i + 1) above with
    | some o => p.join o i
    | none => { p with bottoms := (key, above) :: p.bottoms }

end Pairing

def pairDelimiters (ds : Array Delimiter) : Array Delimiter :=
  ((List.range ds.size).foldl Pairing.step { delimiters := ds }).delimiters

def tilde : CodePoint := '~'

def isLoneTilde (t : Token) : Bool := t.element = .text && t.content == [tilde]

/-- A tilde that is left over in a row stands after the closing tags that follow it. -/
def moveLoneTilde (tokens : Array Token) (i : Nat) : Array Token :=
  let isClose (t : Token) := t.element = .strikethrough && t.place = .closing
  let count := ((tokens.toList.drop (i + 1)).takeWhile isClose).length
  tokens.swapIfInBounds i (i + count)

def strikeTokens (ds : Array Delimiter) (tokens : Array Token) : Array Token :=
  let pairs := ds.toList.filterMap fun d =>
    if d.marker = tilde then d.partner.map fun e => (d.token, (ds.getD e default).token) else none
  let (tokens, lone) := pairs.foldl (fun (tokens, lone) (first, last) =>
    let tokens := (tokens.setIfInBounds first { element := .strikethrough, place := .opening }
      ).setIfInBounds last { element := .strikethrough, place := .closing }
    let isLone := last > 0 && isLoneTilde (tokens.getD (last - 1) default)
    (tokens, if isLone then (last - 1) :: lone else lone)) (tokens, ([] : List Nat))
  lone.foldl moveLoneTilde tokens

/-- The pair at `i` and the one right around it make one pair of strong emphasis. -/
def isStrongPair (ds : Array Delimiter) (i closer : Nat) : Bool :=
  let d := ds.getD i default
  let outer := ds.getD (i - 1) default
  i > 0 && outer.partner == some (closer + 1) && outer.marker = d.marker &&
  outer.token + 1 == d.token &&
  (ds.getD (closer + 1) default).token == (ds.getD closer default).token + 1

def emphasizeTokens (ds : Array Delimiter) : Nat → Array Token → Array Token
  | 0, tokens => tokens
  | i + 1, tokens =>
    let d := ds.getD i default
    match d.partner with
    | none => emphasizeTokens ds i tokens
    | some closer =>
      if d.marker = tilde then emphasizeTokens ds i tokens
      else
        let last := (ds.getD closer default).token
        let isStrong := isStrongPair ds i closer
        let element : Element := if isStrong then .strong else .emphasis
        let tokens := (tokens.setIfInBounds d.token { element, place := .opening }).setIfInBounds
          last { element, place := .closing }
        if isStrong then
          let clear (t : Token) : Token := { t with content := [] }
          let tokens := (tokens.modify (d.token - 1) clear).modify (last + 1) clear
          match i with
          | 0 => tokens
          | i + 1 => emphasizeTokens ds i tokens
        else emphasizeTokens ds i tokens

/-- Turns the text tokens of the markers into the tags they stand for. -/
def resolveDelimiters (ds : Array Delimiter) (tokens : Array Token) : Array Token :=
  let ds := pairDelimiters ds
  emphasizeTokens ds ds.size (strikeTokens ds tokens)

end DocPress.Markdown
