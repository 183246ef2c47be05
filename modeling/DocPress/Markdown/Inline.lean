import DocPress.Markdown.Inline.Basic

namespace DocPress.Markdown.Inline

def remember (pos next : Nat) : StateM Memory Unit :=
  modify fun m => { m with ends := m.ends.setIfInBounds pos next }

mutual

/-- The element at a position; none where a character stands for itself. -/
def recognize (s : Source) : Nat → Nat → Nat → Nat → StateM Memory (Option (Found × Nat))
  | 0, _, _, _ => pure none
  | fuel + 1, level, pos, last =>
    match s.chars[pos]? with
    | none => pure none
    | some c =>
      if !isSpecial c then pure (plainAt s pos last)
      else if c = '\n' then pure (some (newlineAt s pos last))
      else if c = '\\' then pure (escapeAt s pos last)
      else if c = backtick then some <$> codeAt s pos last
      else if c = tilde then pure (strikethroughAt s pos last)
      else if c = '*' ∨ c = '_' then pure (some (emphasisAt s c pos last))
      else if c = '[' then linkAt s fuel level pos last
      else if c = '!' then imageAt s fuel level pos last
      else if c = '<' then pure (autolinkAt s pos last <|> htmlAt s pos last)
      else if c = '&' then pure (entityAt s pos last)
      else pure none

/-- The end of the element at `pos`. Markers are passed over one by one. -/
def skip (s : Source) : Nat → Nat → Nat → Nat → StateM Memory Nat
  | 0, _, pos, _ => pure (pos + 1)
  | fuel + 1, level, pos, last => do
    let known := (← get).ends.getD pos 0
    if known ≠ 0 then return known
    let next ←
      if level < maxNesting then
        match ← recognize s fuel (level + 1) pos last with
        | some (.markers _, _) => pure (pos + 1)
        | some (_, next) => pure next
        | none => pure (pos + 1)
      else pure (last + 1)
    remember pos next
    return next

/-- The position of the square bracket that closes the one before `pos`, with `depth` more to close
before. A text that `isLink` must not hold another link. -/
def labelEnd? (s : Source) (isLink : Bool) :
    Nat → Nat → Nat → Nat → Nat → StateM Memory (Option Nat)
  | 0, _, _, _, _ => pure none
  | fuel + 1, level, depth, pos, last => do
    if pos ≥ last then return none
    let c := s.chars.getD pos default
    if c = ']' ∧ depth = 0 then return some pos
    let depth := if c = ']' then depth - 1 else depth
    let next ← skip s fuel level pos last
    if c = '[' then
      if next = pos + 1 then labelEnd? s isLink fuel level (depth + 1) next last
      else if isLink then return none
      else labelEnd? s isLink fuel level depth next last
    else labelEnd? s isLink fuel level depth next last

/-- The target that the label after a link's text, or the text itself, is defined to have. -/
def definedTarget? (s : Source) : Nat → Nat → Nat → Nat → Nat → Nat →
    StateM Memory (Option (Target × Nat))
  | 0, _, _, _, _, _ => pure none
  | fuel + 1, level, first, close, pos, last => do
    if s.definitions.isEmpty then return none
    let labelEnd ←
      if pos < last && s.is pos '[' then labelEnd? s false fuel level 0 (pos + 1) last
      else pure none
    let (label, next) := match labelEnd with
      | some e => (s.slice (pos + 1) e, e + 1)
      | none => ([], close + 1)
    let label := if label.isEmpty then s.slice first close else label
    return (s.definitions.lookup (normalizeLabel label)).map fun target => (target, next)

def linkAt (s : Source) : Nat → Nat → Nat → Nat → StateM Memory (Option (Found × Nat))
  | 0, _, _, _ => pure none
  | fuel + 1, level, pos, last => do
    let first := pos + 1
    match ← labelEnd? s true fuel level 0 first last with
    | none => return none
    | some close =>
      let link (found : Target × Nat) : Found × Nat := (.link found.1 first close, found.2)
      let next := close + 1
      if next < last && s.is next '(' then
        match readBrackets? (s.slice (next + 1) last) with
        | none => return none
        | some b =>
          let end_ := last - b.rest.length + 1
          if b.isClosed then return some (link (b.target, end_))
          else return (← definedTarget? s fuel level first close end_ last).map link
      else return (← definedTarget? s fuel level first close next last).map link

def imageAt (s : Source) : Nat → Nat → Nat → Nat → StateM Memory (Option (Found × Nat))
  | 0, _, _, _ => pure none
  | fuel + 1, level, pos, last => do
    if pos + 1 ≥ last || !s.is (pos + 1) '[' then return none
    let first := pos + 2
    match ← labelEnd? s false fuel level 0 first last with
    | none => return none
    | some close =>
      let image (found : Target × Nat) : Found × Nat := (.image found.1 first close, found.2)
      let next := close + 1
      if next < last && s.is next '(' then
        match readBrackets? (s.slice (next + 1) last) with
        | none => return none
        | some b =>
          if b.isClosed then return some (image (b.target, last - b.rest.length + 1))
          else return none
      else return (← definedTarget? s fuel level first close next last).map image

end

structure Builder where
  /-- Plain text, the last code point first. -/
  pending : Text := []
  tokens : Array Token := #[]
  delimiters : Array Delimiter := #[]

namespace Builder

def flush (b : Builder) : Builder :=
  if b.pending.isEmpty then b
  else
    { b with
      pending := []
      tokens := b.tokens.push { element := .text, content := b.pending.reverse } }

def push (b : Builder) (t : Token) : Builder :=
  let b := b.flush
  { b with tokens := b.tokens.push t }

/-- Two spaces before a newline make it a hard break. -/
def addNewline (b : Builder) : Builder :=
  let text := b.pending.dropWhile (· = (' ' : CodePoint))
  let spaces := b.pending.length - text.length
  { b with pending := text }.push
    { element := if spaces ≥ 2 then .hardBreak else .softBreak }

def addMarker (run : MarkerRun) (content : Text) (runLength : Nat) (b : Builder) : Builder :=
  let b := b.push { element := .text, content }
  let delimiter : Delimiter :=
    { marker := run.marker, runLength, token := b.tokens.size - 1
      opens := run.opens, closes := run.closes }
  { b with delimiters := b.delimiters.push delimiter }

def addMarkers (b : Builder) (run : MarkerRun) : Builder :=
  if run.marker = tilde then
    let b := if run.length % 2 = 1 then b.push { element := .text, content := [tilde] } else b
    Nat.repeat (addMarker run [tilde, tilde] 0) (run.length / 2) b
  else Nat.repeat (addMarker run [run.marker] run.length) run.length b

def resolve (b : Builder) : Array Token :=
  let b := b.flush
  resolveDelimiters b.delimiters b.tokens

def addLink (url title : Text) (content : Array Token) (b : Builder) : Builder :=
  let title := if title.isEmpty then [] else [(text "title", title)]
  let b := b.push
    { element := .link, place := .opening, attributes := (text "href", url) :: title }
  { b with tokens := b.tokens ++ content }.push { element := .link, place := .closing }

def addImage (target : Target) (content : Text) (children : List Token) (b : Builder) : Builder :=
  let title := if target.title.isEmpty then [] else [(text "title", target.title)]
  b.push
    { element := .image
      attributes := (text "src", target.url) :: (text "alt", []) :: title
      content, children }

end Builder

def setLevels : Nat → List Token → List Token
  | _, [] => []
  | level, t :: rest =>
    match t.place with
    | .opening => { t with level } :: setLevels (level + 1) rest
    | .alone => { t with level } :: setLevels level rest
    | .closing => { t with level := level - 1 } :: setLevels (level - 1) rest

/-- Neighbouring tokens of plain text become one. -/
def joinText (tokens : List Token) : List Token :=
  tokens.foldr (fun t rest =>
    match rest with
    | [] => [t]
    | n :: rest' =>
      if t.element = .text ∧ n.element = .text then
        { n with content := t.content ++ n.content } :: rest'
      else t :: rest) []

def showEscape (t : Token) : Token :=
  if t.element = .escapedText then { t with element := .text } else t

/-- Enough steps to pass over the elements of a text of so many characters, however nested. -/
def skipFuel (size : Nat) : Nat := 40 * (size + 8)

def build : Nat → Source → Nat → Nat → Nat → Builder → StateM Memory Builder
  | 0, _, _, _, _, b => pure b
  | fuel + 1, s, level, pos, last, b => do
    if pos ≥ last then return b
    let found ←
      if level < maxNesting then recognize s (skipFuel s.chars.size) level pos last
      else pure none
    match found with
    | none =>
      build fuel s level (pos + 1) last { b with pending := s.chars.getD pos default :: b.pending }
    | some (found, next) =>
      match found with
      | .plain t => build fuel s level next last { b with pending := t.reverse ++ b.pending }
      | .newline => build fuel s level next last b.addNewline
      | .hardBreak => build fuel s level next last (b.push { element := .hardBreak })
      | .escaped t => build fuel s level next last (b.push { element := .escapedText, content := t })
      | .code t => build fuel s level next last (b.push { element := .code, content := t })
      | .markers run => build fuel s level next last (b.addMarkers run)
      | .html t => build fuel s level next last (b.push { element := .htmlInline, content := t })
      | .autolink url shown =>
        build fuel s level next last (b.addLink url [] #[{ element := .text, content := shown }])
      | .link target first close =>
        let content ← build fuel s (level + 1) first close {}
        build fuel s level next last (b.addLink target.url target.title content.resolve)
      | .image target first close =>
        let content := s.slice first close
        let inner : Source := ⟨content.toArray, s.definitions⟩
        let (children, _) := build fuel inner 0 0 inner.chars.size {} (Memory.fresh inner)
        let children := joinText (setLevels 0 children.resolve.toList)
        build fuel s level next last (b.addImage target content children)

def tokens (definitions : Definitions) (t : Text) : List Token :=
  let s : Source := ⟨t.toArray, definitions⟩
  let (b, _) := build (3 * (s.chars.size + 4)) s 0 0 s.chars.size {} (Memory.fresh s)
  joinText ((joinText (setLevels 0 b.resolve.toList)).map showEscape)

end DocPress.Markdown.Inline
