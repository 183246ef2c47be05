import DocPress.Markdown.Link
import DocPress.Markdown.RawHtml
import DocPress.Markdown.Inline.Delimiter

namespace DocPress.Markdown.Inline

structure Source where
  chars : Array CodePoint
  definitions : Definitions

def Source.slice (s : Source) (first last : Nat) : Text := (s.chars.extract first last).toList

def Source.is (s : Source) (pos : Nat) (c : CodePoint) : Bool := s.chars[pos]? == some c

/-- Deeper elements are left as text. -/
def maxNesting : Nat := 20

inductive Found where
  | plain (t : Text)
  | newline
  | hardBreak
  | escaped (t : Text)
  | code (t : Text)
  | markers (run : MarkerRun)
  /-- The text of a link stands from `first` up to `last`. -/
  | link (target : Target) (first last : Nat)
  | image (target : Target) (first last : Nat)
  | autolink (url shown : Text)
  | html (t : Text)

/-- What was seen of the text so far. -/
structure Memory where
  /-- The end of the element at a position; zero where it is not known. -/
  ends : Array Nat
  /-- The last row of backticks seen of each length. -/
  backticks : List (Nat × Nat) := []
  /-- The rows up to the end of the text have been seen. -/
  sawAll : Bool := false

def Memory.fresh (s : Source) : Memory := { ends := Array.replicate (s.chars.size + 1) 0 }

def isSpecial (c : CodePoint) : Bool :=
  c ∈ text "\n!#$%&*+-:<=>@[\\]^_\x60\x7b\x7d~"

/-- The position after the characters from `pos` on that satisfy `p`, up to `last`. -/
def Source.skipWhile (s : Source) (p : CodePoint → Bool) (last : Nat) : Nat → Nat → Nat
  | 0, pos => pos
  | fuel + 1, pos =>
    if pos < last ∧ (s.chars[pos]?).any p then skipWhile s p last fuel (pos + 1) else pos

def Source.after (s : Source) (p : CodePoint → Bool) (pos last : Nat) : Nat :=
  s.skipWhile p last (last - pos) pos

def plainAt (s : Source) (pos last : Nat) : Option (Found × Nat) :=
  let next := s.after (!isSpecial ·) pos last
  if next = pos then none else some (.plain (s.slice pos next), next)

def newlineAt (s : Source) (pos last : Nat) : Found × Nat :=
  (.newline, s.after CodePoint.isSpace (pos + 1) last)

def escapeAt (s : Source) (pos last : Nat) : Option (Found × Nat) :=
  if pos + 1 ≥ last then none
  else
    match s.chars[pos + 1]? with
    | none => none
    | some c =>
      if c = '\n' then some (.hardBreak, s.after CodePoint.isSpace (pos + 2) last)
      else if c.isAsciiPunctuation then some (.escaped [c], pos + 2)
      else some (.escaped ['\\', c], pos + 2)

/-- Newlines become spaces; one space on each side goes if there is more than spaces between. -/
def codeContent (t : Text) : Text :=
  let t : Text := t.map fun (c : CodePoint) => if c = '\n' then ' ' else c
  if t.head? = some (' ' : CodePoint) ∧ t.getLast? = some (' ' : CodePoint) ∧ ¬ t.isBlank then
    (t.drop 1).dropLast
  else t

def backtick : CodePoint := '\x60'

/-- The row of `length` backticks after `pos`, with the rows of other lengths on the way. -/
def closingRow (s : Source) (length last : Nat) (seen : List (Nat × Nat)) :
    Nat → Nat → Option (Nat × Nat) × List (Nat × Nat)
  | 0, _ => (none, seen)
  | fuel + 1, pos =>
    let first := s.after (· ≠ backtick) pos s.chars.size
    if first ≥ s.chars.size then (none, seen)
    else
      let next := max (first + 1) (s.after (· = backtick) first last)
      if next - first = length then (some (first, next), seen)
      else closingRow s length last ((next - first, first) :: seen) fuel next

def codeAt (s : Source) (pos last : Nat) : StateM Memory (Found × Nat) := do
  let next := s.after (· = backtick) pos last
  let length := next - pos
  let failed := (.plain (s.slice pos next), next)
  let m ← get
  if m.sawAll && (m.backticks.lookup length).getD 0 ≤ pos then return failed
  match closingRow s length last m.backticks (s.chars.size + 1) next with
  | (some (first, after), seen) =>
    set { m with backticks := seen }
    return (.code (codeContent (s.slice next first)), after)
  | (none, seen) =>
    set { m with backticks := seen, sawAll := true }
    return failed

def runAt (s : Source) (marker : CodePoint) (splitsWords : Bool) (pos last : Nat) : MarkerRun :=
  let next := s.after (· = marker) pos last
  let before : CodePoint := if pos = 0 then ' ' else s.chars.getD (pos - 1) ' '
  let after : CodePoint := if next < last then s.chars.getD next ' ' else ' '
  .between marker (next - pos) before after splitsWords

def strikethroughAt (s : Source) (pos last : Nat) : Option (Found × Nat) :=
  let run := runAt s tilde true pos last
  if run.length < 2 then none else some (.markers run, pos + run.length)

def emphasisAt (s : Source) (marker : CodePoint) (pos last : Nat) : Found × Nat :=
  let run := runAt s marker (marker == '*') pos last
  (.markers run, pos + run.length)

def absoluteAddress : Text.Pattern :=
  .sequences
    [.point CodePoint.isLetter,
      .sequence (.point isSchemePoint) (.upTo 30 (.point isSchemePoint)), .literal (text ":"),
      .many (.point fun c => c.val > 0x20 && c != '<' && c != '>')]
where
  isSchemePoint (c : CodePoint) : Bool := c.isAlphanumeric || c == '+' || c == '.' || c == '-'

def mailAddress : Text.Pattern :=
  .sequences
    [.sequence (.point isNamePoint) (.many (.point isNamePoint)), .literal (text "@"), domain,
      .many (.sequence (.literal (text ".")) domain)]
where
  isNamePoint (c : CodePoint) : Bool :=
    c.isAlphanumeric || c ∈ text ".!#$%&\x27*+/=?^_\x60\x7b|\x7d~-"
  alphanumeric : Text.Pattern := .point CodePoint.isAlphanumeric
  domain : Text.Pattern :=
    .sequence alphanumeric
      (.optional
        (.sequence (.upTo 61 (.point fun c => c.isAlphanumeric || c == '-')) alphanumeric))

def autolinkAt (s : Source) (pos last : Nat) : Option (Found × Nat) :=
  let next := s.after (fun c => c ≠ '<' ∧ c ≠ '>') (pos + 1) last
  if next < last && s.is next '>' then
    let address := s.slice (pos + 1) next
    let link? (t : Text) :=
      let url := Url.normalize t
      if Url.isSafe url then some (.autolink url (Url.shown address), next + 1) else none
    if absoluteAddress.matchesLine address then link? address
    else if mailAddress.matchesLine address then link? (text "mailto:" ++ address)
    else none
  else none

def htmlAt (s : Source) (pos last : Nat) : Option (Found × Nat) :=
  if pos + 2 ≥ last then none
  else
    let t := s.slice pos s.chars.size
    (RawHtml.afterInline? t).map fun rest =>
      let next := s.chars.size - rest.length
      (.html (s.slice pos next), next)

def entityAt (s : Source) (pos last : Nat) : Option (Found × Nat) :=
  if pos + 1 ≥ last then none
  else
    match readReferenceName? (s.slice (pos + 1) (pos + 35)) with
    | none => none
    | some (name, _) =>
      let next := pos + name.length + 2
      if name.head? = some ('#' : CodePoint) then
        (referenceNumber? 7 6 name).map fun n =>
          (.escaped [if isReferable n then .ofNat n else .replacement], next)
      else (entity? name).map fun t => (.escaped t, next)

structure Brackets where
  target : Target
  /-- What follows the title. -/
  rest : Text

/-- Reads destination and title; none if nothing but blanks is left. -/
def readBrackets? (t : Text) : Option Brackets :=
  let start := t.dropWhile isLineSpacing
  if start.isEmpty then none
  else
    match readDestination? start with
    | none => some ⟨⟨[], []⟩, start⟩
    | some (destination, rest) =>
      let url := Url.normalize destination
      let isSafe := Url.isSafe url
      let url := if isSafe then url else []
      let rest := if isSafe then rest else start
      let next := rest.dropWhile isLineSpacing
      match if next.length < rest.length then readTitle? next else none with
      | some (title, after) => some ⟨⟨url, title⟩, after.dropWhile isLineSpacing⟩
      | none => some ⟨⟨url, []⟩, next⟩

def Brackets.isClosed (b : Brackets) : Bool := b.rest.head? == some (')' : CodePoint)

end DocPress.Markdown.Inline
