import DocPress.Markdown.Entity
import DocPress.Text.Punctuation

namespace DocPress.Markdown

/-- The number in `#65` or `#x41`, with at most so many decimal or hexadecimal digits. -/
def referenceNumber? (decimals hexes : Nat) (name : Text) : Option Nat :=
  match name with
  | [] => none
  | c :: digits =>
    if c ≠ '#' then none
    else if digits ≠ [] && digits.length ≤ decimals && digits.all CodePoint.isDigit then
      some (Text.digitsValue 10 digits)
    else
      match digits with
      | [] => none
      | x :: hex =>
        if (x = 'x' ∨ x = 'X') ∧ hex ≠ [] ∧ hex.length ≤ hexes ∧ hex.all CodePoint.isHexDigit then
          some (Text.digitsValue 16 hex)
        else none

/-- The name between an ampersand and a semicolon, two to thirty-two code points long, and what
follows the semicolon. -/
def readReferenceName? (t : Text) : Option (Text × Text) :=
  match t with
  | [] => none
  | c :: rest =>
    if c.isLetter || c == '#' then
      let (tail, after) := rest.span CodePoint.isAlphanumeric
      if 1 ≤ tail.length && tail.length ≤ 31 then
        match after with
        | [] => none
        | s :: after => if s = ';' then some (c :: tail, after) else none
      else none
    else none

def expandReference? (name : Text) : Option Text :=
  match entity? name with
  | some t => some t
  | none =>
    match referenceNumber? 8 8 name with
    | some n => if isReferable n then some [.ofNat n] else none
    | none => none

def unescapeFuel : Nat → Text → Text
  | 0, t => t
  | _ + 1, [] => []
  | fuel + 1, c :: rest =>
    if c = '\\' then
      match rest with
      | [] => [c]
      | d :: rest' =>
        if d.isAsciiPunctuation then d :: unescapeFuel fuel rest' else c :: unescapeFuel fuel rest
    else if c = '&' then
      match readReferenceName? rest with
      | none => c :: unescapeFuel fuel rest
      | some (name, after) =>
        match expandReference? name with
        | some t => t ++ unescapeFuel fuel after
        | none => c :: unescapeFuel fuel rest
    else c :: unescapeFuel fuel rest

/-- Resolves backslashes before punctuation, and character references. -/
def unescape (t : Text) : Text := unescapeFuel t.length t

def escapeHtmlPoint (c : CodePoint) : Text :=
  if c = '&' then text "&amp;"
  else if c = '<' then text "&lt;"
  else if c = '>' then text "&gt;"
  else if c = '\x22' then text "&quot;"
  else [c]

def escapeHtml (t : Text) : Text := t.flatMap escapeHtmlPoint

end DocPress.Markdown
