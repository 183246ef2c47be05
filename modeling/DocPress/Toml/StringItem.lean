import DocPress.Text.Blank
import DocPress.Toml.Basic

namespace DocPress.Toml

def backslash : CodePoint := '\\'

def escapes : List (CodePoint × CodePoint) :=
  [('0', '\x00'), ('b', '\x08'), ('f', '\x0c'), ('n', '\n'), ('r', '\r'), ('t', '\t'),
    (Text.doubleQuote, Text.doubleQuote)]

def endsInOddBackslashes (t : Text) : Bool := (t.reverse.takeWhile (· = backslash)).length % 2 == 1

/-- Without what its first and last `n` code points are. -/
def inner (n : Nat) (t : Text) : Text := (t.drop n).take (t.length - 2 * n)

/-- How far the pieces between quotes show a string to be closed. -/
structure Closing where
  closed : Bool
  quotes : Nat

def closeStep (triple : Bool) (s : Closing) (piece : Text) : Except Fault Closing :=
  if piece = [] then
    .ok (if triple then { s with quotes := s.quotes + 1 } else { s with closed := true })
  else if endsInOddBackslashes piece then .ok s
  else if s.closed then .error .malformed
  else .ok (if !triple || 1 < s.quotes then { s with closed := true } else { s with quotes := 0 })

def checkClosing (quote : CodePoint) (t : Text) : Except Fault Unit :=
  match Text.splitAt quote (t.drop 1) with
  | [] :: [] :: pieces => discard (pieces.foldlM (closeStep true) ⟨false, 0⟩)
  | pieces => discard (pieces.foldlM (closeStep false) ⟨false, 0⟩)

/-- Every backslash has to begin an escape; `afterBackslash` is set behind two of them. -/
def checkEscapes : Bool → List Text → Except Fault Unit
  | _, [] => .ok ()
  | afterBackslash, [] :: rest => checkEscapes (!afterBackslash) rest
  | afterBackslash, (c :: _) :: rest =>
    if (escapes.lookup c).isNone ∧ c ≠ 'u' ∧ c ≠ 'U' ∧ !afterBackslash then .error .malformed
    else checkEscapes false rest

def stripHex (t : Text) : Text :=
  let lowerHex (c : CodePoint) : Bool := c.isHexDigit && !c.isUpper
  ((t.dropWhile lowerHex).reverse.dropWhile lowerHex).reverse

def escapedPoint (digits : Text) : Except Fault CodePoint :=
  if stripHex digits ≠ [] then .error .malformed
  else
    match digits with
    | [] => .error .noMember
    | d :: rest =>
      if d = 'd' ∧ rest = [] then .error .noMember
      else if d = 'd' ∧ !(rest.head?.any (· ∈ text "01234567")) then .error .malformed
      else
        let n := Text.digitsValue 16 digits
        if 0x80000000 ≤ n then .error .tooLarge
        else match CodePoint.ofNat? n with
          | some c => .ok c
          | none => .error .malformed

/-- Puts the code points of numeric escapes, which begin each piece, after what is done already. A
marker behind a backslash is no escape. -/
def numericEscapes (marker : Text) (width : Nat) : Text → Bool → List Text → Except Fault Text
  | done, _, [] => .ok done
  | done, true, piece :: rest =>
    numericEscapes marker width (done ++ marker ++ piece) (endsInOddBackslashes piece) rest
  | done, false, piece :: rest => do
    let digits := (piece.take width).map CodePoint.toLower
    let c ← escapedPoint digits
    numericEscapes marker width (done ++ [c] ++ piece.drop digits.length) false rest

def replaceNumeric (marker : Text) (width : Nat) (t : Text) : Except Fault Text :=
  match Text.pieces marker t with
  | first :: second :: rest =>
    numericEscapes marker width first (endsInOddBackslashes first) (second :: rest)
  | _ => .ok t

/-- Replaces the short escapes. The letters of numeric ones are passed over. -/
def unescape : Text → Except Fault Text
  | [] => .ok []
  | c :: rest =>
    if c ≠ backslash then (unescape rest).map (c :: ·)
    else
      match rest with
      | [] => .ok [c]
      | d :: rest' =>
        match escapes.lookup d with
        | some e => (unescape rest').map (e :: ·)
        | none =>
          if d = backslash then (unescape rest').map (backslash :: ·)
          else if d = 'u' ∨ d = 'U' then (unescape rest').map (c :: d :: ·)
          else .error .malformed

def stringItem (quote : CodePoint) (t : Text) : Except Fault Text := do
  checkClosing quote t
  let t ← if quote = Text.doubleQuote then do
      checkEscapes false ((Text.splitAt backslash t).drop 1)
      let t ← replaceNumeric (text "\\u") 4 t
      let t ← replaceNumeric (text "\\U") 8 t
      unescape t
    else pure t
  let t := if t[1]? = some quote ∧ (t.length < 3 ∨ t[2]? = t[1]?) then inner 2 t else t
  return inner 1 t

end DocPress.Toml
