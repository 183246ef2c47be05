import DocPress.Text.Utf8
import DocPress.Text.Blank

namespace DocPress.Url

def upperHex (b : UInt8) : Text := (Text.hex 2 b.toNat).map CodePoint.toUpper

def percentByte (b : UInt8) : Text := '%' :: upperHex b

/-- Kept as they are in a link, besides letters and digits. -/
def linkKept : Text := text ";/?:@&=+$,-_.!~*\x27()#"

/-- The characters that `kept` and the alphanumeric class leave out become their bytes; an escape
that is already there stays. A lone surrogate becomes the replacement character. -/
def percentEncode (kept : Text) : Text → Text
  | [] => []
  | c :: rest =>
    if c = '%' && rest.length ≥ 2 && (rest.take 2).all CodePoint.isHexDigit then
      c :: percentEncode kept rest
    else if c.isAlphanumeric || c ∈ kept then c :: percentEncode kept rest
    else
      let d := if c.isSurrogate then .replacement else c
      (Text.Utf8.encodePoint d).flatMap percentByte ++ percentEncode kept rest

/-- Escapes that stay when a link is shown. -/
def shownReserved : Text := text ";/?:@&=+$,#%"

def decodeByte (reserved : Text) (b : UInt8) : Text :=
  let c := CodePoint.ofNat b.toNat
  if c ∈ reserved then percentByte b else [c]

def sequenceLength (b : UInt8) : Nat :=
  if 0xC0 ≤ b && b < 0xE0 then 2
  else if 0xE0 ≤ b && b < 0xF0 then 3
  else if 0xF0 ≤ b && b < 0xF8 then 4
  else 1

/-- Decodes a run of escaped bytes. A byte that begins no sequence becomes a replacement character,
and so does each byte of a sequence of the right form that stands for no code point. -/
def decodeBytes (reserved : Text) : Nat → List UInt8 → Text
  | 0, _ => []
  | _, [] => []
  | fuel + 1, b :: rest =>
    let n := sequenceLength b
    let tail := rest.take (n - 1)
    if b < 0x80 then decodeByte reserved b ++ decodeBytes reserved fuel rest
    else if n ≥ 2 && tail.length == n - 1 && tail.all Text.Utf8.isContinuation then
      let decoded := match Text.Utf8.decode (b :: tail) with
        | .ok t => t
        | .error _ => List.replicate n .replacement
      decoded ++ decodeBytes reserved fuel (rest.drop (n - 1))
    else .replacement :: decodeBytes reserved fuel rest

/-- The bytes of the escapes a text begins with, and what follows them. -/
def readEscapes : Nat → Text → List UInt8 × Text
  | 0, t => ([], t)
  | fuel + 1, t =>
    match t with
    | p :: a :: b :: rest =>
      if p = '%' && a.isHexDigit && b.isHexDigit then
        let (bytes, after) := readEscapes fuel rest
        (UInt8.ofNat (Text.digitsValue 16 [a, b]) :: bytes, after)
      else ([], t)
    | _ => ([], t)

def percentDecodeFuel (reserved : Text) : Nat → Text → Text
  | 0, t => t
  | _, [] => []
  | fuel + 1, c :: rest =>
    let (bytes, after) := readEscapes (rest.length + 1) (c :: rest)
    if bytes.isEmpty then c :: percentDecodeFuel reserved fuel rest
    else decodeBytes reserved bytes.length bytes ++ percentDecodeFuel reserved fuel after

/-- Resolves escapes, but for those of the characters in `reserved`. -/
def percentDecode (reserved t : Text) : Text := percentDecodeFuel reserved t.length t

end DocPress.Url
