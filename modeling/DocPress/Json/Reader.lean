import DocPress.Json.Basic

namespace DocPress.Json

inductive Complaint where
  | byteOrderMark
  | value
  | name
  | colon
  | comma
  | controlCharacter
  | unterminated
  | badEscape
  | badUnicodeEscape
  | extraData
  /-- An integer has more digits than are converted. -/
  | hugeInteger
deriving DecidableEq

def Complaint.message : Complaint → String
  | byteOrderMark => "Unexpected UTF-8 BOM (decode using utf-8-sig)"
  | value => "Expecting value"
  | name => "Expecting property name enclosed in double quotes"
  | colon => "Expecting ':' delimiter"
  | comma => "Expecting ',' delimiter"
  | controlCharacter => "Invalid control character at"
  | unterminated => "Unterminated string starting at"
  | badEscape => "Invalid \\escape"
  | badUnicodeEscape => "Invalid \\uXXXX escape"
  | extraData => "Extra data"
  | hugeInteger => "Exceeds the limit (4300 digits) for integer string conversion"

structure Fault where
  complaint : Complaint
  left : Nat
deriving DecidableEq

def fail {α : Type} (complaint : Complaint) (rest : Text) : Except Fault α :=
  .error ⟨complaint, rest.length⟩

def isSpacing (c : CodePoint) : Bool := c == ' ' || c == '\t' || c == '\n' || c == '\r'

def skipSpacing (t : Text) : Text := t.dropWhile isSpacing

def readHexQuad? : Text → Option (Nat × Text)
  | a :: b :: c :: d :: e :: rest =>
    if [a, b, c, d].all CodePoint.isHexDigit then
      some (Text.digitsValue 16 [a, b, c, d], e :: rest)
    else none
  | _ => none

def isHighSurrogate (n : Nat) : Bool := 0xD800 ≤ n && n ≤ 0xDBFF

def isLowSurrogate (n : Nat) : Bool := 0xDC00 ≤ n && n ≤ 0xDFFF

/-- The code point of the escape whose `u` begins the text. Two escapes that make a surrogate pair
are one code point; a surrogate without its partner stands for itself. -/
def readUnicodeEscape (t : Text) : Except Fault (CodePoint × Text) :=
  match readHexQuad? (t.drop 1) with
  | none => fail .badUnicodeEscape t
  | some (high, rest) =>
    if isHighSurrogate high && rest.length > 6 && rest.startsWith (text "\\u") then
      match readHexQuad? (rest.drop 2) with
      | none => fail .badUnicodeEscape (rest.drop 1)
      | some (low, rest') =>
        if isLowSurrogate low then
          .ok (.ofNat (0x10000 + (high - 0xD800) * 0x400 + (low - 0xDC00)), rest')
        else .ok (.ofNat high, rest)
    else .ok (.ofNat high, rest)

def simpleEscapes : List (CodePoint × CodePoint) :=
  [('\x22', '\x22'), ('\\', '\\'), ('/', '/'), ('b', '\x08'), ('f', '\x0c'), ('n', '\n'),
    ('r', '\r'), ('t', '\t')]

/-- The rest of a string; `opening` is the text from its opening quote on. -/
def readString (opening : Text) : Nat → Text → Text → Except Fault (Text × Text)
  | 0, _, _ => fail .unterminated opening
  | _ + 1, _, [] => fail .unterminated opening
  | fuel + 1, acc, c :: rest =>
    if c = '\x22' then .ok (acc.reverse, rest)
    else if c = '\\' then
      match rest with
      | [] => fail .unterminated opening
      | e :: rest' =>
        if e = 'u' then
          match readUnicodeEscape (e :: rest') with
          | .error f => .error f
          | .ok (d, rest'') => readString opening fuel (d :: acc) rest''
        else
          match simpleEscapes.lookup e with
          | some d => readString opening fuel (d :: acc) rest'
          | none => fail .badEscape (c :: e :: rest')
    else if c.val < 0x20 then fail .controlCharacter (c :: rest)
    else readString opening fuel (c :: acc) rest

/-- The longest number at the beginning of a text, in its parts. -/
structure Numeral where
  negative : Bool
  whole : Text
  fraction : Text
  /-- Sign and digits. -/
  exponent : Option (Bool × Text)

def readExponent (t : Text) : Option (Bool × Text) × Text :=
  match t with
  | [] => (none, t)
  | e :: r =>
    if e = 'e' ∨ e = 'E' then
      let minus := r.head? == some ('-' : CodePoint)
      let signed := minus || r.head? == some ('+' : CodePoint)
      let (digits, rest) := (if signed then r.drop 1 else r).span CodePoint.isDigit
      if digits.isEmpty then (none, t) else (some (minus, digits), rest)
    else (none, t)

def readNumeral? (t : Text) : Option (Numeral × Text) :=
  let negative := t.head? == some ('-' : CodePoint)
  let body := if negative then t.drop 1 else t
  let whole? : Option (Text × Text) := match body with
    | [] => none
    | c :: r =>
      if c = '0' then some ([c], r)
      else if c.isDigit then some (body.span CodePoint.isDigit)
      else none
  whole?.map fun (whole, rest) =>
    let (fraction, rest) := match rest with
      | [] => ([], rest)
      | c :: r =>
        let (digits, rest') := r.span CodePoint.isDigit
        if c = '.' ∧ digits ≠ [] then (digits, rest') else ([], rest)
    let (exponent, rest) := readExponent rest
    (⟨negative, whole, fraction, exponent⟩, rest)

/-- No more digits than these are converted to an integer. -/
def maxIntegerDigits : Nat := 4300

def toFloat (negative : Bool) (digits : Nat) (exponent : Int) : Float :=
  let magnitude :=
    if digits = 0 then 0
    else if exponent < -2000 - (Nat.log2 digits : Int) then 0
    else if exponent > 2000 then Float.ofScientific 1 false 2000
    else Float.ofScientific digits (exponent < 0) exponent.natAbs
  if negative then -magnitude else magnitude

def Numeral.value? (n : Numeral) : Option Json :=
  if n.fraction.isEmpty && n.exponent.isNone then
    if n.whole.length > maxIntegerDigits then none
    else
      let m : Int := Text.digitsValue 10 n.whole
      some (.int (if n.negative then -m else m))
  else
    let digits := Text.digitsValue 10 (n.whole ++ n.fraction)
    let e : Int := match n.exponent with
      | none => 0
      | some (minus, ds) => if minus then -(Text.digitsValue 10 ds : Int) else Text.digitsValue 10 ds
    some (.real (toFloat n.negative digits (e - n.fraction.length)))

def infinity : Float := 1 / 0

def words : List (Text × Json) :=
  [(text "null", .null), (text "true", .bool true), (text "false", .bool false),
    (text "NaN", .real (0 / 0)), (text "Infinity", .real infinity),
    (text "-Infinity", .real (-infinity))]

def readWord? (t : Text) : Option (Json × Text) :=
  words.findSome? fun (word, value) => (Text.after? word t).map (value, ·)

def readScalar (t : Text) : Except Fault (Json × Text) :=
  match readWord? t with
  | some r => .ok r
  | none =>
    match readNumeral? t with
    | none => fail .value t
    | some (n, rest) =>
      match n.value? with
      | some v => .ok (v, rest)
      | none => fail .hugeInteger t

mutual

def readValue : Nat → Text → Except Fault (Json × Text)
  | 0, t => fail .value t
  | _ + 1, [] => fail .value []
  | fuel + 1, c :: rest =>
    if c = '\x22' then do
      let (s, rest) ← readString (c :: rest) (rest.length + 1) [] rest
      return (.string s, rest)
    else if c = '[' then
      let rest := skipSpacing rest
      match rest with
      | [] => readItems fuel [] rest
      | d :: rest' => if d = ']' then .ok (.array [], rest') else readItems fuel [] rest
    else if c = '{' then
      let rest := skipSpacing rest
      match rest with
      | [] => readMembers fuel [] rest
      | d :: rest' => if d = '}' then .ok (.object [], rest') else readMembers fuel [] rest
    else readScalar (c :: rest)

def readItems : Nat → List Json → Text → Except Fault (Json × Text)
  | 0, _, t => fail .value t
  | fuel + 1, items, t => do
    let (v, rest) ← readValue fuel t
    let items := v :: items
    match skipSpacing rest with
    | [] => fail .comma []
    | c :: rest =>
      if c = ']' then .ok (.array items.reverse, rest)
      else if c = ',' then readItems fuel items (skipSpacing rest)
      else fail .comma (c :: rest)

def readMembers : Nat → List (Text × Json) → Text → Except Fault (Json × Text)
  | 0, _, t => fail .name t
  | _ + 1, _, [] => fail .name []
  | fuel + 1, members, q :: t =>
    if q ≠ '\x22' then fail .name (q :: t)
    else do
      let (key, rest) ← readString (q :: t) (t.length + 1) [] t
      match skipSpacing rest with
      | [] => fail .colon []
      | c :: rest =>
        if c ≠ ':' then fail .colon (c :: rest)
        else do
          let (v, rest) ← readValue fuel (skipSpacing rest)
          let members := put key v members
          match skipSpacing rest with
          | [] => fail .comma []
          | c :: rest =>
            if c = '}' then .ok (.object members, rest)
            else if c = ',' then readMembers fuel members (skipSpacing rest)
            else fail .comma (c :: rest)

end

def byteOrderMark : CodePoint := .ofNat 0xFEFF

/-- The value that a text is; nothing but spacing may stand around it. -/
def read (t : Text) : Except Fault Json :=
  if t.head? = some byteOrderMark then fail .byteOrderMark t
  else do
    let (v, rest) ← readValue (2 * t.length + 2) (skipSpacing t)
    match skipSpacing rest with
    | [] => return v
    | rest => fail .extraData rest

/-- The complaint with the line, the column and the position, the first two counted from one. -/
def Fault.message (f : Fault) (t : Text) : Text :=
  let position := t.length - f.left
  let before := t.take position
  let line := before.count ('\n' : CodePoint) + 1
  let column := (before.reverse.takeWhile (· ≠ ('\n' : CodePoint))).length + 1
  text f.complaint.message ++ text ": line " ++ .ofNat line ++ text " column " ++ .ofNat column ++
    text " (char " ++ .ofNat position ++ text ")"

end DocPress.Json
