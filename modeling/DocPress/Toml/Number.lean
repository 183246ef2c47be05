import DocPress.Json.Reader
import DocPress.Text.Alphanumeric
import DocPress.Text.Blank
import DocPress.Toml.Basic

namespace DocPress.Toml

/-- How a code point counts in a numeral: digits of all scripts are as those of ASCII, and what is
neither digit nor blank beyond ASCII is in no numeral. -/
def plainSign (c : CodePoint) : CodePoint :=
  if c.val < 127 then c
  else if c.isBlank then ' '
  else (c.decimalValue?.map fun d => CodePoint.ofNat (0x30 + d)).getD '?'

def isAround (c : CodePoint) : Bool := c == ' ' || (9 ≤ c.val && c.val ≤ 13)

/-- A numeral without the blanks around it. -/
def numeral (t : Text) : Text :=
  (((t.map plainSign).dropWhile isAround).reverse.dropWhile isAround).reverse

/-- Digits, where an underscore may stand between two of them. -/
def separatedDigits? : Text → Option Text
  | [] => none
  | c :: rest =>
    if !c.isDigit then none
    else
      match rest with
      | [] => some [c]
      | d :: rest' =>
        if d = '_' then (separatedDigits? rest').map (c :: ·)
        else (separatedDigits? (d :: rest')).map (c :: ·)

def splitSign (t : Text) : Bool × Text :=
  match t with
  | c :: rest => if c = '-' then (true, rest) else if c = '+' then (false, rest) else (false, t)
  | [] => (false, t)

def spanNumeral (t : Text) : Text × Text := t.span fun c => c.isDigit || c == '_'

/-- Digits of a part of a number that may be left out. -/
def optionalDigits? (t : Text) : Option Text := if t = [] then some [] else separatedDigits? t

def floatWords : List Text := [text "inf", text "infinity", text "nan"]

/-- The double that a decimal numeral or a word for one of the others stands for. -/
def float? (t : Text) : Option Float := do
  let (negative, body) := splitSign (numeral t)
  if floatWords.contains body.toLower then
    let x := if body.toLower = text "nan" then 0 / 0 else Json.infinity
    return if negative then -x else x
  let (whole, rest) := spanNumeral body
  let (fraction, rest) ← match rest with
    | c :: r => if c = '.' then some (spanNumeral r) else some ([], rest)
    | [] => some ([], [])
  if whole = [] ∧ fraction = [] then none
  let whole ← optionalDigits? whole
  let fraction ← optionalDigits? fraction
  let exponent ← match rest with
    | [] => some (0 : Int)
    | c :: r =>
      if c.toLower = 'e' then do
        let (minus, ds) := splitSign r
        let ds ← separatedDigits? ds
        some (if minus then -(Text.digitsValue 10 ds : Int) else Text.digitsValue 10 ds)
      else none
  return Json.toFloat negative (Text.digitsValue 10 (whole ++ fraction)) (exponent - fraction.length)

def baseOf (c : CodePoint) : Option Nat :=
  if c.toLower = 'x' then some 16 else if c.toLower = 'o' then some 8
  else if c.toLower = 'b' then some 2 else none

def isDigitOf (base : Nat) (c : CodePoint) : Bool := c.hexValue?.any (· < base)

def decimal? (t : Text) : Option Int := do
  let (negative, body) := splitSign (numeral t)
  let ds ← separatedDigits? body
  if Json.maxIntegerDigits < ds.length then none
  let value : Int := Text.digitsValue 10 ds
  return if negative then -value else value

/-- An integer with a sign of its own and perhaps a base; a decimal one has no leading zeros. -/
def int? (t : Text) : Option Int := do
  let (negative, body) := splitSign (numeral t)
  let value : Nat ← match body with
    | [] => none
    | c :: rest =>
      match if c = '0' then rest.head?.bind baseOf else none with
      | some base =>
        let ds := rest.drop 1
        if ds ≠ [] ∧ ds.all (isDigitOf base) then some (Text.digitsValue base ds) else none
      | none =>
        if !body.all CodePoint.isDigit then none
        else if c = '0' ∧ !body.all (· = ('0' : CodePoint)) then none
        else if Json.maxIntegerDigits < body.length then none
        else some (Text.digitsValue 10 body)
  return if negative then -(value : Int) else value

/-- Whether zeros and underscores stand in a number only where they may. -/
def strictNumber (t : Text) : Bool :=
  let isZero (c : Option CodePoint) : Bool := c == some ('0' : CodePoint)
  match t.trim with
  | [] => false
  | c :: rest =>
    let n := c :: rest
    if c = '_' ∨ n.getLast? = some ('_' : CodePoint) then false
    else if Text.contains (text "_.") n ∨ Text.contains (text "._") n then false
    else if rest = [] then true
    else if c = '0' ∧ !(rest.head?.any (· ∈ text ".obx")) then false
    else
      let n' := if c = '+' ∨ c = '-' then rest else n
      if n' ≠ n ∧ 1 < n'.length ∧ isZero n'.head? ∧ n'[1]? ≠ some ('.' : CodePoint) then false
      else !Text.contains (text "__") n'

def decimalAt (t : Text) (start count : Nat) : Option Int := decimal? ((t.drop start).take count)

def isLeap (year : Nat) : Bool := year % 4 == 0 && (year % 100 != 0 || year % 400 == 0)

def daysIn (year month : Nat) : Nat :=
  if month = 2 then (if isLeap year then 29 else 28)
  else if month ∈ [4, 6, 9, 11] then 30 else 31

def Date.isValid (d : Date) : Bool :=
  1 ≤ d.year && 1 ≤ d.month && d.month ≤ 12 && 1 ≤ d.day && d.day ≤ daysIn d.year d.month

def Clock.isValid (c : Clock) : Bool :=
  c.hour < 24 && c.minute < 60 && c.second < 60 && c.microsecond < 1000000

/-- Minutes from the common clock: `Z`, or a sign, hours and minutes. -/
def offset? (t : Text) : Option Int :=
  if t = text "Z" then some 0
  else do
    let total := (← decimalAt t 1 2) * 60 + (← decimalAt t 4 2)
    return if t.head? = some ('-' : CodePoint) then -total else total

def splitOffset (t : Text) : Text × Option Text :=
  if t.getLast?.any (·.toUpper = ('Z' : CodePoint)) then (t.dropLast, some (text "Z"))
  else match Text.breakOn (text "+") t, Text.breakOn (text "-") t with
    | some (fraction, offset), _ => (fraction, some ('+' :: offset))
    | none, some (fraction, offset) => (fraction, some ('-' :: offset))
    | none, none => (t, none)

/-- A fraction of so many digits in microseconds; one of more than six is a double in between. -/
def microseconds (n : Int) (count : Nat) : Except Fault Int :=
  if count ≤ 6 then .ok (n * Nat.pow 10 (6 - count))
  else
    let x := Json.toFloat false n.natAbs 0
    let whole : Nat := (x * Json.toFloat false 1 (6 - (count : Int))).toUInt64.toNat
    if x.isInf then .error .tooLarge else .ok (if n < 0 then -(whole : Int) else whole)

/-- The fraction of a second in microseconds and the offset after it, where both can be read. -/
def fractionAndOffset (t : Text) : Except Fault (Int × Option Int) :=
  let (fraction, offset) := splitOffset t
  match offset.mapM offset?, decimal? fraction with
  | some offset, some n => do return (← microseconds n fraction.length, offset)
  | _, _ => .ok (0, none)

def momentOf? (t : Text) (microsecond : Int) (offset : Option Int) : Option Moment := do
  let number (start count : Nat) : Option Nat := (decimalAt t start count).bind Int.toNat?
  let date : Date := ⟨← number 0 4, ← number 5 2, ← number 8 2⟩
  if !date.isValid then none
  if t.length = 10 then return .date date
  let clock : Clock := ⟨← number 11 2, ← number 14 2, ← number 17 2, ← microsecond.toNat?⟩
  if !clock.isValid then none
  return .both date clock offset

/-- A date, or a date and a time, if a text is one; the fraction of the second is read first. -/
def dateOrBoth (t : Text) : Except Fault (Option Moment) := do
  let (microsecond, offset) ← match t.drop 19 with
    | [] => .ok (0, none)
    | c :: rest => if c = '.' then fractionAndOffset rest else .ok (0, offset? (c :: rest))
  return if ('-' : CodePoint) ∈ t.drop 1 then momentOf? t microsecond offset else none

def clockStart? (t : Text) : Option Clock := do
  let two (start : Nat) : Option Nat :=
    let ds := (t.drop start).take 2
    if ds.length = 2 ∧ ds.all CodePoint.isDigit then some (Text.digitsValue 10 ds) else none
  let colon (at_ : Nat) : Bool := t[at_]? == some (':' : CodePoint)
  if !(colon 2 && colon 5) then none
  let fraction := ((t.drop 9).takeWhile CodePoint.isDigit).take 6
  let microsecond :=
    if t[8]? = some ('.' : CodePoint) ∧ 3 ≤ fraction.length then Text.digitsValue 10 fraction else 0
  return ⟨← two 0, ← two 3, ← two 6, microsecond⟩

end DocPress.Toml
