import DocPress.Text.Basic

namespace DocPress.Url.Punycode

def threshold (position bias : Nat) : Nat :=
  max 1 (min 26 (36 * (position + 1) - bias))

def adaptFuel : Nat → Nat → Nat → Nat
  | 0, delta, divisions => divisions + 36 * delta / (delta + 38)
  | fuel + 1, delta, divisions =>
    if delta > 455 then adaptFuel fuel (delta / 35) (divisions + 36)
    else divisions + 36 * delta / (delta + 38)

/-- The bias after a number, for a label of `count` code points. -/
def adapt (delta : Nat) (isFirst : Bool) (count : Nat) : Nat :=
  let delta := if isFirst then delta / 700 else delta / 2
  let delta := delta + delta / count
  adaptFuel (delta + 1) delta 0

def digit (n : Nat) : CodePoint := .ofNat (if n < 26 then 0x61 + n else n + 22)

def digitValue? (c : CodePoint) : Option Nat :=
  if c.isLower then some (c.val - 0x61)
  else if c.isUpper then some (c.val - 0x41)
  else if c.isDigit then some (c.val - 22)
  else none

/-- A number in digits whose base changes with the position and the bias. -/
def encodeNumber (bias : Nat) : Nat → Nat → Nat → Text
  | 0, _, n => [digit n]
  | fuel + 1, position, n =>
    let t := threshold position bias
    if n < t then [digit n]
    else digit (t + (n - t) % (36 - t)) :: encodeNumber bias fuel (position + 1) ((n - t) / (36 - t))

def decodeNumber? (bias : Nat) : Nat → Nat → Nat → Text → Option (Nat × Text)
  | _, _, _, [] => none
  | position, weight, sum, c :: rest =>
    match digitValue? c with
    | none => none
    | some d =>
      let t := threshold position bias
      let sum := sum + d * weight
      if d < t then some (sum, rest)
      else decodeNumber? bias (position + 1) (weight * (36 - t)) sum rest

structure Writer where
  delta : Nat
  bias : Nat
  count : Nat
  isFirst : Bool
  written : Text

/-- One pass over the label for the code point `n`: smaller ones are stepped over, each that is `n`
ends a number. -/
def Writer.pass (label : Text) (n : Nat) (w : Writer) : Writer :=
  label.foldl (fun w c =>
    if c.val < n then { w with delta := w.delta + 1 }
    else if c.val = n then
      { delta := 0
        bias := adapt w.delta w.isFirst (w.count + 1)
        count := w.count + 1
        isFirst := false
        written := w.written ++ encodeNumber w.bias (w.delta + 1) 0 w.delta }
    else w) w

def ascending (ns : List Nat) : List Nat := (ns.mergeSort (· ≤ ·)).eraseDups

def encode (label : Text) : Text :=
  let basic := label.filter (·.val < 0x80)
  let others := ascending ((label.filter (·.val ≥ 0x80)).map (·.val))
  let start : Writer := ⟨0, 72, basic.length, true, []⟩
  let (w, _) := others.foldl (fun (w, previous) n =>
    let w := { w with delta := w.delta + (n - previous) * (w.count + 1) }
    let w := w.pass label n
    ({ w with delta := w.delta + 1 }, n + 1)) (start, 0x80)
  (if basic.isEmpty then [] else basic ++ [('-' : CodePoint)]) ++ w.written

def insertAll : Nat → Nat → Nat → Nat → Bool → Text → Text → Option Text
  | 0, _, _, _, _, label, _ => some label
  | _ + 1, _, _, _, _, label, [] => some label
  | fuel + 1, point, place, bias, isFirst, label, t =>
    match decodeNumber? bias 0 1 0 t with
    | none => none
    | some (delta, rest) =>
      let count := label.length + 1
      let place := place + delta
      let point := point + place / count
      match CodePoint.ofNat? point with
      | none => none
      | some c =>
        let place := place % count
        insertAll fuel point (place + 1) (adapt delta isFirst count) false
          (label.take place ++ c :: label.drop place) rest

/-- The label that a text stands for; its ASCII part ends at the last hyphen. -/
def decode? (t : Text) : Option Text :=
  if t.any (·.val ≥ 0x80) then none
  else
    let tail := (t.reverse.takeWhile (· ≠ ('-' : CodePoint))).reverse
    let basic := if tail.length = t.length then [] else t.take (t.length - tail.length - 1)
    insertAll t.length 0x80 0 72 true basic tail

end DocPress.Url.Punycode
