namespace DocPress

structure CodePoint where
  val : Nat
  lt : val < 0x110000
deriving DecidableEq

namespace CodePoint

theorem toNat_lt (c : Char) : c.toNat < 0x110000 := by
  rcases c.valid with h | h
  · exact Nat.lt_trans h (by decide)
  · exact h.2

def ofChar (c : Char) : CodePoint := ⟨c.toNat, toNat_lt c⟩

instance : Coe Char CodePoint := ⟨ofChar⟩

instance : Inhabited CodePoint := ⟨ofChar ' '⟩

def ofNat? (n : Nat) : Option CodePoint :=
  if h : n < 0x110000 then some ⟨n, h⟩ else none

/-- Stands for what cannot be represented. -/
def replacement : CodePoint := ⟨0xFFFD, by decide⟩

def ofNat (n : Nat) : CodePoint := (ofNat? n).getD replacement

def isSurrogate (c : CodePoint) : Bool := 0xD800 ≤ c.val && c.val ≤ 0xDFFF

def isDigit (c : CodePoint) : Bool := 0x30 ≤ c.val && c.val ≤ 0x39

def isUpper (c : CodePoint) : Bool := 0x41 ≤ c.val && c.val ≤ 0x5A

def isLower (c : CodePoint) : Bool := 0x61 ≤ c.val && c.val ≤ 0x7A

def isLetter (c : CodePoint) : Bool := c.isUpper || c.isLower

def isAlphanumeric (c : CodePoint) : Bool := c.isLetter || c.isDigit

/-- Lower case of the ASCII letters; all else stays. -/
def toLower (c : CodePoint) : CodePoint :=
  if c.isUpper then ofNat (c.val + 32) else c

def toUpper (c : CodePoint) : CodePoint :=
  if c.isLower then ofNat (c.val - 32) else c

def hexValue? (c : CodePoint) : Option Nat :=
  if c.isDigit then some (c.val - 0x30)
  else if 0x61 ≤ c.val && c.val ≤ 0x66 then some (c.val - 0x57)
  else if 0x41 ≤ c.val && c.val ≤ 0x46 then some (c.val - 0x37)
  else none

def isHexDigit (c : CodePoint) : Bool := c.hexValue?.isSome

end CodePoint

abbrev Text := List CodePoint

def text (s : String) : Text := s.toList.map CodePoint.ofChar

namespace Text

/-- The text is valid Unicode: it can be written as UTF-8. -/
def isUnicode (t : Text) : Bool := t.all fun c => !c.isSurrogate

def after? : (start t : Text) → Option Text
  | [], t => some t
  | _ :: _, [] => none
  | a :: start, c :: t => if a = c then after? start t else none

/-- What stands before and after the first occurrence of `marker`. -/
def breakOn (marker : Text) : Text → Option (Text × Text)
  | [] => if marker = [] then some ([], []) else none
  | c :: r =>
    match after? marker (c :: r) with
    | some rest => some ([], rest)
    | none => (breakOn marker r).map fun (before, after) => (c :: before, after)

def find? (marker t : Text) : Option Nat := (breakOn marker t).map (·.1.length)

def contains (marker t : Text) : Bool := (breakOn marker t).isSome

/-- The first occurrence of `marker` at or after position `start`. -/
def findFrom? (marker t : Text) (start : Nat) : Option Nat :=
  if start ≤ t.length then (find? marker (t.drop start)).map (· + start) else none

def piecesFuel (marker : Text) : Nat → Text → List Text
  | 0, t => [t]
  | n + 1, t =>
    match breakOn marker t with
    | some (before, after) => before :: piecesFuel marker n after
    | none => [t]

/-- The pieces between the leftmost occurrences of `marker` that do not overlap. -/
def pieces (marker t : Text) : List Text := piecesFuel marker t.length t

/-- Pieces between the single code points `sep`; there is always at least one. -/
def splitAt (sep : CodePoint) : Text → List Text
  | [] => [[]]
  | c :: r =>
    if c = sep then [] :: splitAt sep r
    else match splitAt sep r with
      | p :: ps => (c :: p) :: ps
      | [] => [[c]]

def join (sep : Text) (ps : List Text) : Text := List.intercalate sep ps

/-- Copies the text and puts `value` for each leftmost occurrence of a non-empty `marker`; `skip`
counts the code points of an occurrence that are still to be dropped. -/
def substituteFrom (marker value : Text) : Nat → Text → Text
  | _, [] => []
  | skip + 1, _ :: r => substituteFrom marker value skip r
  | 0, c :: r =>
    if marker ≠ [] ∧ marker.isPrefixOf (c :: r) then
      value ++ substituteFrom marker value (marker.length - 1) r
    else c :: substituteFrom marker value 0 r

def substitute (marker value t : Text) : Text := substituteFrom marker value 0 t

def startsWith (t p : Text) : Bool := p.isPrefixOf t

def endsWith (t s : Text) : Bool := s.isSuffixOf t

def toLower (t : Text) : Text := t.map CodePoint.toLower

/-- The text, with a replacement character for each lone surrogate. -/
def toString (t : Text) : String := String.ofList (t.map fun c => Char.ofNat c.val)

def decimalDigits : Nat → Nat → Text → Text
  | 0, _, acc => acc
  | fuel + 1, n, acc =>
    let acc := CodePoint.ofNat (0x30 + n % 10) :: acc
    if n / 10 = 0 then acc else decimalDigits fuel (n / 10) acc

def ofNat (n : Nat) : Text := decimalDigits (n + 1) n []

def ofInt (i : Int) : Text := if i < 0 then '-' :: ofNat i.natAbs else ofNat i.natAbs

def hexDigit (n : Nat) : CodePoint :=
  if n < 10 then CodePoint.ofNat (0x30 + n) else CodePoint.ofNat (0x57 + n)

def hex : Nat → Nat → Text
  | 0, _ => []
  | width + 1, n => hex width (n / 16) ++ [hexDigit (n % 16)]

def digitsValue (base : Nat) (t : Text) : Nat :=
  t.foldl (fun n c => n * base + (c.hexValue?.getD 0)) 0

def padRight (width : Nat) (t : Text) : Text := t ++ List.replicate (width - t.length) (' ' : CodePoint)

theorem after?_eq_some {start t rest : Text} : after? start t = some rest ↔ t = start ++ rest := by
  induction start generalizing t with
  | nil => simp [after?]
  | cons a start ih =>
    cases t with
    | nil => simp [after?]
    | cons c t =>
      by_cases h : a = c
      · simp [after?, h, ih]
      · simp [after?, h, Ne.symm h]

theorem breakOn_eq_some {marker t before after : Text} (h : breakOn marker t = some (before, after)) :
    t = before ++ marker ++ after := by
  induction t generalizing before after with
  | nil =>
    unfold breakOn at h
    split at h <;> simp_all
  | cons c r ih =>
    unfold breakOn at h
    split at h
    · rename_i rest hd
      simp only [Option.some.injEq, Prod.mk.injEq] at h
      obtain ⟨rfl, rfl⟩ := h
      simpa using after?_eq_some.1 hd
    · cases hb : breakOn marker r with
      | none => simp [hb] at h
      | some p =>
        obtain ⟨b, a⟩ := p
        simp only [hb, Option.map_some, Option.some.injEq, Prod.mk.injEq] at h
        obtain ⟨rfl, rfl⟩ := h
        simpa using ih hb

end Text

end DocPress
