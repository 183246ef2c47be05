import DocPress.Decimal.Layout
import DocPress.Text.Quoted

namespace DocPress.Toml

structure Date where
  year : Nat
  month : Nat
  day : Nat
deriving DecidableEq

structure Clock where
  hour : Nat
  minute : Nat
  second : Nat
  microsecond : Nat
deriving DecidableEq

/-- A point of a calendar, of a clock, or of both, then perhaps so many minutes from the common
clock. -/
inductive Moment where
  | date (date : Date)
  | clock (clock : Clock)
  | both (date : Date) (clock : Clock) (offset : Option Int)
deriving DecidableEq

def twoDigits (n : Nat) : Text := Decimal.padLeft 2 (Text.ofNat n)

def Date.write (d : Date) : Text :=
  Decimal.padLeft 4 (Text.ofNat d.year) ++ text "-" ++ twoDigits d.month ++ text "-" ++ twoDigits d.day

/-- Microseconds are left out when there are none. -/
def Clock.write (c : Clock) : Text :=
  twoDigits c.hour ++ text ":" ++ twoDigits c.minute ++ text ":" ++ twoDigits c.second ++
    if c.microsecond = 0 then [] else text "." ++ Decimal.padLeft 6 (Text.ofNat c.microsecond)

def writeOffset (minutes : Int) : Text :=
  (if minutes < 0 then text "-" else text "+") ++ twoDigits (minutes.natAbs / 60) ++ text ":" ++
    twoDigits (minutes.natAbs % 60)

def Moment.write (separator : Text) : Moment → Text
  | date d => d.write
  | clock c => c.write
  | both d c offset => d.write ++ separator ++ c.write ++ (offset.map writeOffset).getD []

inductive Value where
  | bool (b : Bool)
  | int (i : Int)
  | real (x : Float)
  | string (t : Text)
  | moment (m : Moment)
  | array (items : List Value)
  | table (members : List (Text × Value))
deriving Inhabited

abbrev Table := List (Text × Value)

/-- What is wrong with a settings file, or with what is to be put into one. All but the first go beyond
the format: a place without a member, a value that has none, a number that is too large. -/
inductive Fault where
  | malformed
  | noMember
  | wrongType
  | tooLarge
deriving DecidableEq

namespace Table

def get? (t : Table) (key : Text) : Option Value := List.lookup key t

/-- Puts a value under a key: in its place if the key is there, at the end if not. -/
def put (t : Table) (key : Text) (value : Value) : Table :=
  match t with
  | [] => [(key, value)]
  | (k, v) :: rest => if k = key then (k, value) :: rest else (k, v) :: put rest key value

def without (t : Table) (key : Text) : Table := t.filter fun (k, _) => k ≠ key

def merge (t other : Table) : Table := other.foldl (fun t (k, v) => put t k v) t

end Table

namespace Value

/-- A value counts as empty when it is false, zero or has nothing in it. -/
def isEmpty : Value → Bool
  | bool b => !b
  | int i => i == 0
  | real x => x == 0
  | string t => t.isEmpty
  | moment _ => false
  | array items => items.isEmpty
  | table members => members.isEmpty

def writeBool (b : Bool) : Text := if b then text "True" else text "False"

mutual

def shownInside : Value → Text
  | bool b => writeBool b
  | int i => Text.ofInt i
  | real x => Decimal.shownNumber.write x
  | string t => t.quoted
  | moment m => m.write (text " ")
  | array items => text "[" ++ Text.join (text ", ") (shownItems items) ++ text "]"
  | table members => text "\x7b" ++ Text.join (text ", ") (shownMembers members) ++ text "\x7d"

def shownItems : List Value → List Text
  | [] => []
  | v :: rest => shownInside v :: shownItems rest

def shownMembers : List (Text × Value) → List Text
  | [] => []
  | (k, v) :: rest => (k.quoted ++ text ": " ++ shownInside v) :: shownMembers rest

end

/-- A value as it is shown by itself: a string without quotes. -/
def shown : Value → Text
  | string t => t
  | v => v.shownInside

end Value

end DocPress.Toml
