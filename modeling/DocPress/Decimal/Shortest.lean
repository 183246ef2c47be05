namespace DocPress.Decimal

structure Binary where
  mantissa : Nat
  exponent : Int

def mantissas : Nat := 0x10000000000000

def exponents : Nat := 0x800

def exponentBias : Int := 1075

def binaryOf (x : Float) : Binary :=
  let bits := x.toBits.toNat
  let fraction : Nat := bits % mantissas
  let field : Nat := bits / mantissas % exponents
  if field = 0 then ⟨fraction, 1 - exponentBias⟩
  else ⟨mantissas + fraction, (field : Int) - exponentBias⟩

structure Digits where
  digits : List Nat
  exponent : Int
deriving DecidableEq

def digitsOf (n : Nat) : List Nat := (Nat.toDigits 10 n).map fun c => c.toNat - 48

def magnitude (b : Binary) : Int :=
  let scaled :=
    if 0 ≤ b.exponent then b.mantissa * Nat.pow 2 b.exponent.toNat * Nat.pow 10 400
    else b.mantissa * Nat.pow 10 400 / Nat.pow 2 b.exponent.natAbs
  ((digitsOf scaled).length : Int) - 1 - 400

/-- A grid of decimals `d · 10^place` beside quarters of a binary unit: `d` is compared with `n`
quarters as `d * perStep` with `n * perQuarter`. -/
structure Grid where
  perStep : Nat
  perQuarter : Nat

def gridAt (b : Binary) (place : Int) : Grid :=
  let quarter := b.exponent - 2
  { perStep := Nat.pow 2 (-quarter).toNat * Nat.pow 10 place.toNat
    perQuarter := Nat.pow 2 quarter.toNat * Nat.pow 10 (-place).toNat }

/-- Whether a decimal of the grid is rounded to the double: it lies no further than half a unit
away, less below a power of two, and the ends belong to even mantissas. -/
def readsBack (b : Binary) (g : Grid) (d : Nat) : Bool :=
  let below := if b.mantissa = mantissas ∧ b.exponent ≠ 1 - exponentBias then 1 else 2
  let low := (4 * b.mantissa - below) * g.perQuarter
  let high := (4 * b.mantissa + 2) * g.perQuarter
  let at_ := d * g.perStep
  if b.mantissa % 2 = 0 then low ≤ at_ && at_ ≤ high else low < at_ && at_ < high

/-- The nearer of the two neighbours of the double on a grid, of those that read back; the even one
of two as near. -/
def nearest? (b : Binary) (g : Grid) : Option Nat :=
  let value := 4 * b.mantissa * g.perQuarter
  let below := value / g.perStep
  let above := below + 1
  let middle := (below + above) * g.perStep
  let belowIsNearer := 2 * value < middle || (2 * value == middle && below % 2 == 0)
  match readsBack b g below, readsBack b g above with
  | true, true => some (if belowIsNearer then below else above)
  | true, false => some below
  | false, true => some above
  | false, false => none

def firstOf (b : Binary) (top : Int) : List Nat → Digits
  | [] => ⟨[], top⟩
  | count :: more =>
    let place := top - count
    match nearest? b (gridAt b place) with
    | some d =>
      let ds := digitsOf d
      ⟨(ds.reverse.dropWhile (· = 0)).reverse, place + ds.length - 1⟩
    | none => firstOf b top more

/-- The digits of a positive double. Seventeen are always enough. -/
def shortest (b : Binary) : Digits := firstOf b (magnitude b) (List.range 17)

end DocPress.Decimal
