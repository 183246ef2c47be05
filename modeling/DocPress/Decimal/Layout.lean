import DocPress.Decimal.Shortest
import DocPress.Text.Basic

namespace DocPress.Decimal

structure Layout where
  /-- The powers of ten of the first digit from which, and up to which, a number is written plainly.
  -/
  plainFrom : Int
  plainBelow : Int
  exponentDigits : Nat

def shownNumber : Layout := ⟨-4, 16, 2⟩

def storedNumber : Layout := { shownNumber with exponentDigits := 1 }

def digitText (ds : List Nat) : Text := ds.map Text.hexDigit

def padLeft (width : Nat) (t : Text) : Text :=
  List.replicate (width - t.length) ('0' : CodePoint) ++ t

/-- All digits around the point; there is at least one on each side of it. -/
def plain (d : Digits) : Text :=
  if d.exponent < 0 then
    text "0." ++ List.replicate (d.exponent.natAbs - 1) ('0' : CodePoint) ++ digitText d.digits
  else
    let whole := d.exponent.toNat + 1
    let all := digitText d.digits ++
      List.replicate (whole + 1 - d.digits.length) ('0' : CodePoint)
    all.take whole ++ text "." ++ all.drop whole

def scientific (n : Layout) (d : Digits) : Text :=
  let all := digitText d.digits
  let fraction := if all.length ≤ 1 then [] else text "." ++ all.drop 1
  let sign := if d.exponent < 0 then text "e-" else text "e+"
  all.take 1 ++ fraction ++ sign ++ padLeft n.exponentDigits (Text.ofNat d.exponent.natAbs)

def Layout.write (n : Layout) (x : Float) : Text :=
  let negative := x.toBits.toNat ≥ 0x8000000000000000
  let sign := if negative then text "-" else []
  if x.isNaN then text "nan"
  else if x.isInf then sign ++ text "inf"
  else
    let b := binaryOf x
    if b.mantissa = 0 then sign ++ text "0.0"
    else
      let d := shortest b
      sign ++ if n.plainFrom ≤ d.exponent ∧ d.exponent < n.plainBelow then plain d else scientific n d

end DocPress.Decimal
