/-
  Writing binary fractions in decimal.

  `Layout` holds every choice of form: where positional notation ends, and how an
  exponent is written.  The digits come from the shortest decimal.
-/

import StaticSite.Decimal.Shortest

namespace StaticSite.Decimal

structure Layout where
  /-- The least and the greatest exponent of the leading digit that is written positionally. -/
  positional : Int × Int
  /-- Whether a whole number is written with `.0`. -/
  pointZero : Bool
  /-- The sign of an exponent that is not negative. -/
  plus : String
  deriving Repr

/-- The significant digits of a decimal, without trailing zeros, and the exponent of the first. -/
def scientific (d : Decimal) : String × Int :=
  let written := Nat.toDigits 10 d.digits
  let kept := (written.reverse.dropWhile (· == '0')).reverse
  (String.ofList kept, d.exponent + (written.length - 1 : Int))

/-- The digits with the decimal point after the given number of them. -/
def pointAfter (layout : Layout) (digits : String) (count : Int) : String :=
  let length : Int := digits.length
  if count ≤ 0 then "0." ++ "".pushn '0' (-count).toNat ++ digits
  else if length ≤ count then
    digits.pushn '0' (count - length).toNat ++ (if layout.pointZero then ".0" else "")
  else String.ofList (digits.toList.take count.toNat) ++ "."
    ++ String.ofList (digits.toList.drop count.toNat)

/-- A positive decimal in the chosen form. -/
def render (layout : Layout) (d : Decimal) : String :=
  let (digits, exponent) := d.scientific
  if layout.positional.1 ≤ exponent && exponent ≤ layout.positional.2 then
    pointAfter layout digits (exponent + 1)
  else
    let mantissa := match digits.toList with
      | [] => "0"
      | [c] => String.singleton c
      | c :: rest => String.ofList (c :: '.' :: rest)
    let sign := if exponent < 0 then "-" else layout.plus
    mantissa ++ "e" ++ sign ++ toString exponent.natAbs

/-- A finite double in the chosen form. -/
def renderFloat (layout : Layout) (f : Float) : String :=
  let bits := f.toBits.toNat
  let sign := if bits ≥ Nat.pow 2 63 then "-" else ""
  let biased := bits / Nat.pow 2 52 % Nat.pow 2 11
  let fraction := bits % Nat.pow 2 52
  if biased == 0 && fraction == 0 then sign ++ pointAfter layout "0" 1
  else
    let m := if biased == 0 then fraction else fraction + Nat.pow 2 52
    let q : Int := (max biased 1 : Nat) - 1075
    sign ++ (shortest m q (fraction == 0 && biased > 1)).render layout

end StaticSite.Decimal
