/-!
Binary numbers of 64 bits, kept as sign, mantissa and exponent, and the number a decimal numeral rounds to. JSON has them,
so settings can, and then they are written into messages and texts.

All arithmetic is exact on natural numbers; only `roundDiv` rounds, to the nearest and from a tie to the even one. A
fraction is brought to the exponent at which it has 53 binary digits before the point, or to the least exponent there is,
then rounded once (`Binary64.ofFraction`). A decimal numeral is such a fraction (`Binary64.ofDecimal`), and so is a multiple
(`Binary64.times`).
-/

namespace Typewright.Decimal

/-- A binary number of 64 bits. A finite one is `± mantissa * 2 ^ exponent` with `mantissa < 2 ^ 53`, and with
    `2 ^ 52 ≤ mantissa` unless `exponent = -1074`. -/
inductive Binary64 where
  | nan
  | infinite (negative : Bool)
  | finite (negative : Bool) (mantissa : Nat) (exponent : Int)
  deriving DecidableEq

/-- The quotient to the nearest natural number, a tie to the even one. -/
def roundDiv (n d : Nat) : Nat :=
  if d < 2 * (n % d) || (2 * (n % d) == d && n / d % 2 == 1) then n / d + 1 else n / d

/-- `n / d * 2 ^ (-e)` as a fraction. -/
def scaled (n d : Nat) (e : Int) : Nat × Nat :=
  if 0 ≤ e then (n, d * Nat.pow 2 e.toNat) else (n * Nat.pow 2 (-e).toNat, d)

/-- Gives the exponent, at least -1074, at which `n / d` has 53 binary digits before the point. -/
def binaryExponent (n d : Nat) : Int :=
  let e := max ((n.log2 : Int) - d.log2 - 53) (-1074)
  let f := scaled n d e
  if Nat.pow 2 53 ≤ f.1 / f.2 then e + 1 else e

/-- The binary number nearest to `± n / d`. -/
def Binary64.ofFraction (negative : Bool) (n d : Nat) : Binary64 :=
  if n = 0 then .finite negative 0 (-1074) else
  let e := binaryExponent n d
  let f := scaled n d e
  let m := roundDiv f.1 f.2
  let r : Nat × Int := if m = Nat.pow 2 53 then (Nat.pow 2 52, e + 1) else (m, e)
  if 971 < r.2 then .infinite negative else .finite negative r.1 r.2

/-- The binary number nearest to `± digits * 10 ^ exponent`. Numerals far outside the range are settled by their
    number of digits, so a huge exponent costs nothing. -/
def Binary64.ofDecimal (negative : Bool) (digits : Nat) (exponent : Int) : Binary64 :=
  let magnitude := exponent + (Nat.toDigits 10 digits).length
  if digits = 0 || magnitude < -330 then .finite negative 0 (-1074)
  else if 310 < magnitude then .infinite negative
  else if 0 ≤ exponent then .ofFraction negative (digits * Nat.pow 10 exponent.toNat) 1
  else .ofFraction negative digits (Nat.pow 10 (-exponent).toNat)

def Binary64.times : Binary64 → Int → Binary64
  | .nan, _ => .nan
  | .infinite s, k => if k = 0 then .nan else .infinite (s != decide (k < 0))
  | .finite s m e, k =>
    let f := if 0 ≤ e then (m * k.natAbs * Nat.pow 2 e.toNat, 1) else (m * k.natAbs, Nat.pow 2 (-e).toNat)
    .ofFraction (s != decide (k < 0)) f.1 f.2

def Binary64.isZero : Binary64 → Bool
  | .finite _ m _ => m == 0
  | _ => false

end Typewright.Decimal
