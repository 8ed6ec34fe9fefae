import Typewright.Decimal.Binary64

/-!
The shortest decimal that reads back as a given binary number, and its text. A decimal reads back as the number if it lies
between the middles to the two numbers beside it, and on a middle if the mantissa is even (`readsBack`). The number below is
nearer when the mantissa is the least one, so the interval is then not symmetric (`lowerEnd`).

For one, two, … digits the value's two neighbours on that decimal grid are tested; the first grid with a hit wins, of two
hits the nearer one, of a tie the even one (`gridHit`). Seventeen digits always suffice, so the search has a fixed length
(`shortestFrom`).

The text is positional or has an exponent, by the place of the leading digit (`Style.write`).
-/

namespace Typewright.Decimal

/-- How a decimal is written: which exponents of the leading digit are positional, and how long an exponent is. -/
structure Style where
  positionalFrom : Int
  positionalBelow : Int
  exponentWidth : Nat

/-- Positional from 1e-4 up to below 1e16; otherwise an exponent with a sign and at least two digits. -/
def Style.plain : Style := ⟨-4, 16, 2⟩

def fractionLe (a b : Nat × Nat) : Bool := a.1 * b.2 ≤ b.1 * a.2

def fractionLt (a b : Nat × Nat) : Bool := a.1 * b.2 < b.1 * a.2

def powerFraction (b m : Nat) (e : Int) : Nat × Nat :=
  if 0 ≤ e then (m * Nat.pow b e.toNat, 1) else (m, Nat.pow b (-e).toNat)

def lowerEnd (m : Nat) (e : Int) : Nat × Nat :=
  if m = Nat.pow 2 52 && -1074 < e then powerFraction 2 (4 * m - 1) (e - 2) else powerFraction 2 (2 * m - 1) (e - 1)

def upperEnd (m : Nat) (e : Int) : Nat × Nat := powerFraction 2 (2 * m + 1) (e - 1)

/-- The fraction reads back as `m * 2 ^ e`; the ends of the interval do so when `m` is even. -/
def readsBack (m : Nat) (e : Int) (f : Nat × Nat) : Bool :=
  if m % 2 == 0 then fractionLe (lowerEnd m e) f && fractionLe f (upperEnd m e)
  else fractionLt (lowerEnd m e) f && fractionLt f (upperEnd m e)

/-- Looks for the largest `x ≤ start` with `10 ^ x ≤ v`, in at most `fuel` steps down. -/
def leadingExponentFrom (v : Nat × Nat) (start : Int) : Nat → Int
  | 0 => start
  | fuel + 1 => if fractionLe (powerFraction 10 1 start) v then start else leadingExponentFrom v (start - 1) fuel

def leadingExponent (v : Nat × Nat) : Int :=
  leadingExponentFrom v (((v.1.log2 : Int) - v.2.log2) * 30103 / 100000 + 2) 8

/-- The neighbour of `v = m * 2 ^ e` on the grid `10 ^ p` that reads back, if one does. -/
def gridHit (m : Nat) (e : Int) (v : Nat × Nat) (p : Int) : Option Nat :=
  let unit := powerFraction 10 1 p
  let below := v.1 * unit.2 / (v.2 * unit.1)
  let lowHit := below != 0 && readsBack m e (powerFraction 10 below p)
  let highHit := readsBack m e (powerFraction 10 (below + 1) p)
  if lowHit && highHit then
    let twice := (2 * v.1, v.2)
    let middle := powerFraction 10 (2 * below + 1) p
    if fractionLt twice middle then some below
    else if fractionLt middle twice then some (below + 1)
    else if below % 2 == 0 then some below else some (below + 1)
  else if lowHit then some below
  else if highHit then some (below + 1)
  else none

def shortestFrom (m : Nat) (e : Int) (v : Nat × Nat) (p : Int) : Nat → Nat × Int
  | 0 => (m, e)
  | count + 1 =>
    match gridHit m e v p with
    | some n => (n, p)
    | none => shortestFrom m e v (p - 1) count

def dropZeros (n : Nat) (p : Int) : Nat → Nat × Int
  | 0 => (n, p)
  | fuel + 1 => if n % 10 == 0 then dropZeros (n / 10) (p + 1) fuel else (n, p)

/-- Digits `n` and exponent `p` of the shortest decimal `n * 10 ^ p` that reads back as `m * 2 ^ e`, for `m ≠ 0`. -/
def shortest (m : Nat) (e : Int) : Nat × Int :=
  let v := powerFraction 2 m e
  let r := shortestFrom m e v (leadingExponent v) 18
  dropZeros r.1 r.2 20

def padLeft (width : Nat) (c : Char) (s : List Char) : List Char := List.replicate (width - s.length) c ++ s

def Style.write (style : Style) (n : Nat) (p : Int) : List Char :=
  let digits := Nat.toDigits 10 n
  let lead : Int := p + digits.length - 1
  if style.positionalFrom ≤ lead && lead < style.positionalBelow then
    if 0 ≤ p then digits ++ List.replicate p.toNat '0' ++ ['.', '0']
    else if 0 ≤ lead then digits.take (lead + 1).toNat ++ '.' :: digits.drop (lead + 1).toNat
    else '0' :: '.' :: List.replicate (-lead - 1).toNat '0' ++ digits
  else
    digits.take 1 ++ (if digits.length == 1 then [] else '.' :: digits.drop 1)
      ++ 'e' :: (if 0 ≤ lead then '+' else '-') :: padLeft style.exponentWidth '0' (Nat.toDigits 10 lead.natAbs)

def Binary64.text : Binary64 → String
  | .nan => "nan"
  | .infinite s => if s then "-inf" else "inf"
  | .finite s m e =>
    let r := if m = 0 then (0, 0) else shortest m e
    String.ofList ((if s then ['-'] else []) ++ Style.plain.write r.1 r.2)

end Typewright.Decimal
