/-!
Binary floating-point numbers and their decimal text. A format keeps `precision` bits of
mantissa and a range of exponents; a positive value of it is `m · 2 ^ e`. Reading a decimal
rounds it to the nearest value of the format, a tie going to the even mantissa, and a value
beyond the largest one is infinite. Writing a value gives the fewest decimal digits that read
back to it, and of several such the one nearest to it, a tie going to the even digit.

All arithmetic is exact, on natural numbers.
-/

namespace SubtitleQueue.Decimal

/-- A binary floating-point format: mantissa bits and the least and greatest exponent of a
normal value written as `1.f · 2 ^ x`. -/
structure Format where
  precision : Nat
  minExp : Int
  maxExp : Int
  deriving Repr, DecidableEq, Inhabited

/-- Single precision. -/
def single : Format := ⟨24, -126, 127⟩

/-- Double precision. -/
def double : Format := ⟨53, -1022, 1023⟩

/-- A value of a format: zero, a finite positive `m · 2 ^ e`, or infinity. Signs are kept
apart. -/
inductive Value where
  | zero
  | finite (m : Nat) (e : Int)
  | infinite
  deriving Repr, DecidableEq, Inhabited

/-- The number of binary digits of a natural number. -/
def bitLength (n : Nat) : Nat := if n = 0 then 0 else Nat.log2 n + 1

/-- `a * 2 ^ s` as a fraction of natural numbers, for a whole exponent `s`. -/
def scaled (a : Nat) (s : Int) : Nat × Nat :=
  if s ≥ 0 then (a * Nat.pow 2 s.toNat, 1) else (a, Nat.pow 2 (-s).toNat)

/-- Rounds the quotient `a / b` to a whole number, a tie going to the even one. -/
def roundHalfEven (a b : Nat) : Nat :=
  let q := a / b
  let r := a % b
  if 2 * r > b then q + 1
  else if 2 * r < b then q
  else if q % 2 == 0 then q else q + 1

namespace Format

/-- The exponent `e` of the last mantissa bit of the least normal value. -/
def minUnit (f : Format) : Int := f.minExp - (f.precision - 1 : Nat)

/-- The exponent of the last mantissa bit of the greatest values. -/
def maxUnit (f : Format) : Int := f.maxExp - (f.precision - 1 : Nat)

/-- The nearest value of the format to the positive fraction `a / b`. -/
def roundFraction (f : Format) (a b : Nat) : Value :=
  if a = 0 ∨ b = 0 then .zero else
  -- the exponent that leaves `precision` bits before the point, up to one
  let guess : Int := (bitLength a : Int) - (bitLength b : Int) - ((f.precision - 1 : Nat) : Int)
  -- it is one too large when `a / b / 2 ^ guess` is below `2 ^ (precision - 1)`
  let (n, d) := scaled a (-guess)
  let e := if n / (d * b) < Nat.pow 2 (f.precision - 1) then guess - 1 else guess
  let e := max e f.minUnit
  let (n, d) := scaled a (-e)
  let q := roundHalfEven n (d * b)
  let (q, e) := if q = Nat.pow 2 f.precision then (Nat.pow 2 (f.precision - 1), e + 1) else (q, e)
  if q = 0 then .zero
  else if e > f.maxUnit then .infinite
  else .finite q e

/-- The nearest value of the format to `m · 10 ^ k`. Exponents far outside the format's
range give infinity or zero without computing the power. -/
def roundDecimal (f : Format) (m : Nat) (k : Int) : Value :=
  if m = 0 then .zero
  else
    let size : Int := ((toString m).length : Int) + k
    if size > 400 then .infinite
    else if size < -400 then .zero
    else if k ≥ 0 then f.roundFraction (m * Nat.pow 10 k.toNat) 1
    else f.roundFraction m (Nat.pow 10 (-k).toNat)

/-- A value of another format rounded to this one. -/
def narrow (f : Format) : Value → Value
  | .zero => .zero
  | .infinite => .infinite
  | .finite m e => let (a, b) := scaled m e; f.roundFraction a b

end Format

/-- The decimal exponent of a positive fraction: `x` with `10 ^ x ≤ a / b < 10 ^ (x + 1)`. -/
def decimalExponent (a b : Nat) : Int :=
  if a ≥ b then ((toString (a / b)).length : Int) - 1
  else
    let t := (toString b).length - (toString a).length
    if a * Nat.pow 10 t ≥ b then -(t : Int) else -((t + 1 : Nat) : Int)

/-- `x · 10 ^ k` over `y · 2 ^ s`, both as natural numbers over a common scale. -/
def crossScale (x : Nat) (k : Int) (y : Nat) (s : Int) : Nat × Nat :=
  (x * Nat.pow 10 k.toNat * Nat.pow 2 (-s).toNat, y * Nat.pow 2 s.toNat * Nat.pow 10 (-k).toNat)

/-- The fewest decimal digits for a positive value `m · 2 ^ e` of a format: digits `d` and
an exponent `k` with `d · 10 ^ k` reading back to the value. -/
def shortest (f : Format) (m : Nat) (e : Int) : Nat × Int :=
  -- the value and the ends of the interval that rounds to it, in units of 2 ^ (e - 2)
  let v := 4 * m
  let lowGap := if m = Nat.pow 2 (f.precision - 1) ∧ e > f.minUnit then 1 else 2
  let lo := v - lowGap
  let hi := v + 2
  let inclusive := m % 2 == 0
  let s := e - 2
  let (hn, hd) := crossScale hi 0 1 (-s)
  let top := decimalExponent hn hd
  go inclusive v lo hi s top 1 17
where
  /-- Tries `n` digits, then more, at most `left` more times. -/
  go (inclusive : Bool) (v lo hi : Nat) (s top : Int) (n : Nat) : Nat → Nat × Int
    | 0 => (v, s)
    | left + 1 =>
      let k := top - (n - 1 : Nat)
      -- a digit string d lies in the interval when lo ≤ d · 10 ^ k · 2 ^ -s ≤ hi
      let (ln, ld) := crossScale lo 0 1 (-s)
      let (hn, hd) := crossScale hi 0 1 (-s)
      let (vn, vd) := crossScale v 0 1 (-s)
      let unit := crossScale 1 k 1 0
      -- bounds on d, as fractions over the decimal unit
      let dlo := (ln * unit.2 + ld * unit.1 - 1) / (ld * unit.1)
      let dlo := if !inclusive && dlo * ld * unit.1 == ln * unit.2 then dlo + 1 else dlo
      let dhi := (hn * unit.2) / (hd * unit.1)
      let dhi := if !inclusive && dhi * hd * unit.1 == hn * unit.2 then dhi - 1 else dhi
      if dlo ≤ dhi ∧ dhi > 0 then
        let near := roundHalfEven (vn * unit.2) (vd * unit.1)
        (min (max near dlo) dhi, k)
      else go inclusive v lo hi s top (n + 1) left

/-- The digits of a natural number and its exponent, trailing zeros moved into the
exponent. -/
def stripZeros (m : Nat) (e : Int) : Nat × Int :=
  if h : m ≠ 0 ∧ m % 10 = 0 then stripZeros (m / 10) (e + 1) else (m, e)
termination_by m
decreasing_by omega

/-- How a format's shortest digits are laid out: positional while the point falls within
`positional` digits of the first one, otherwise one digit, a point, the rest and an
exponent. -/
def layout (positional : Nat) (neg : Bool) (m : Nat) (e : Int) : String :=
  let sign := if neg then "-" else ""
  if m == 0 then sign ++ "0.0" else
  let (m, e) := stripZeros m e
  let ds := toString m
  let len : Int := ds.length
  let kk := len + e
  let zeros (n : Int) := String.ofList (List.replicate n.toNat '0')
  sign ++
    if 0 ≤ e && kk ≤ positional then ds ++ zeros e ++ ".0"
    else if 0 < kk && kk ≤ positional then
      String.ofList (ds.toList.take kk.toNat) ++ "." ++ String.ofList (ds.toList.drop kk.toNat)
    else if -6 < kk && kk ≤ 0 then "0." ++ zeros (-kk) ++ ds
    else
      let rest := String.ofList (ds.toList.drop 1)
      String.ofList (ds.toList.take 1) ++ (if rest.isEmpty then "" else "." ++ rest) ++
        "e" ++ toString (kk - 1)

/-- The text of a finite value of a format, laid out as its printer does: single
precision positional up to 13 digits before the point, double up to 16. -/
def valueText (f : Format) (neg : Bool) : Value → Option String
  | .zero => some (if neg then "-0.0" else "0.0")
  | .infinite => none
  | .finite m e =>
    let (d, k) := shortest f m e
    some (layout (if f.precision ≤ 24 then 13 else 16) neg d k)

end SubtitleQueue.Decimal
