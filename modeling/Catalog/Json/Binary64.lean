/-!
# Binary64 numbers in exact arithmetic

A double is held as its 64 bits. Its finite values are read as `significand * 2 ^ exponent`
and every operation here is exact `Nat` arithmetic followed by one rounding to the nearest
double, ties to an even significand, so nothing goes through the machine's floating point.

* `Binary64.ofRatio`: the double nearest to `p / q`, or `none` past the largest finite one.
* `Binary64.ofDecimal`: the value of a JSON number's text: the significand rounded first,
  then scaled by a power of ten with one more rounding per step.
* `Binary64.shortest`: the fewest decimal digits that read back as the same double.
* `Binary64.jsonText` and `Binary64.messageText`: the two spellings built on `shortest`.
-/

namespace Catalog

/-- A double-precision binary floating-point value, held as its 64 bits. -/
structure Binary64 where
  /-- Sign bit, eleven exponent bits and fifty-two fraction bits. -/
  bits : UInt64
  deriving DecidableEq, Repr, Inhabited

namespace Binary64

/-- Decimal digit count of a natural number; zero has one digit. -/
def digitCount (n : Nat) : Nat :=
  if n < 10 then 1 else digitCount (n / 10) + 1
termination_by n
decreasing_by omega

/-- Positive zero. -/
def zero : Binary64 := ⟨0⟩

/-- Whether the sign bit is set. -/
def negative (x : Binary64) : Bool := (x.bits >>> 63) == 1

/-- The eleven exponent bits as a number. -/
def biasedExponent (x : Binary64) : Nat := ((x.bits >>> 52) &&& 0x7FF).toNat

/-- The fifty-two fraction bits as a number. -/
def fraction (x : Binary64) : Nat := (x.bits &&& 0xFFFFFFFFFFFFF).toNat

/-- The significand of the magnitude: the fraction, with the hidden bit unless subnormal. -/
def significand (x : Binary64) : Nat :=
  if x.biasedExponent = 0 then x.fraction else x.fraction + Nat.pow 2 52

/-- The power of two that scales the significand. -/
def exponent (x : Binary64) : Int :=
  if x.biasedExponent = 0 then -1074 else (x.biasedExponent : Int) - 1075

/-- Whether the value is zero, of either sign. -/
def isZero (x : Binary64) : Bool := x.biasedExponent = 0 && x.fraction = 0

/-- Infinity of the given sign. -/
def infinity (negative : Bool) : Binary64 :=
  ⟨if negative then 0xFFF0000000000000 else 0x7FF0000000000000⟩

/-- The quiet NaN of the given sign. -/
def nan (negative : Bool) : Binary64 :=
  ⟨if negative then 0xFFF8000000000000 else 0x7FF8000000000000⟩

/-- The same magnitude with the sign bit flipped. -/
def neg (x : Binary64) : Binary64 := ⟨x.bits ^^^ 0x8000000000000000⟩

/-- The double with the given sign, significand `m < 2 ^ 53` and exponent `e`, where a
significand below `2 ^ 52` is subnormal and then `e = -1074`. -/
def pack (negative : Bool) (m : Nat) (e : Int) : Binary64 :=
  let biased : Nat := if m < Nat.pow 2 52 then 0 else (e + 1075).toNat
  let frac : Nat := if m < Nat.pow 2 52 then m else m - Nat.pow 2 52
  ⟨((if negative then 1 else 0 : UInt64) <<< 63) ||| ((biased.toUInt64) <<< 52) |||
    frac.toUInt64⟩

/-- `num / den` as `p / (q * 2 ^ e)`: the numerator and denominator once `2 ^ e` is moved
across. -/
def scaleBy (p q : Nat) (e : Int) : Nat × Nat :=
  if 0 ≤ e then (p, q * Nat.pow 2 e.toNat) else (p * Nat.pow 2 (-e).toNat, q)

/-- The exponent that puts the integer part of `p / (q * 2 ^ e)` in `[2 ^ 52, 2 ^ 53)`,
raised to `-1074` where the value is subnormal. -/
def exponentFor (p q : Nat) : Int :=
  let e₀ : Int := (p.log2 : Int) - (q.log2 : Int) - 52
  let (n, d) := scaleBy p q e₀
  let e₁ := if n / d < Nat.pow 2 52 then e₀ - 1 else e₀
  if e₁ < -1074 then -1074 else e₁

/-- **Rounding**: the double nearest to `p / q` (`q > 0`), ties to an even significand, with
the given sign; `none` when the magnitude rounds past the largest finite double. -/
def ofRatio (negative : Bool) (p q : Nat) : Option Binary64 :=
  if p = 0 then some (pack negative 0 (-1074)) else
  let e := exponentFor p q
  let (n, d) := scaleBy p q e
  let m := n / d
  let r := n % d
  let up := 2 * r > d || (2 * r == d && m % 2 == 1)
  let m' := if up then m + 1 else m
  let (m'', e') := if m' = Nat.pow 2 53 then (Nat.pow 2 52, e + 1) else (m', e)
  if e' > 971 then none else some (pack negative m'' e')

/-- The magnitude as a ratio `p / q` of naturals. -/
def toRatio (x : Binary64) : Nat × Nat :=
  scaleBy x.significand 1 (-x.exponent)

/-- The rounded product of two doubles. -/
def mul (x y : Binary64) : Option Binary64 :=
  let (p₁, q₁) := x.toRatio
  let (p₂, q₂) := y.toRatio
  ofRatio (x.negative != y.negative) (p₁ * p₂) (q₁ * q₂)

/-- The rounded quotient of two doubles, the divisor nonzero. -/
def div (x y : Binary64) : Option Binary64 :=
  let (p₁, q₁) := x.toRatio
  let (p₂, q₂) := y.toRatio
  ofRatio (x.negative != y.negative) (p₁ * q₂) (q₁ * p₂)

/-- The double nearest to `10 ^ k`. -/
def powTen (k : Nat) : Binary64 := (ofRatio false (Nat.pow 10 k) 1).getD zero

/-- Divides by `10 ^ 308` until the decimal exponent comes within reach of `powTen`, or the
value has become zero. -/
def shrink : Nat → Binary64 → Int → Option Binary64
  | 0, f, _ => some f
  | fuel + 1, f, k =>
    if k ≥ -308 then div f (powTen (-k).toNat)
    else if f.isZero then some f
    else (div f (powTen 308)).bind fun g => shrink fuel g (k + 308)

/-- **The value of a decimal number's text** with significand `s` and decimal exponent `k`:
`s` rounded to a double, then multiplied or divided by the double nearest to `10 ^ |k|`
(by `10 ^ 308` at a time below `10 ^ -308`), each step rounded. A value that grows past the
largest double is out of range: `none`. -/
def ofDecimal (negative : Bool) (s : Nat) (k : Int) : Option Binary64 :=
  let f := (ofRatio false s 1).getD zero
  let magnitude : Option Binary64 :=
    if 0 ≤ k then
      if k ≤ 308 then mul f (powTen k.toNat)
      else if f.isZero then some f else none
    else shrink ((-k).toNat / 308 + 2) f k
  magnitude.map fun g => if negative then g.neg else g

/-! ## Shortest digits -/

/-- Compares `c * 10 ^ k` with `w * 2 ^ f` exactly. -/
def compareScaled (c : Nat) (k : Int) (w : Nat) (f : Int) : Ordering :=
  compare (c * Nat.pow 10 k.toNat * Nat.pow 2 (-f).toNat)
    (w * Nat.pow 2 f.toNat * Nat.pow 10 (-k).toNat)

/-- `⌊log₁₀ (m * 2 ^ e)⌋` for `m > 0`. -/
def decimalExponent (m : Nat) (e : Int) : Int :=
  let num := m * Nat.pow 2 e.toNat
  let den := Nat.pow 2 (-e).toNat
  if den ≤ num then (digitCount (num / den) : Int) - 1
  else -(digitCount ((den + num - 1) / num - 1) : Int)

/-- Whether `c * 10 ^ k` lies in the interval of reals that round to the double
`m * 2 ^ e`: half the gap to each neighbour, ends included when `m` is even. -/
def roundsTo (m : Nat) (e : Int) (lowerHalfGap : Nat) (c : Nat) (k : Int) : Bool :=
  let lo := compareScaled c k (4 * m - lowerHalfGap) (e - 2)
  let hi := compareScaled c k (4 * m + 2) (e - 2)
  if m % 2 = 0 then lo != .lt && hi != .gt else lo == .gt && hi == .lt

/-- Drops trailing zeros of `c`, raising the exponent `k` to match. -/
def stripZeros : Nat → Nat → Int → Nat × Int
  | 0, c, k => (c, k)
  | fuel + 1, c, k => if c ≠ 0 ∧ c % 10 = 0 then stripZeros fuel (c / 10) (k + 1) else (c, k)

/-- Tries `n, n + 1, …` significant digits: at each count the two neighbours of the value on
that decimal grid; the first count with a neighbour inside the rounding interval wins, and
of two the nearer, an exact tie going to the even one. -/
def searchDigits (m : Nat) (e : Int) (gap : Nat) (top : Int) : Nat → Nat → Nat × Int
  | 0, _ => (m, e)
  | fuel + 1, n =>
    let k := top - (n : Int) + 1
    let lo := (m * Nat.pow 2 e.toNat * Nat.pow 10 (-k).toNat) /
      (Nat.pow 2 (-e).toNat * Nat.pow 10 k.toNat)
    let hi := lo + 1
    let loOk := roundsTo m e gap lo k
    let hiOk := roundsTo m e gap hi k
    if loOk && hiOk then
      match compareScaled (2 * lo + 1) k (2 * m) e with
      | .lt => (hi, k)
      | .gt => (lo, k)
      | .eq => if lo % 2 = 0 then (lo, k) else (hi, k)
    else if loOk then (lo, k)
    else if hiOk then (hi, k)
    else searchDigits m e gap top fuel (n + 1)

/-- **Shortest digits**: for a nonzero finite double, the decimal `c * 10 ^ k` with the fewest
significant digits that rounds back to it, `c` without trailing zeros. -/
def shortest (x : Binary64) : Nat × Int :=
  let m := x.significand
  let e := x.exponent
  let gap := if x.fraction = 0 ∧ x.biasedExponent > 1 then 1 else 2
  let (c, k) := searchDigits m e gap (decimalExponent m e) 17 1
  stripZeros 20 c k

/-- `n` copies of the digit zero. -/
def zeros (n : Nat) : String := String.ofList (List.replicate n '0')

/-- **JSON spelling** of a finite double: positional with at least one fractional digit while
the decimal point falls within sixteen digits (`100.0`, `0.001`, down to five leading zeros),
otherwise one digit, a point, the rest and `e` with the exponent (`1e16`, `1.5e-7`). -/
def jsonText (x : Binary64) : String :=
  let sign := if x.negative then "-" else ""
  if x.isZero then sign ++ "0.0" else
  let (c, k) := x.shortest
  let ds := toString c
  let len : Int := ds.length
  let point := len + k
  let body :=
    if 0 ≤ k ∧ point ≤ 16 then ds ++ zeros k.toNat ++ ".0"
    else if 0 < point ∧ point ≤ 16 then
      String.ofList (ds.toList.take point.toNat) ++ "." ++
        String.ofList (ds.toList.drop point.toNat)
    else if -5 < point ∧ point ≤ 0 then "0." ++ zeros (-point).toNat ++ ds
    else
      let mantissa := if ds.length = 1 then ds
        else String.ofList (ds.toList.take 1) ++ "." ++ String.ofList (ds.toList.drop 1)
      mantissa ++ "e" ++ toString (point - 1)
  sign ++ body

/-- **Message spelling** of a double, as error messages quote one: positional while the
decimal exponent is from `-5` to `15`, with `.0` when the value is whole (`0.00001`,
`1234560000000.0`); otherwise one digit, the rest after a point, and `e` with the exponent's
sign and value (`1e+16`, `1.5e-7`). The infinities are `inf` and `-inf`, any NaN is `NaN`. -/
def messageText (x : Binary64) : String :=
  let sign := if x.negative then "-" else ""
  if x.biasedExponent = 0x7FF then
    if x.fraction = 0 then sign ++ "inf" else "NaN"
  else if x.isZero then sign ++ "0.0" else
  let (c, k) := x.shortest
  let ds := toString c
  let exp := (ds.length : Int) + k - 1
  let body :=
    if -5 ≤ exp ∧ exp < 16 then
      if 0 ≤ k then ds ++ zeros k.toNat ++ ".0"
      else if 0 ≤ exp then
        String.ofList (ds.toList.take (exp + 1).toNat) ++ "." ++
          String.ofList (ds.toList.drop (exp + 1).toNat)
      else "0." ++ zeros (-exp - 1).toNat ++ ds
    else
      let mantissa := if ds.length = 1 then ds
        else String.ofList (ds.toList.take 1) ++ "." ++ String.ofList (ds.toList.drop 1)
      mantissa ++ "e" ++ (if 0 ≤ exp then "+" else "-") ++ toString exp.natAbs
  sign ++ body

end Binary64

end Catalog
