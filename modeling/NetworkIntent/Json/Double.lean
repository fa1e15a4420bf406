import NetworkIntent.Text.Numeral

/-!
# Doubles

The finite binary64 numbers, held exactly: a sign, a mantissa and a power of two. Arithmetic is
done on exact ratios and rounded once, to the nearest double and in a tie to the even mantissa.

A double is written with the fewest digits that read back as the same double.

## Main definitions

* `Double`: a finite binary64 number.
* `Double.ofRatio?`: the double nearest to a ratio, unless it is beyond the largest one.
* `Double.mul?`, `Double.div?`: rounded arithmetic.
* `Double.shortest`: the fewest decimal digits that determine a double.
* `Double.text`: the numeral of a double.
-/

set_option autoImplicit false

namespace NetworkIntent

/-- A finite binary64 number: `mantissa` times two to the power `exponent`, negated if `negative`.
The operations below yield one representative of each number: the mantissa is below `2 ^ 53`, the
exponent is at least `-1074`, and the mantissa is at least `2 ^ 52` unless the exponent is
`-1074`. -/
structure Double where
  negative : Bool
  mantissa : Nat
  exponent : Int
  deriving DecidableEq, Repr

namespace Double

/-- The least exponent, that of the subnormal numbers. -/
def minExponent : Int := -1074

/-- The greatest exponent. -/
def maxExponent : Int := 971

/-- The least mantissa of a normal number. All mantissas are below twice this number. -/
def leastMantissa : Nat := 4503599627370496

/-- Zero with a sign. -/
def zero (negative : Bool) : Double := ⟨negative, 0, minExponent⟩

/-- The quotient of two numbers, rounded to the nearest whole number and in a tie to the even
one. -/
def roundDiv (num den : Nat) : Nat :=
  let q := num / den
  let r := num % den
  if 2 * r < den then q
  else if den < 2 * r then q + 1
  else if q % 2 = 0 then q
  else q + 1

/-- The ratio `num / den` divided by two to the power `exponent`, again as a ratio. -/
def scale (num den : Nat) (exponent : Int) : Nat × Nat :=
  match exponent with
  | .ofNat e => (num, den * Nat.pow 2 e)
  | .negSucc e => (num * Nat.pow 2 (e + 1), den)

/-- The exponent with which the mantissa of a positive ratio is that of a normal number, but at
least the least one. -/
def exponentOf (num den : Nat) : Int :=
  let guess : Int := (num.log2 : Int) - den.log2 - 53
  let (n, d) := scale num den guess
  let exponent := if n < d * (2 * leastMantissa) then guess else guess + 1
  max exponent minExponent

/-- The double nearest to a ratio, or `none` if it is beyond the largest double. -/
def ofRatio? (negative : Bool) (num den : Nat) : Option Double :=
  if num = 0 then some (zero negative)
  else
    let exponent := exponentOf num den
    let (n, d) := scale num den exponent
    let mantissa := roundDiv n d
    let (mantissa, exponent) :=
      if mantissa = 2 * leastMantissa then (leastMantissa, exponent + 1) else (mantissa, exponent)
    if maxExponent < exponent then none else some ⟨negative, mantissa, exponent⟩

/-- The absolute value as a ratio. -/
def ratio (x : Double) : Nat × Nat :=
  match x.exponent with
  | .ofNat e => (x.mantissa * Nat.pow 2 e, 1)
  | .negSucc e => (x.mantissa, Nat.pow 2 (e + 1))

/-- The product, or `none` if it is beyond the largest double. -/
def mul? (x y : Double) : Option Double :=
  let (a, b) := x.ratio
  let (c, d) := y.ratio
  ofRatio? (x.negative != y.negative) (a * c) (b * d)

/-- The quotient, or `none` if it is beyond the largest double. The divisor is not zero. -/
def div? (x y : Double) : Option Double :=
  let (a, b) := x.ratio
  let (c, d) := y.ratio
  ofRatio? (x.negative != y.negative) (a * d) (b * c)

/-- Whether the number is a zero of either sign. -/
def isZero (x : Double) : Bool := x.mantissa = 0

/-- The whole number that a double is, if it is one. -/
def toInt? (x : Double) : Option Int :=
  let (num, den) := x.ratio
  if num % den = 0 then
    let n : Int := (num / den : Nat)
    some (if x.negative then -n else n)
  else none

/-- Whether a double is less than a whole number. -/
def ltInt (x : Double) (n : Int) : Bool :=
  let (num, den) := x.ratio
  let signed : Int := if x.negative then -(num : Int) else num
  signed < n * den

/-- The ends of the interval of numbers that round to a positive double, as numerators over one
denominator. The ends themselves belong to it if the mantissa is even. -/
def rounding (x : Double) : Nat × Nat × Nat × Nat :=
  let narrow := x.mantissa = leastMantissa ∧ minExponent < x.exponent
  let low := if narrow then 4 * x.mantissa - 1 else 4 * x.mantissa - 2
  let high := 4 * x.mantissa + 2
  let (num, den) := (⟨false, 1, x.exponent - 2⟩ : Double).ratio
  (low * num, 4 * x.mantissa * num, high * num, den)

/-- The number of decimal digits of a number, less one. -/
def log10 (n : Nat) : Nat := (Nat.toDigits 10 n).length - 1

/-- The power of ten at which the first digit of a positive ratio stands. -/
def decimalExponent (num den : Nat) : Int :=
  if den ≤ num then (log10 (num / den) : Int)
  else
    let places := log10 (den / num)
    if den ≤ num * Nat.pow 10 places then -(places : Int) else -(places : Int) - 1

/-- Removes the zeros at the end of a numeral, which is `digits` times ten to the power `unit`. -/
def stripZeros : (fuel digits : Nat) → (unit : Int) → Nat × Int
  | 0, digits, unit => (digits, unit)
  | fuel + 1, digits, unit =>
    if digits ≠ 0 ∧ digits % 10 = 0 then stripZeros fuel (digits / 10) (unit + 1)
    else (digits, unit)

/-- The multiple of ten to the power `unit` that rounds to the positive double `x` and is nearest
to it, if there is one. -/
def onGrid? (x : Double) (unit : Int) : Option Nat :=
  let (low, value, high, den) := x.rounding
  let (up, down) : Nat × Nat := match unit with
    | .ofNat u => (1, Nat.pow 10 u)
    | .negSucc u => (Nat.pow 10 (u + 1), 1)
  let (low, value, high, den) := (low * up, value * up, high * up, den * down)
  let inside (n : Nat) : Bool :=
    if x.mantissa % 2 = 0 then low ≤ n * den && n * den ≤ high
    else low < n * den && n * den < high
  let below := value / den
  let above := below + 1
  if inside below && inside above then
    some (if 2 * (value % den) < den then below
      else if den < 2 * (value % den) then above
      else if below % 2 = 0 then below
      else above)
  else if inside below then some below
  else if inside above then some above
  else none

/-- The fewest digits that round to a positive double, tried from `count` digits on, whose first
digit stands at ten to the power `top`. -/
def shortestFrom (x : Double) (top : Int) : (fuel count : Nat) → Nat × Int
  | 0, _ => (0, 0)
  | fuel + 1, count =>
    let unit := top - count
    match onGrid? x unit with
    | some digits => stripZeros 20 digits unit
    | none => shortestFrom x top fuel (count + 1)

/-- The fewest decimal digits that round to a positive double, with the power of ten of the last
one. Seventeen digits always do. -/
def shortest (x : Double) : Nat × Int :=
  let (num, den) := x.ratio
  shortestFrom x (decimalExponent num den) 18 0

/-- How numerals of doubles look: from ten to the power `plainFrom` to ten to the power `plainTo`
the point stands among the digits, and beyond that an exponent with its sign follows. -/
structure NumeralForm where
  plainFrom : Int
  plainTo : Int

/-- The form of numbers in documents. -/
def documentForm : NumeralForm := ⟨-5, 15⟩

/-- The numeral with the given digits, the last of which stands at ten to the power `unit`. -/
def numeral (form : NumeralForm) (digits : List Char) (unit : Int) : List Char :=
  let top := unit + digits.length - 1
  if form.plainFrom ≤ top ∧ top ≤ form.plainTo then
    if 0 ≤ unit then digits ++ List.replicate unit.toNat '0' ++ ['.', '0']
    else if 0 ≤ top then
      digits.take (top.toNat + 1) ++ '.' :: digits.drop (top.toNat + 1)
    else ['0', '.'] ++ List.replicate (-top - 1).toNat '0' ++ digits
  else
    let fraction := match digits.tail with
      | [] => []
      | rest => '.' :: rest
    let sign := if top < 0 then '-' else '+'
    digits.take 1 ++ fraction ++ ['e', sign] ++ Nat.toDigits 10 top.natAbs

/-- The numeral of a double: the fewest digits that determine it, with a point or an exponent. -/
def text (x : Double) : List Char :=
  let magnitude :=
    if x.isZero then ['0', '.', '0']
    else
      let (digits, unit) := x.shortest
      numeral documentForm (Nat.toDigits 10 digits) unit
  if x.negative then '-' :: magnitude else magnitude

end Double

end NetworkIntent
