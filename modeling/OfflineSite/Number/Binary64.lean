import OfflineSite.Number.Power

namespace OfflineSite

/-- A non-negative number of double precision: `significand * 2 ^ exponent`. -/
structure Binary64 where
  significand : Nat
  exponent : Int
  deriving Repr, DecidableEq

namespace Binary64

def zero : Binary64 := ⟨0, 0⟩

/-- The quotient rounded to the nearest whole number, a half to the even one. -/
def roundedQuotient (n d : Nat) : Nat :=
  let q := n / d
  let twice := 2 * (n % d)
  if twice > d ∨ (twice = d ∧ q % 2 = 1) then q + 1 else q

/-- Numerator and denominator of `n / d * 2 ^ -e`. -/
def scaled (n d : Nat) (e : Int) : Nat × Nat :=
  (n * twoTo (-e).toNat, d * twoTo e.toNat)

/-- The whole part of the binary logarithm of a positive fraction. -/
def binaryOrder (n d : Nat) : Int :=
  let guess : Int := (Nat.log2 n : Int) - Nat.log2 d
  let (a, b) := scaled n d guess
  if a < b then guess - 1 else guess

/-- The nearest number to a fraction, if there is a finite one. -/
def ofFraction? (n d : Nat) : Option Binary64 :=
  if n = 0 then some zero
  else
    let e := max (binaryOrder n d - 52) (-1074)
    let (a, b) := scaled n d e
    let m := roundedQuotient a b
    let (m, e) := if m = twoTo 53 then (twoTo 52, e + 1) else (m, e)
    if e > 971 then none else some ⟨m, e⟩

/-- The number as a fraction. -/
def fraction (x : Binary64) : Nat × Nat :=
  (x.significand * twoTo x.exponent.toNat, twoTo (-x.exponent).toNat)

/-- The product with a power of ten, or the quotient, the power rounded first. -/
def timesTenPower? (x : Binary64) (power : Int) : Option Binary64 := do
  let p ← ofFraction? (tenTo power.natAbs) 1
  let (a, b) := x.fraction
  let (c, d) := p.fraction
  if 0 ≤ power then ofFraction? (a * c) (b * d) else ofFraction? (a * d) (b * c)

/-- Scales by a power of ten of any size, in steps that are numbers themselves. -/
def scale? (x : Binary64) (power : Int) : Option Binary64 :=
  if power.natAbs ≤ 308 then x.timesTenPower? power
  else if x.significand = 0 then some x
  else if 0 ≤ power then none
  else do (← x.timesTenPower? (-308)).scale? (power + 308)
  termination_by power.natAbs

/-- Whether a fraction rounds to the number: whether it lies no further from it than half way to
the next number on its side, half way itself counting if the number is even. -/
def attracts (x : Binary64) (n d : Nat) : Bool :=
  let narrow := x.significand == twoTo 52 && x.exponent > -1074
  let (scale, unit) := scaled 1 4 (-x.exponent)
  let low := (4 * x.significand - if narrow then 1 else 2) * scale * d
  let high := (4 * x.significand + 2) * scale * d
  let value := n * unit
  if x.significand % 2 = 0 then low ≤ value && value ≤ high else low < value && value < high

/-- A decimal: `digits * 10 ^ exponent`. -/
structure Decimal where
  digits : Nat
  exponent : Int
  deriving Repr, DecidableEq

/-- A decimal as a fraction. -/
def Decimal.fraction (x : Decimal) : Nat × Nat :=
  (x.digits * tenTo x.exponent.toNat, tenTo (-x.exponent).toNat)

/-- The multiple of a power of ten nearest to a number, of the two around it, that rounds to it. -/
def nearestOnGrid? (x : Binary64) (power : Int) : Option Decimal :=
  let (n, d) := x.fraction
  let (n, d) := (n * tenTo (-power).toNat, d * tenTo power.toNat)
  let below : Decimal := ⟨n / d, power⟩
  let above : Decimal := ⟨n / d + 1, power⟩
  let fits (y : Decimal) : Bool := x.attracts y.fraction.1 y.fraction.2
  let order := if 2 * (n % d) ≤ d then [below, above] else [above, below]
  order.find? fits

/-- The shortest decimal that rounds to a number, looked for on ever finer grids. -/
def refine (x : Binary64) : Nat → Int → Decimal
  | 0, power => ⟨0, power⟩
  | fuel + 1, power =>
    match x.nearestOnGrid? power with
    | some y => if y.digits = 0 then refine x fuel (power - 1) else y
    | none => refine x fuel (power - 1)

/-- The shortest decimal that reads back as the number; of several the nearest. -/
def shortest (x : Binary64) : Decimal :=
  let (n, d) := x.fraction
  let top : Int := (Nat.toDigits 10 (n / d)).length
  if x.significand = 0 then ⟨0, 0⟩ else x.refine 400 top

/-- The text of a number: the shortest digits, with a point up to sixteen places before it and four
zeros behind it, otherwise with a signed power of ten. -/
def text (x : Binary64) : String :=
  let y := x.shortest
  let digits := Nat.toDigits 10 y.digits
  let point : Int := digits.length + y.exponent
  let zeros (n : Int) : List Char := List.replicate n.toNat '0'
  String.ofList <|
    if x.significand = 0 then ['0', '.', '0']
    else if 0 ≤ y.exponent ∧ point ≤ 16 then digits ++ zeros y.exponent ++ ['.', '0']
    else if 0 < point ∧ point ≤ 16 then digits.take point.toNat ++ '.' :: digits.drop point.toNat
    else if -5 < point ∧ point ≤ 0 then '0' :: '.' :: zeros (-point) ++ digits
    else
      let mantissa := match digits with
        | [d] => [d]
        | d :: rest => d :: '.' :: rest
        | [] => []
      mantissa ++ 'e' :: (if 0 < point then ['+'] else []) ++ (toString (point - 1)).toList

end Binary64

end OfflineSite
