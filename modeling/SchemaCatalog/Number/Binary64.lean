import SchemaCatalog.Text.Digit

/-!
# Binary floating-point numbers

The numbers a 64-bit word of radix two holds, as a sign with an exact magnitude: a mantissa times a
power of two, or infinity. A decimal text is read to the nearest such number, a tie going to the
even mantissa. All arithmetic is on natural numbers.
-/

namespace SchemaCatalog

inductive Magnitude where
  /-- `mantissa * 2 ^ exponent` -/
  | finite (mantissa : Nat) (exponent : Int)
  | infinite
  deriving DecidableEq, Repr

/-- A binary number: sign and magnitude, zero having a sign too. -/
structure Binary64 where
  negative : Bool
  magnitude : Magnitude
  deriving DecidableEq, Repr

namespace Binary64

/-- The number of bits of a full mantissa. -/
def precision : Nat := 53

def twoTo (n : Nat) : Nat := Nat.pow 2 n

def tenTo (n : Nat) : Nat := Nat.pow 10 n

def minExponent : Int := -1074

def maxExponent : Int := 971

/-- A quotient rounded to the nearest natural number, a tie to the even one. -/
def roundedQuotient (num den : Nat) : Nat :=
  let q := num / den
  let r := num % den
  if den < 2 * r || (2 * r == den && q % 2 == 1) then q + 1 else q

/-- `num / den` in units of `2 ^ exponent`, rounded. -/
def inUnits (num den : Nat) (exponent : Int) : Nat :=
  if 0 ≤ exponent then roundedQuotient num (den * twoTo exponent.toNat)
  else roundedQuotient (num * twoTo (-exponent).toNat) den

/-- `num / den` is at least `2 ^ exponent`. -/
def reaches (num den : Nat) (exponent : Int) : Bool :=
  if 0 ≤ exponent then den * twoTo exponent.toNat ≤ num
  else den ≤ num * twoTo (-exponent).toNat

def nearestQuotient (num den : Nat) : Magnitude :=
  let guess : Int := (Nat.log2 num : Int) - (Nat.log2 den : Int)
  let top := if reaches num den guess then guess else guess - 1
  let exponent := max (top - (precision - 1 : Nat)) minExponent
  let mantissa := inUnits num den exponent
  let (mantissa, exponent) :=
    if mantissa == twoTo precision then (twoTo (precision - 1), exponent + 1) else (mantissa, exponent)
  if maxExponent < exponent then .infinite else .finite mantissa exponent

/-- Decimal numbers of at least this many places before the point are beyond all finite ones. -/
def hugePlaces : Int := 320

/-- Decimal numbers with this many noughts after the point round to zero. -/
def tinyPlaces : Int := -340

/-- The magnitude nearest to `digits * 10 ^ exponent`. -/
def nearestDecimal (digits : Nat) (exponent : Int) : Magnitude :=
  let places : Int := (Nat.toDigits 10 digits).length + exponent
  if digits == 0 || places < tinyPlaces then .finite 0 minExponent
  else if hugePlaces < places then .infinite
  else if 0 ≤ exponent then nearestQuotient (digits * tenTo exponent.toNat) 1
  else nearestQuotient digits (tenTo (-exponent).toNat)

/-- The leading decimal digits of a character list: their value, their count, and the rest. -/
def takeDigits (acc count : Nat) : List Char → Nat × Nat × List Char
  | [] => (acc, count, [])
  | c :: cs =>
    match Text.decimalValue? c with
    | some v => takeDigits (acc * 10 + v) (count + 1) cs
    | none => (acc, count, c :: cs)

/-- The exponent part of a decimal text: a mark, an optional sign and at least one digit, or
nothing. -/
def readExponent? : List Char → Option Int
  | [] => some 0
  | mark :: cs =>
    if mark == 'e' || mark == 'E' then
      let (negative, digits) :=
        match cs with
        | '-' :: rest => (true, rest)
        | '+' :: rest => (false, rest)
        | _ => (false, cs)
      match takeDigits 0 0 digits with
      | (value, count, []) =>
        if count == 0 then none else some (if negative then -(value : Int) else value)
      | _ => none
    else none

/-- The number nearest to an unsigned decimal text with an optional fraction and exponent. -/
def ofDecimalText? (s : String) : Option Binary64 :=
  let (whole, wholeCount, rest) := takeDigits 0 0 s.toList
  let (digits, fractionCount, rest) :=
    match rest with
    | '.' :: tail => takeDigits whole 0 tail
    | _ => (whole, 0, rest)
  if wholeCount + fractionCount == 0 then none
  else (readExponent? rest).map fun e => ⟨false, nearestDecimal digits (e - fractionCount)⟩

def neg (x : Binary64) : Binary64 := { x with negative := !x.negative }

/-- Two binary numbers have one value; the zeros are equal. -/
def sameValue (x y : Binary64) : Bool :=
  match x.magnitude, y.magnitude with
  | .infinite, .infinite => x.negative == y.negative
  | .finite m e, .finite m' e' => m == m' && e == e' && (x.negative == y.negative || m == 0)
  | _, _ => false

def equalsInt (x : Binary64) (i : Int) : Bool :=
  match x.magnitude with
  | .infinite => false
  | .finite m e =>
    let signed : Int := if x.negative then -(m : Int) else m
    if 0 ≤ e then signed * (twoTo e.toNat : Int) == i
    else signed == i * (twoTo (-e).toNat : Int)

/-- The 64-bit word of a binary number: sign, eleven bits of exponent, fraction. -/
def toWord (x : Binary64) : Nat :=
  let sign := if x.negative then twoTo 63 else 0
  match x.magnitude with
  | .infinite => sign + 2047 * twoTo 52
  | .finite m e =>
    if m < twoTo (precision - 1) then sign + m
    else sign + (e - minExponent + 1).toNat * twoTo 52 + (m - twoTo 52)

end Binary64

end SchemaCatalog
