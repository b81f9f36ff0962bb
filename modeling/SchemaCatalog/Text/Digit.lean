import SchemaCatalog.Text.Blank

/-!
# Digits and whole numbers

The decimal digits of all scripts with their values, the wider class of digit characters
(superscripts and enclosed digits as well), and the reading of a whole number: white space around it,
a sign, and single underscores between digits are accepted.
-/

namespace SchemaCatalog.Text

/-- The zero of each block of ten consecutive decimal digits outside ASCII. -/
def decimalZeros : List Nat :=
  [
    0x660, 0x6f0, 0x7c0, 0x966, 0x9e6, 0xa66, 0xae6, 0xb66, 0xbe6, 0xc66,
    0xce6, 0xd66, 0xde6, 0xe50, 0xed0, 0xf20, 0x1040, 0x1090, 0x17e0, 0x1810,
    0x1946, 0x19d0, 0x1a80, 0x1a90, 0x1b50, 0x1bb0, 0x1c40, 0x1c50, 0xa620, 0xa8d0,
    0xa900, 0xa9d0, 0xa9f0, 0xaa50, 0xabf0, 0xff10, 0x104a0, 0x10d30, 0x11066, 0x110f0,
    0x11136, 0x111d0, 0x112f0, 0x11450, 0x114d0, 0x11650, 0x116c0, 0x11730, 0x118e0, 0x11950,
    0x11c50, 0x11d50, 0x11da0, 0x16a60, 0x16ac0, 0x16b50, 0x1d7ce, 0x1d7d8, 0x1d7e2, 0x1d7ec,
    0x1d7f6, 0x1e140, 0x1e2f0, 0x1e950, 0x1fbf0]

/-- The runs of digit characters that stand for no place in a decimal number. -/
def otherDigitRuns : List (Nat × Nat) :=
  [
    (0xb2, 0xb3), (0xb9, 0xb9), (0x1369, 0x1371), (0x19da, 0x19da), (0x2070, 0x2070),
    (0x2074, 0x2079), (0x2080, 0x2089), (0x2460, 0x2468), (0x2474, 0x247c), (0x2488, 0x2490),
    (0x24ea, 0x24ea), (0x24f5, 0x24fd), (0x24ff, 0x24ff), (0x2776, 0x277e), (0x2780, 0x2788),
    (0x278a, 0x2792), (0x10a40, 0x10a43), (0x10e60, 0x10e68), (0x11052, 0x1105a), (0x1f100, 0x1f10a)]

/-- The value of a decimal digit of any script. -/
def decimalValue? (c : Char) : Option Nat :=
  let n := c.toNat
  if n < 128 then
    if 48 ≤ n && n ≤ 57 then some (n - 48) else none
  else (decimalZeros.find? fun z => z ≤ n && n < z + 10).map (n - ·)

/-- A digit character: a decimal digit, or one written above the line or enclosed. -/
def isDigit (c : Char) : Bool :=
  let n := c.toNat
  if n < 128 then 48 ≤ n && n ≤ 57
  else (decimalValue? c).isSome || otherDigitRuns.any fun r => r.1 ≤ n && n ≤ r.2

/-- The value of a digit in the given base: a decimal digit or an ASCII letter. -/
def digitValue? (base : Nat) (c : Char) : Option Nat :=
  let value :=
    match decimalValue? c with
    | some v => some v
    | none =>
      if 'a' ≤ c && c ≤ 'z' then some (c.toNat - 87)
      else if 'A' ≤ c && c ≤ 'Z' then some (c.toNat - 55)
      else none
  value.filter (· < base)

/-- The number written by a run of digits; an underscore may stand between two digits. The value and
count of the digits read so far are `acc` and `count`, and `gap` says that a digit must come next. -/
def digitRun? (base : Nat) (acc count : Nat) (gap : Bool) : List Char → Option (Nat × Nat)
  | [] => if gap then none else some (acc, count)
  | c :: cs =>
    if c == '_' then
      if gap then none else digitRun? base acc count true cs
    else
      match digitValue? base c with
      | some v => digitRun? base (acc * base + v) (count + 1) false cs
      | none => none

/-- A base mark such as `0x`, and the underscore that may follow it, taken off a digit run. -/
def dropBaseMark (base : Nat) : List Char → List Char
  | '0' :: m :: cs =>
    if (base == 16 && (m == 'x' || m == 'X')) || (base == 2 && (m == 'b' || m == 'B')) then
      match cs with
      | '_' :: rest => rest
      | _ => cs
    else '0' :: m :: cs
  | cs => cs

/-- Decimal texts of more digits are not read as whole numbers. -/
def maxDecimalDigits : Nat := 4300

/-- A blank that may stand around a number: any but the separators U+001C to U+001F. -/
def isMargin (c : Char) : Bool := isBlank c && !(0x1c ≤ c.toNat && c.toNat ≤ 0x1f)

def dropMargins (cs : List Char) : List Char :=
  ((cs.dropWhile isMargin).reverse.dropWhile isMargin).reverse

/-- The whole number a text writes in the given base, if it writes one. -/
def readInt? (base : Nat) (cs : List Char) : Option Int :=
  let body := dropMargins cs
  let (negative, digits) :=
    match body with
    | '-' :: rest => (true, rest)
    | '+' :: rest => (false, rest)
    | _ => (false, body)
  match digitRun? base 0 0 true (dropBaseMark base digits) with
  | some (value, count) =>
    if base == 10 && maxDecimalDigits < count then none
    else some (if negative then -(value : Int) else value)
  | none => none

/-- The whole number a decimal text writes, if it writes one. -/
def readDecimal? (s : String) : Option Int := readInt? 10 s.toList

end SchemaCatalog.Text
