import Gatewayz.Billing.Python
import Mathlib.Data.List.TakeWhile

/-!
# `Billing.Numerals` — numbers written as text

Stripe carries ids and amounts as metadata texts. The source writes them with `str(n)` and reads them back with
`int(text)` or, in `_coerce_to_int`, with `int(round(float(text)))`. `nearestDouble` is the rounding of
`float`; it stands only where the source goes from a `float` to an `int` and the rounding shows.
-/

namespace Gatewayz

/-! ## Characters -/

/-- `str.isspace` of one character. -/
def isSpaceChar (c : Char) : Bool :=
  (0x09 ≤ c.toNat ∧ c.toNat ≤ 0x0D) || (0x1C ≤ c.toNat ∧ c.toNat ≤ 0x20) || c.toNat = 0x85 || c.toNat = 0xA0 ||
    c.toNat = 0x1680 || (0x2000 ≤ c.toNat ∧ c.toNat ≤ 0x200A) || c.toNat = 0x2028 || c.toNat = 0x2029 ||
    c.toNat = 0x202F || c.toNat = 0x205F || c.toNat = 0x3000

def strip (text : List Char) : List Char := ((text.dropWhile isSpaceChar).reverse.dropWhile isSpaceChar).reverse

/-- The code points of the digit zero of each script. -/
def digitZeros : List Nat :=
  [0x30, 0x660, 0x6F0, 0x7C0, 0x966, 0x9E6, 0xA66, 0xAE6, 0xB66, 0xBE6, 0xC66, 0xCE6, 0xD66, 0xDE6, 0xE50, 0xED0,
    0xF20, 0x1040, 0x1090, 0x17E0, 0x1810, 0x1946, 0x19D0, 0x1A80, 0x1A90, 0x1B50, 0x1BB0, 0x1C40, 0x1C50, 0xA620,
    0xA8D0, 0xA900, 0xA9D0, 0xA9F0, 0xAA50, 0xABF0, 0xFF10, 0x104A0, 0x10D30, 0x11066, 0x110F0, 0x11136, 0x111D0,
    0x112F0, 0x11450, 0x114D0, 0x11650, 0x116C0, 0x11730, 0x118E0, 0x11950, 0x11C50, 0x11D50, 0x11DA0, 0x11F50,
    0x16A60, 0x16AC0, 0x16B50, 0x1D7CE, 0x1D7D8, 0x1D7E2, 0x1D7EC, 0x1D7F6, 0x1E140, 0x1E2F0, 0x1E4F0, 0x1E950,
    0x1FBF0]

/-- A digit of any script as an ASCII digit. -/
def asciiDigit (c : Char) : Char :=
  if c.isDigit then c
  else
    match digitZeros.find? (fun first => first ≤ c.toNat ∧ c.toNat < first + 10) with
    | some first => Nat.digitChar (c.toNat - first)
    | none => c

/-- Underscores are dropped, if each stands between two digits. -/
def dropUnderscores (afterDigit : Bool) : List Char → Option (List Char)
  | [] => some []
  | c :: cs =>
    if c = '_' then
      if afterDigit && cs.head?.any Char.isDigit then dropUnderscores false cs else none
    else (dropUnderscores c.isDigit cs).map (c :: ·)

/-- The sign and what follows it. -/
def splitSign : List Char → Bool × List Char
  | '-' :: cs => (true, cs)
  | '+' :: cs => (false, cs)
  | cs => (false, cs)

def numeral (text : String) : Option (List Char) := dropUnderscores false ((strip text.toList).map asciiDigit)

/-! ## `int` and `float` -/

/-- The exponent of the last place of the double next to `q`, for `q ≠ 0`. -/
def lastPlace (q : ℚ) : Int :=
  let num := q.num.natAbs
  let log2 : Int := if q.den ≤ num then Nat.log2 (num / q.den) else -(Nat.log2 ((q.den - 1) / num) + 1)
  max log2 (-1022) - 52

/-- The double nearest to `q`, ties to even; it may have any size. -/
def nearestDouble (q : ℚ) : ℚ :=
  if q = 0 then 0 else roundHalfEven (q / (2 : ℚ) ^ lastPlace q) * (2 : ℚ) ^ lastPlace q

/-- `int(text)`; nothing for a `ValueError`. -/
def parseInt (text : String) : Option Int := do
  let chars ← numeral text
  let (negative, digits) := splitSign chars
  if digits ≠ [] ∧ digits.all Char.isDigit then
    some (if negative then -Nat.ofDigitChars 10 digits 0 else Nat.ofDigitChars 10 digits 0)
  else none

/-- The value of `float(text)`. -/
inductive PyFloat where
  | finite (q : ℚ)
  | infinite (negative : Bool)
  | nan
  deriving DecidableEq

/-- The exponent that ends a literal, if any. -/
def parseExponent : List Char → Option Int
  | [] => some 0
  | c :: cs =>
    if c = 'e' ∨ c = 'E' then
      let (negative, digits) := splitSign cs
      if digits ≠ [] ∧ digits.all Char.isDigit then
        some (if negative then -Nat.ofDigitChars 10 digits 0 else Nat.ofDigitChars 10 digits 0)
      else none
    else none

/-- An unsigned decimal literal. -/
def parseDecimal (chars : List Char) : Option ℚ :=
  let whole := chars.takeWhile Char.isDigit
  let rest := chars.dropWhile Char.isDigit
  let (frac, rest) :=
    match rest with
    | '.' :: cs => (cs.takeWhile Char.isDigit, cs.dropWhile Char.isDigit)
    | _ => ([], rest)
  if whole = [] ∧ frac = [] then none
  else
    (parseExponent rest).map fun (e : Int) =>
      (Nat.ofDigitChars 10 (whole ++ frac) 0 : ℚ) * (10 : ℚ) ^ (e - (frac.length : Int))

def floatLimit : ℚ := 2 ^ 1024 - 2 ^ 970

/-- `float(text)`; nothing for a `ValueError`. -/
def parseFloat (text : String) : Option PyFloat := do
  let chars ← numeral text
  let (negative, literal) := splitSign chars
  let name := String.ofList (literal.map Char.toLower)
  if name = "inf" ∨ name = "infinity" then some (.infinite negative)
  else if name = "nan" then some .nan
  else
    (parseDecimal literal).map fun q =>
      if floatLimit ≤ q then .infinite negative else .finite (nearestDouble (if negative then -q else q))

/-! ## `_coerce_to_int` -/

/-- `round` of an infinity. -/
def overflowError : PyErr := ⟨.other, "cannot convert float infinity to integer"⟩

/-- `_coerce_to_int`. A text that is no number gives nothing, as does NaN; an infinity raises. -/
def coerceToInt : PyValue → Except PyErr (Option Int)
  | .none => .ok none
  | .bool b => .ok (some (if b then 1 else 0))
  | .int n => .ok (some n)
  | .float q => .ok (some (roundHalfEven q))
  | .str s =>
    match parseFloat s with
    | some (.finite q) => .ok (some (roundHalfEven q))
    | some (.infinite _) => .error overflowError
    | some .nan => .ok none
    | none => .ok none

/-- `int(value)` of a metadata value; nothing for a `TypeError` or a `ValueError`. -/
def intOf : PyValue → Option Int
  | .none => none
  | .bool b => some (if b then 1 else 0)
  | .int n => some n
  | .float q => some (if 0 ≤ q then ⌊q⌋ else ⌈q⌉)
  | .str s => parseInt s

theorem roundHalfEven_intCast (n : Int) : roundHalfEven (n : ℚ) = n := by
  simp [roundHalfEven]

end Gatewayz
