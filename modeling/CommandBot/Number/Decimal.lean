import CommandBot.Number.Binary64
import CommandBot.Number.Integer

/-!
# Decimal texts of floating-point numbers

`Binary64.read?` reads a decimal text to the nearest number. Two texts are written from a number:
`fixedTwo`, with two places after the point, rounded from the exact value with halves to even; and
`shortest`, with the fewest digits that read back as the number.
-/

namespace CommandBot.Binary64

/-- The digits at the start of a text, and the rest of it. -/
def spanDigits (text : List Char) : List Char × List Char :=
  (text.takeWhile Char.isDigit, text.dropWhile Char.isDigit)

/-- The value of a string of digits; of none it is zero. -/
def digitsValue (digits : List Char) : Nat := (Number.digitsFrom? 0 digits).getD 0

/-- Reads the exponent that may end a decimal text: `e` or `E`, a sign if any, and digits. -/
def readExponent? : List Char → Option Int
  | [] => some 0
  | c :: rest =>
      if c = 'e' ∨ c = 'E' then
        match rest with
        | '-' :: digits => (Number.digits? digits).map fun n => -Int.ofNat n
        | '+' :: digits => (Number.digits? digits).map Int.ofNat
        | digits => (Number.digits? digits).map Int.ofNat
      else none

/-- Reads a decimal text without sign: digits, of which some may stand after a point, and an
exponent if any. -/
def readMagnitude? (negative : Bool) (text : List Char) : Option Binary64 :=
  let (whole, rest) := spanDigits text
  let (fraction, rest) := match rest with
    | '.' :: rest => spanDigits rest
    | rest => ([], rest)
  if whole.isEmpty && fraction.isEmpty then none
  else (readExponent? rest).map fun e =>
    ofDecimal negative (digitsValue (whole ++ fraction)) (e - fraction.length)

/-- Reads a text without sign; the words for infinity and NaN are taken in any letter case. -/
def readUnsigned? (negative : Bool) (text : List Char) : Option Binary64 :=
  let word := text.map Char.toLower
  if word = ['i', 'n', 'f'] ∨ word = ['i', 'n', 'f', 'i', 'n', 'i', 't', 'y'] then
    some (infinity negative)
  else if word = ['n', 'a', 'n'] then some (nan negative)
  else readMagnitude? negative text

/-- Reads a decimal text as the number nearest to it. -/
def read? (text : String) : Option Binary64 :=
  match text.toList with
  | '-' :: rest => readUnsigned? true rest
  | '+' :: rest => readUnsigned? false rest
  | rest => readUnsigned? false rest

/-- The sign of a number as it is written. -/
def signText (x : Binary64) : String := if x.negative then "-" else ""

/-- A number with two places after the point. -/
def fixedTwo (x : Binary64) : String :=
  if x.isNaN then "NaN"
  else if x.isInfinite then x.signText ++ "inf"
  else
    let (num, den) := x.toRatio
    let hundredths := roundHalfEven (num * 100) den
    x.signText ++ toString (hundredths / 100) ++ "." ++ Number.twoDigits (hundredths % 100)

/-- A ratio divided by `10 ^ k`. -/
def dropTens (num den : Nat) (k : Int) : Nat × Nat :=
  if 0 ≤ k then (num, den * Number.tenPow k.toNat) else (num * Number.tenPow (-k).toNat, den)

/-- The place of the first digit of `num / den`: the `k` with `10 ^ k ≤ num / den < 10 ^ (k + 1)`.
The binary length gives it up to two places. -/
def leadingPlace (num den : Nat) : Int :=
  let guess := (((num.log2 : Int) - den.log2 - 1) * 30103).fdiv 100000
  let reaches (k : Int) : Bool :=
    let (n, d) := dropTens num den k
    d ≤ n
  if reaches (guess + 2) then guess + 2 else if reaches (guess + 1) then guess + 1 else guess

/-- The gap between a number and the halfway points below and above it, as a ratio over four
times the denominator of the number. Below a power of two the numbers lie twice as dense. -/
def halfGaps (x : Binary64) : Nat × Nat :=
  let (num, _) := x.toRatio
  let unit := if 0 ≤ x.exponent then num / x.significand else 1
  (if x.significand = Number.twoPow 52 ∧ Number.twoPow 53 ≤ x.magnitude then unit else 2 * unit, 2 * unit)

/-- The whole multiple of `10 ^ k` nearest to the number among those that read back as it, if
there is one. -/
def gridPoint? (x : Binary64) (k : Int) : Option Nat :=
  let (num, den) := x.toRatio
  let (below, above) := x.halfGaps
  let even := x.significand % 2 = 0
  let (n, d) := dropTens num den k
  let (scale, _) := dropTens 1 1 k
  let reads (q : Nat) : Bool :=
    let point := 4 * q * d
    let low := 4 * n - below * scale
    let high := 4 * n + above * scale
    if even then low ≤ point ∧ point ≤ high else low < point ∧ point < high
  let q := n / d
  let nearest := roundHalfEven n d
  let other := if nearest = q then q + 1 else q
  if reads nearest then some nearest
  else if reads other then some other
  else none

/-- The first grid, from coarse to fine, on which a point reads back as the number. The coarsest
of them lies one place above the first digit, the finest sixteen places below it. -/
def firstGrid (x : Binary64) (place : Int) : (count : Nat) → Nat × Int
  | 0 => (0, 0)
  | count + 1 =>
      let k := place + count - 16
      match gridPoint? x k with
      | some q => (q, k)
      | none => firstGrid x place count

/-- The digits and the power of ten of the shortest decimal that reads back as the number. -/
def shortest (x : Binary64) : Nat × Int :=
  let (num, den) := x.toRatio
  if num = 0 then (0, 0) else firstGrid x (leadingPlace num den) 18

def zeros (n : Nat) : String := String.ofList (List.replicate n '0')

/-- An exponent after its letter: the sign is always written. -/
def exponentText (e : Int) : String := (if e < 0 then "e-" else "e+") ++ toString e.natAbs

/-- The shortest decimal of a finite number. It has a point while the first digit stands at most
sixteen places before and five places after the point, and an exponent otherwise. -/
def text (x : Binary64) : String :=
  let (mantissa, power) := x.shortest
  let digits := Nat.toDigits 10 mantissa
  let point : Int := digits.length + power
  x.signText ++
    if mantissa = 0 then "0.0"
    else if 0 ≤ power ∧ point ≤ 16 then
      String.ofList digits ++ zeros power.toNat ++ ".0"
    else if 0 < point ∧ point ≤ 16 then
      String.ofList (digits.take point.toNat) ++ "." ++ String.ofList (digits.drop point.toNat)
    else if -5 < point ∧ point ≤ 0 then
      "0." ++ zeros (-point).toNat ++ String.ofList digits
    else
      let fraction := String.ofList (digits.drop 1)
      String.ofList (digits.take 1) ++ (if fraction.isEmpty then "" else "." ++ fraction)
        ++ exponentText (point - 1)

end CommandBot.Binary64
