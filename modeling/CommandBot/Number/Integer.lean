import CommandBot.Number.Power

/-!
# Whole numbers in words of a chat line

A whole number is written as an optional sign and one or more digits `0` to `9`, nothing else. It
is read into a fixed range, and a text that denotes a number outside of it is no number at all.
-/

namespace CommandBot.Number

/-- The value of a digit `0` to `9`. -/
def digit? (c : Char) : Option Nat :=
  if '0' ≤ c ∧ c ≤ '9' then some (c.toNat - '0'.toNat) else none

/-- The value of a digit string that follows digits of value `acc`. -/
def digitsFrom? (acc : Nat) : List Char → Option Nat
  | [] => some acc
  | c :: rest => (digit? c).bind fun d => digitsFrom? (10 * acc + d) rest

/-- The value of one or more digits. -/
def digits? : List Char → Option Nat
  | [] => none
  | c :: rest => digitsFrom? 0 (c :: rest)

/-- Reads a number without regard to its size; a `-` is taken only if `signed` holds. -/
def integer? (signed : Bool) : List Char → Option Int
  | '+' :: rest => (digits? rest).map Int.ofNat
  | '-' :: rest => if signed then (digits? rest).map fun n => -Int.ofNat n else none
  | text => (digits? text).map Int.ofNat

/-- The range of a signed number of `bits` bits. -/
def fitsSigned (bits : Nat) (n : Int) : Bool := -(twoPow (bits - 1) : Int) ≤ n && n < twoPow (bits - 1)

/-- The range of an unsigned number of `bits` bits. -/
def fitsUnsigned (bits : Nat) (n : Int) : Bool := 0 ≤ n && n < twoPow bits

/-- Reads a signed number of `bits` bits. -/
def readSigned? (bits : Nat) (text : String) : Option Int :=
  (integer? true text.toList).filter (fitsSigned bits)

/-- Reads an unsigned number of `bits` bits. -/
def readUnsigned? (bits : Nat) (text : String) : Option Nat :=
  ((integer? false text.toList).filter (fitsUnsigned bits)).map Int.toNat

/-- A number below 100 as two digits. -/
def twoDigits (n : Nat) : String :=
  if n < 10 then "0" ++ toString n else toString n

@[simp] theorem digitsFrom?_nil (acc : Nat) : digitsFrom? acc [] = some acc := rfl

theorem digitsFrom?_cons (acc : Nat) (c : Char) (rest : List Char) :
    digitsFrom? acc (c :: rest) = (digit? c).bind fun d => digitsFrom? (10 * acc + d) rest := rfl

@[simp] theorem digits?_nil : digits? [] = none := rfl

end CommandBot.Number
