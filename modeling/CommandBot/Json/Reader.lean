import CommandBot.Json.Basic
import CommandBot.Json.Raw
import CommandBot.Number.Decimal

/-!
# The meaning of a JSON text

`Raw.toJson?` gives a shape its value. A whole number of 64 bits stays an integer; every other
number is floating-point. Escaped halves of a character have to stand in pairs. Of several members
with one key the last counts, and nesting beyond a given depth is refused, as is a number beyond
the range of floating point. An object may stand for a value that is written in a string
(`embeddingKey`).
-/

namespace CommandBot.Json

/-- The first half of a character beyond the basic plane. -/
def isHighHalf (code : Nat) : Bool := 0xD800 ≤ code && code < 0xDC00

/-- The second half of a character beyond the basic plane. -/
def isLowHalf (code : Nat) : Bool := 0xDC00 ≤ code && code < 0xE000

/-- The characters of a string, if all halves stand in pairs. -/
def characters? : List StringPart → Option (List Char)
  | [] => some []
  | .char c :: rest => (characters? rest).map (c :: ·)
  | .unit code :: rest =>
      if isHighHalf code then
        match rest with
        | .unit low :: rest =>
            if isLowHalf low then
              (characters? rest).map
                (Char.ofNat (0x10000 + (code - 0xD800) * 0x400 + (low - 0xDC00)) :: ·)
            else none
        | _ => none
      else if isLowHalf code then none
      else (characters? rest).map (Char.ofNat code :: ·)

/-- The string that is written. -/
def stringOf? (parts : List StringPart) : Option String := (characters? parts).map String.ofList

/-- Takes digits into a significand for as long as it has 64 bits, and counts those left over. -/
def gather (significand : Nat) : List Char → Nat × Nat
  | [] => (significand, 0)
  | c :: rest =>
      let more := 10 * significand + (c.toNat - 48)
      if more < Number.twoPow 64 then gather more rest else (significand, rest.length + 1)

/-- The ratio of two exact ratios, rounded. -/
def roundedRatio (a b : Nat × Nat) : Binary64 := Binary64.ofRatio false (a.1 * b.2) (a.2 * b.1)

/-- A power of ten, rounded. -/
def powerOfTen (n : Nat) : Binary64 := Binary64.ofRatio false (Number.tenPow n) 1

/-- Scales a number by a power of ten, with one rounding for each factor of at most `10 ^ 308`.
Nothing comes of a number beyond the range. -/
def scaleByTen? (x : Binary64) (exponent : Int) : (fuel : Nat) → Option Binary64
  | 0 => some Binary64.zero
  | fuel + 1 =>
      if 0 ≤ exponent ∧ exponent ≤ 308 then
        let (num, den) := (powerOfTen exponent.toNat).toRatio
        let y := roundedRatio x.toRatio (den, num)
        if y.isInfinite then none else some y
      else if -308 ≤ exponent ∧ exponent < 0 then
        some (roundedRatio x.toRatio (powerOfTen (-exponent).toNat).toRatio)
      else if x = Binary64.zero then some x
      else if 0 ≤ exponent then none
      else scaleByTen? (roundedRatio x.toRatio (powerOfTen 308).toRatio) (exponent + 308) fuel

/-- The exponent that is written, or zero. -/
def NumberText.power (text : NumberText) : Int :=
  match text.exponent with
  | some (true, digits) => -(Binary64.digitsValue digits : Int)
  | some (false, digits) => Binary64.digitsValue digits
  | none => 0

/-- The floating-point number that is written. The significand is cut to 64 bits and rounded
before it is scaled; a scale below `10 ^ -308` is divided out in steps, of which no more than three
leave anything of the number. -/
def NumberText.float? (text : NumberText) : Option Binary64 :=
  let fraction := text.fraction.getD []
  let (whole, wholeLeft) := gather 0 text.whole
  let (significand, fractionLeft) := gather whole fraction
  let exponent := (wholeLeft : Int) - (fraction.length - fractionLeft : Nat) + text.power
  (scaleByTen? (Binary64.ofRatio false significand 1) exponent 4).map fun x =>
    Binary64.ofParts text.negative x.magnitude

/-- The number that is written: an integer if it is written as one and fits, where a minus before
a zero needs floating point. -/
def NumberText.value? (text : NumberText) : Option Json :=
  match text.fraction, text.exponent with
  | none, none =>
      let n := Binary64.digitsValue text.whole
      if !text.negative && n < Number.twoPow 64 then some (.integer n)
      else if text.negative && 0 < n && n ≤ Number.twoPow 63 then some (.integer (-n))
      else text.float?.map .float
  | _, _ => text.float?.map .float

/-- The key of an object that holds the text of a value and stands for that value. -/
def embeddingKey : String := "$serde_json::private::RawValue"

/-- The string that an object holds if it stands for a value that is written in a string. -/
def embedding? : List (List StringPart × Raw) → Option Raw
  | (key, item) :: _ => if stringOf? key = some embeddingKey then some item else none
  | [] => none

mutual

/-- The value of a shape in which at most `room` arrays and objects lie inside one another. The
values that are written in strings are read by `embedded`. -/
def Raw.toJson? (embedded : String → Option Json) (room : Nat) : Raw → Option Json
  | .null => some .null
  | .bool b => some (.bool b)
  | .number text => text.value?
  | .string parts => (stringOf? parts).map .string
  | .array items =>
      if room = 0 then none else (Raw.toItems? embedded (room - 1) items).map .array
  | .object members =>
      if room = 0 then none
      else
        match embedding? members with
        | some (.string parts) =>
            if members.length = 1 then (stringOf? parts).bind embedded else none
        | some _ => none
        | none => (Raw.toMembers? embedded (room - 1) [] members).map .object

/-- The values of a list of shapes. -/
def Raw.toItems? (embedded : String → Option Json) (room : Nat) : List Raw → Option (List Json)
  | [] => some []
  | item :: rest => do
      let value ← Raw.toJson? embedded room item
      let values ← Raw.toItems? embedded room rest
      some (value :: values)

/-- The members of an object, put in their places among those before them. -/
def Raw.toMembers? (embedded : String → Option Json) (room : Nat)
    (before : List (String × Json)) :
    List (List StringPart × Raw) → Option (List (String × Json))
  | [] => some before
  | (key, item) :: rest => do
      let key ← stringOf? key
      let value ← Raw.toJson? embedded room item
      Raw.toMembers? embedded room (insertEntry key value before) rest

end

/-- The greatest depth to which arrays and objects may be nested in a text. -/
def maxDepth : Nat := 127

/-- The value of a text in which at most `layers` texts lie inside one another. -/
def readLayers? : (layers : Nat) → (text : String) → Option Json
  | 0, _ => none
  | layers + 1, text =>
      (Raw.ofText? text).bind (Raw.toJson? (readLayers? layers) maxDepth)

/-- The value of a text. A text inside another one is shorter than it, so that no more texts lie
inside one another than the outermost has characters. -/
def read? (text : String) : Option Json := readLayers? (text.length + 1) text

/-- The value of a shape, where at most `room` arrays and objects lie inside one another. -/
def Raw.value? (room : Nat) (raw : Raw) : Option Json := raw.toJson? read? room

namespace Raw

/-- The text of a string, if the shape is one. -/
def string? : Raw → Option String
  | .string parts => stringOf? parts
  | _ => none

/-- The truth value, if the shape is one. -/
def bool? : Raw → Option Bool
  | .bool b => some b
  | _ => none

/-- The integer, if the shape is one. -/
def integer? : Raw → Option Int
  | .number text =>
      match text.value? with
      | some (.integer n) => some n
      | _ => none
  | _ => none

/-- The items, if the shape is an array. -/
def items? : Raw → Option (List Raw)
  | .array items => some items
  | _ => none

/-- Members with their keys read. -/
def readKeys? : List (List StringPart × Raw) → Option (List (String × Raw))
  | [] => some []
  | (key, item) :: rest => do
      let key ← stringOf? key
      let members ← readKeys? rest
      some ((key, item) :: members)

/-- The members in the order of the text, if the shape is an object. -/
def members? : Raw → Option (List (String × Raw))
  | .object members => readKeys? members
  | _ => none

/-- A map whose values are read by `f`; of several members with one key the last counts. -/
def mapOf? {α : Type} (f : Raw → Option α) (raw : Raw) : Option (KeyMap α) := do
  let members ← raw.members?
  let pairs ← members.mapM fun e => (f e.2).map fun value => (e.1, value)
  some (KeyMap.ofList pairs)

/-- The values of the named fields of a record. A record is an object in which no named field is
given twice and other members do not count, or an array of the fields in order, from which fields
may be missing at the end. -/
def fields? (names : List String) : Raw → Option (List (Option Raw))
  | .object members => do
      let members ← readKeys? members
      if names.all fun name => (members.filter fun e => e.1 == name).length ≤ 1 then
        some (names.map fun name => members.lookup name)
      else none
  | .array items =>
      if items.length ≤ names.length then
        some (items.map some ++ List.replicate (names.length - items.length) none)
      else none
  | _ => none

/-- A field that may be missing: then it has the value `default`, and else it is read by `f`. -/
def optional? {α : Type} (default : α) (f : Raw → Option α) : Option Raw → Option α
  | none => some default
  | some raw => f raw

/-- A field that has to be there. -/
def required? {α : Type} (f : Raw → Option α) : Option Raw → Option α
  | none => none
  | some raw => f raw

end Raw

end CommandBot.Json
