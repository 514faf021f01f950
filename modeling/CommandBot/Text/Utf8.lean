/-!
# Reading UTF-8

`lossy` reads bytes as UTF-8 and puts the replacement character where they are none. A character
that breaks off is replaced as a whole, and reading goes on at the byte that breaks it off.
-/

namespace CommandBot.Text

/-- A character that has been read in part: its code so far, how many bytes are missing, and the
range of the next of them. -/
structure PartialChar where
  code : Nat
  missing : Nat
  low : Nat
  high : Nat

/-- What the first byte of a character says about it. -/
def leadByte? (b : Nat) : Option PartialChar :=
  if b < 0xC2 then none
  else if b < 0xE0 then some ⟨b - 0xC0, 1, 0x80, 0xBF⟩
  else if b = 0xE0 then some ⟨0, 2, 0xA0, 0xBF⟩
  else if b = 0xED then some ⟨0xD, 2, 0x80, 0x9F⟩
  else if b < 0xF0 then some ⟨b - 0xE0, 2, 0x80, 0xBF⟩
  else if b = 0xF0 then some ⟨0, 3, 0x90, 0xBF⟩
  else if b < 0xF4 then some ⟨b - 0xF0, 3, 0x80, 0xBF⟩
  else if b = 0xF4 then some ⟨4, 3, 0x80, 0x8F⟩
  else none

def replacement : Char := Char.ofNat 0xFFFD

/-- A byte where a character may start: what is complete after it, and what is not. -/
def startByte (b : Nat) : List Char × Option PartialChar :=
  if b < 0x80 then ([Char.ofNat b], none)
  else
    match leadByte? b with
    | some p => ([], some p)
    | none => ([replacement], none)

/-- Reads bytes after a character that may have been read in part. -/
def lossyFrom : Option PartialChar → List UInt8 → List Char
  | none, [] => []
  | some _, [] => [replacement]
  | none, b :: rest =>
      let (done, open?) := startByte b.toNat
      done ++ lossyFrom open? rest
  | some p, b :: rest =>
      if p.low ≤ b.toNat ∧ b.toNat ≤ p.high then
        let code := 64 * p.code + b.toNat % 64
        if p.missing = 1 then Char.ofNat code :: lossyFrom none rest
        else lossyFrom (some ⟨code, p.missing - 1, 0x80, 0xBF⟩) rest
      else
        let (done, open?) := startByte b.toNat
        replacement :: done ++ lossyFrom open? rest

/-- The text of bytes, with replacements where they are no UTF-8. -/
def lossy (bytes : ByteArray) : String := String.ofList (lossyFrom none bytes.toList)

end CommandBot.Text
