import CommandBot.Json.Token
import CommandBot.Number.Decimal

/-!
# Decimal digits

The digits that a natural number is written with are read back to it, and they are what may stand
before the point of a JSON number: no leading zero unless it is the only digit.
-/

namespace CommandBot

namespace Number

theorem digit?_of_isDigit {c : Char} (h : c.isDigit = true) :
    digit? c = some (c.toNat - '0'.toNat) := by
  have hrange : '0' ≤ c ∧ c ≤ '9' := by
    simpa [Char.isDigit, Char.le_def] using h
  rw [digit?, if_pos hrange]

theorem digitsFrom?_eq_ofDigitChars (acc : Nat) {digits : List Char}
    (h : ∀ c ∈ digits, c.isDigit = true) :
    digitsFrom? acc digits = some (Nat.ofDigitChars 10 digits acc) := by
  induction digits generalizing acc with
  | nil => rfl
  | cons c digits ih =>
      rw [digitsFrom?, digit?_of_isDigit (h c List.mem_cons_self), Option.bind_some,
        ih _ fun d hd => h d (List.mem_cons_of_mem _ hd), Nat.ofDigitChars_cons]

theorem isDigit_of_mem_toDigits {n : Nat} {c : Char} (h : c ∈ Nat.toDigits 10 n) :
    c.isDigit = true :=
  Nat.isDigit_of_mem_toDigits (by decide) (by decide) h

theorem digitsValue_toDigits (n : Nat) : Binary64.digitsValue (Nat.toDigits 10 n) = n := by
  rw [Binary64.digitsValue, digitsFrom?_eq_ofDigitChars 0 fun c => isDigit_of_mem_toDigits,
    Nat.ofDigitChars_ten_toDigits]
  rfl

theorem head?_toDigits_ne_zero {n : Nat} (h : 0 < n) :
    (Nat.toDigits 10 n).head? ≠ some '0' := by
  induction n using Nat.strongRecOn with
  | ind n ih =>
      by_cases hlt : n < 10
      · rw [Nat.toDigits_of_lt_base hlt]
        intro hzero
        have hchar := Nat.toNat_digitChar_of_lt_ten hlt
        rw [Option.some.inj hzero] at hchar
        have hvalue : '0'.toNat = 48 := rfl
        omega
      · have hsmaller := ih (n / 10) (by omega) (by omega)
        rw [Nat.toDigits_of_base_le (by decide) (Nat.not_lt.1 hlt)]
        cases hdigits : Nat.toDigits 10 (n / 10) with
        | nil => exact absurd hdigits Nat.toDigits_ne_nil
        | cons c rest =>
            rw [hdigits] at hsmaller
            exact hsmaller

end Number

namespace Json

theorem isWhole_of_head?_ne_zero {digits : List Char} (hne : digits ≠ [])
    (hdigits : ∀ c ∈ digits, c.isDigit = true) (hhead : digits.head? ≠ some '0') :
    isWhole digits = true := by
  cases digits with
  | nil => exact absurd rfl hne
  | cons c rest =>
      have hc : c ≠ '0' := fun heq => hhead (by rw [heq]; rfl)
      unfold isWhole
      split
      · rename_i h
        cases h
      · rfl
      · rename_i h
        obtain ⟨rfl, rfl⟩ := List.cons.inj h
        have hrest := fun d hd => hdigits d (List.mem_cons_of_mem _ hd)
        simp [hdigits c List.mem_cons_self, hc, List.all_eq_true.2 hrest]

theorem isWhole_toDigits (n : Nat) : isWhole (Nat.toDigits 10 n) = true := by
  rcases Nat.eq_zero_or_pos n with rfl | hpos
  · rfl
  · exact isWhole_of_head?_ne_zero Nat.toDigits_ne_nil
      (fun c => Number.isDigit_of_mem_toDigits) (Number.head?_toDigits_ne_zero hpos)

end Json

end CommandBot
