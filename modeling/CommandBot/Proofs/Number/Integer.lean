import CommandBot.Proofs.Commands
import CommandBot.Proofs.Number.Digits

/-!
# Whole numbers as they are written

`Denotes` says which texts are whole numbers: a sign or none, then one or more digits `0` to `9`,
with as many zeros in front as one likes. A word is read as the number that it denotes, if that fits
the range, and else it is no number (`readSigned?_eq_some_iff`); where numbers have no sign a word
with a minus is none either, not even `-0` (`readUnsigned?_eq_some_iff`). A number that is written
in digits is read back (`isSigned_toString`), also with two digits for one (`areDigits_twoDigits`).
-/

namespace CommandBot.Number

/-- One or more digits `0` to `9`, of the value `n`. -/
def AreDigits (text : List Char) (n : Nat) : Prop :=
  text ≠ [] ∧ (∀ c ∈ text, c.isDigit = true) ∧ Nat.ofDigitChars 10 text 0 = n

/-- The text is a whole number, written with a sign or without. -/
inductive Denotes : List Char → Int → Prop
  | unsigned {digits : List Char} {n : Nat} (h : AreDigits digits n) : Denotes digits n
  | plus {digits : List Char} {n : Nat} (h : AreDigits digits n) : Denotes ('+' :: digits) n
  | minus {digits : List Char} {n : Nat} (h : AreDigits digits n) : Denotes ('-' :: digits) (-n)

/-- The word is a whole number in the range of a signed number of `bits` bits. -/
def IsSigned (bits : Nat) (word : String) (n : Int) : Prop :=
  Denotes word.toList n ∧ -(twoPow (bits - 1) : Int) ≤ n ∧ n < twoPow (bits - 1)

/-- The word is a whole number without a minus, in the range of an unsigned number of `bits` bits. -/
def IsUnsigned (bits : Nat) (word : String) (n : Nat) : Prop :=
  Denotes word.toList n ∧ word.toList.head? ≠ some '-' ∧ n < twoPow bits

theorem isDigit_of_digit? {c : Char} {d : Nat} (h : digit? c = some d) : c.isDigit = true := by
  unfold digit? at h
  split at h
  · rename_i hrange
    simpa [Char.isDigit, Char.le_def] using hrange
  · cases h

theorem isDigit_of_digitsFrom? {acc n : Nat} {text : List Char}
    (h : digitsFrom? acc text = some n) : ∀ c ∈ text, c.isDigit = true := by
  induction text generalizing acc with
  | nil => exact fun c hc => absurd hc List.not_mem_nil
  | cons c rest ih =>
      rw [digitsFrom?_cons] at h
      obtain ⟨d, hd, hrest⟩ := Option.bind_eq_some_iff.1 h
      exact List.forall_mem_cons.2 ⟨isDigit_of_digit? hd, ih hrest⟩

theorem digits?_eq_some_iff {text : List Char} {n : Nat} :
    digits? text = some n ↔ AreDigits text n := by
  cases text with
  | nil => simp [AreDigits]
  | cons c rest =>
      have hread : digits? (c :: rest) = digitsFrom? 0 (c :: rest) := rfl
      rw [hread]
      constructor
      · intro h
        have hdigits := isDigit_of_digitsFrom? h
        rw [digitsFrom?_eq_ofDigitChars 0 hdigits] at h
        exact ⟨List.cons_ne_nil _ _, hdigits, Option.some.inj h⟩
      · rintro ⟨-, hdigits, hvalue⟩
        rw [digitsFrom?_eq_ofDigitChars 0 hdigits, hvalue]

theorem AreDigits.head_ne {c : Char} {rest : List Char} {n : Nat} (h : AreDigits (c :: rest) n) :
    c ≠ '+' ∧ c ≠ '-' := by
  have hc := h.2.1 c List.mem_cons_self
  constructor
  · rintro rfl
    exact absurd hc (by decide)
  · rintro rfl
    exact absurd hc (by decide)

theorem integer?_of_areDigits {text : List Char} {n : Nat} (h : AreDigits text n) :
    integer? true text = some (n : Int) := by
  have hread : integer? true text = (digits? text).map Int.ofNat := by
    unfold integer?
    split
    · exact absurd rfl h.head_ne.1
    · exact absurd rfl h.head_ne.2
    · rfl
  rw [hread, digits?_eq_some_iff.2 h]
  rfl

theorem integer?_eq_some_iff {text : List Char} {n : Int} :
    integer? true text = some n ↔ Denotes text n := by
  constructor
  · intro h
    unfold integer? at h
    split at h
    · obtain ⟨m, hm, rfl⟩ := Option.map_eq_some_iff.1 h
      exact .plus (digits?_eq_some_iff.1 hm)
    · rw [if_pos rfl] at h
      obtain ⟨m, hm, rfl⟩ := Option.map_eq_some_iff.1 h
      exact .minus (digits?_eq_some_iff.1 hm)
    · obtain ⟨m, hm, rfl⟩ := Option.map_eq_some_iff.1 h
      exact .unsigned (digits?_eq_some_iff.1 hm)
  · intro h
    cases h with
    | unsigned h => exact integer?_of_areDigits h
    | plus h =>
        rw [integer?, digits?_eq_some_iff.2 h]
        rfl
    | minus h =>
        rw [integer?, if_pos rfl, digits?_eq_some_iff.2 h]
        rfl

/-- A word is read as the number that it denotes, if that is in the range. -/
theorem readSigned?_eq_some_iff {bits : Nat} {word : String} {n : Int} :
    readSigned? bits word = some n ↔ IsSigned bits word n := by
  rw [readSigned?, Option.filter_eq_some_iff, integer?_eq_some_iff, fitsSigned_iff, IsSigned]

theorem readSigned?_eq_none_iff {bits : Nat} {word : String} :
    readSigned? bits word = none ↔ ∀ n, ¬ IsSigned bits word n := by
  rw [Option.eq_none_iff_forall_ne_some]
  exact forall_congr' fun n => not_congr readSigned?_eq_some_iff

/-- Without signs a minus makes a text no number, and nothing else is read differently. -/
theorem integer?_false (text : List Char) :
    integer? false text = if text.head? = some '-' then none else integer? true text := by
  cases text with
  | nil => rfl
  | cons c rest =>
      by_cases hc : c = '-'
      · subst hc
        rfl
      · rw [List.head?_cons, if_neg fun heq => hc (Option.some.inj heq)]
        unfold integer?
        split
        · rfl
        · rename_i h
          exact absurd (List.cons.inj h).1 hc
        · rfl

/-- A word is read as a number without sign if it is one in the range, written without a minus. -/
theorem readUnsigned?_eq_some_iff {bits : Nat} {word : String} {n : Nat} :
    readUnsigned? bits word = some n ↔ IsUnsigned bits word n := by
  rw [readUnsigned?, integer?_false, Option.map_eq_some_iff, IsUnsigned]
  by_cases hminus : word.toList.head? = some '-'
  · simp [hminus]
  · simp only [if_neg hminus, Option.filter_eq_some_iff, integer?_eq_some_iff, fitsUnsigned,
      Bool.and_eq_true, decide_eq_true_eq]
    constructor
    · rintro ⟨m, ⟨hword, hpos, hlt⟩, rfl⟩
      obtain ⟨k, rfl⟩ := Int.eq_ofNat_of_zero_le hpos
      exact ⟨hword, hminus, Int.ofNat_lt.1 hlt⟩
    · rintro ⟨hword, -, hlt⟩
      exact ⟨n, ⟨hword, Int.natCast_nonneg n, Int.ofNat_lt.2 hlt⟩, Int.toNat_natCast n⟩

theorem readUnsigned?_eq_none_iff {bits : Nat} {word : String} :
    readUnsigned? bits word = none ↔ ∀ n, ¬ IsUnsigned bits word n := by
  rw [Option.eq_none_iff_forall_ne_some]
  exact forall_congr' fun n => not_congr readUnsigned?_eq_some_iff

theorem areDigits_toDigits (n : Nat) : AreDigits (Nat.toDigits 10 n) n :=
  ⟨Nat.toDigits_ne_nil, fun _ => isDigit_of_mem_toDigits, Nat.ofDigitChars_ten_toDigits⟩

/-- A number that is written in digits is read back. -/
theorem isSigned_toString {bits n : Nat} (h : n < twoPow (bits - 1)) :
    IsSigned bits (toString n) n := by
  refine ⟨?_, ?_, Int.ofNat_lt.2 h⟩
  · rw [Nat.toString_eq_ofList_toDigits, String.toList_ofList]
    exact .unsigned (areDigits_toDigits n)
  · omega

/-! ### Two digits -/

theorem toList_twoDigits {n : Nat} (h : n < 100) :
    (twoDigits n).toList = [Nat.digitChar (n / 10), Nat.digitChar (n % 10)] := by
  unfold twoDigits
  split
  · rename_i hlt
    rw [String.toList_append, Nat.toString_eq_ofList_toDigits, Nat.toDigits_of_lt_base hlt,
      Nat.div_eq_of_lt hlt, Nat.mod_eq_of_lt hlt, String.toList_ofList, String.toList_ofList]
    rfl
  · rename_i hle
    rw [Nat.toString_eq_ofList_toDigits, String.toList_ofList,
      Nat.toDigits_of_base_le (by decide) (Nat.not_lt.1 hle),
      Nat.toDigits_of_lt_base (Nat.div_lt_of_lt_mul h)]
    rfl

theorem length_twoDigits {n : Nat} (h : n < 100) : (twoDigits n).toList.length = 2 := by
  rw [toList_twoDigits h]
  rfl

theorem areDigits_twoDigits {n : Nat} (h : n < 100) : AreDigits (twoDigits n).toList n := by
  have hten : n / 10 < 10 := Nat.div_lt_of_lt_mul h
  have hone : n % 10 < 10 := Nat.mod_lt _ (by decide)
  rw [toList_twoDigits h]
  refine ⟨List.cons_ne_nil _ _, ?_, ?_⟩
  · simp [Nat.isDigit_digitChar, hten, hone]
  · rw [Nat.ofDigitChars_cons_digitChar_of_lt_ten hten,
      Nat.ofDigitChars_cons_digitChar_of_lt_ten hone, Nat.ofDigitChars_nil]
    omega

end CommandBot.Number
