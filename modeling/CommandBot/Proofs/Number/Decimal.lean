import CommandBot.Proofs.Number.Integer
import Mathlib.Algebra.Field.Rat
import Mathlib.Data.List.DropRight
import Mathlib.Tactic.FieldSimp

/-!
# Decimal numbers as they are written

A `Decimal` is a rational number in one way of writing it: a minus or none, one or more digits, and
further digits after a point, which is left out if there are none. A text is written in at most one
such way (`text_injective`), so that it denotes one rational number at most
(`denotesRational_text_iff`). Zeros at the end of the places add nothing to the number
(`IsShortenedTo.value_eq`), and each number can be written without them
(`isShortenedTo_dropZeros`).
-/

namespace CommandBot.Number

/-- A sign, the digits before the point, of which there is at least one, and the places after it. -/
structure Decimal where
  negative : Bool
  whole : List Char
  places : List Char
  whole_ne_nil : whole ≠ []
  isDigit_whole : ∀ c ∈ whole, c.isDigit = true
  isDigit_places : ∀ c ∈ places, c.isDigit = true

namespace Decimal

/-- What is written before the point. -/
def front (d : Decimal) : List Char := if d.negative then '-' :: d.whole else d.whole

/-- Places as they are written after a point. Without places there is no point. -/
def pointed (places : List Char) : List Char := if places = [] then [] else '.' :: places

def text (d : Decimal) : List Char := d.front ++ pointed d.places

/-- The number that all digits make up, over the power of ten of the places. -/
def absValue (d : Decimal) : ℚ :=
  Nat.ofDigitChars 10 (d.whole ++ d.places) 0 / 10 ^ d.places.length

def value (d : Decimal) : ℚ := if d.negative then -d.absValue else d.absValue

/-- The same digits, less all the zeros at the end of the places. -/
structure IsShortenedTo (d shown : Decimal) : Prop where
  negative_eq : shown.negative = d.negative
  whole_eq : shown.whole = d.whole
  places_eq : ∃ zeros, d.places = shown.places ++ List.replicate zeros '0'
  getLast?_ne : shown.places.getLast? ≠ some '0'

/-! ### The text of a number -/

@[simp] theorem pointed_nil : pointed [] = [] := rfl

theorem pointed_of_ne_nil {places : List Char} (h : places ≠ []) :
    pointed places = '.' :: places := if_neg h

theorem pointed_injective : Function.Injective pointed := by
  intro places other h
  unfold pointed at h
  split at h <;> split at h
  · rename_i hplaces hother
    rw [hplaces, hother]
  · cases h
  · cases h
  · exact (List.cons.inj h).2

theorem point_not_mem_front (d : Decimal) : '.' ∉ d.front := by
  have hwhole : '.' ∉ d.whole := fun h => absurd (d.isDigit_whole '.' h) (by decide)
  unfold front
  split
  · exact List.not_mem_cons_of_ne_of_not_mem (by decide) hwhole
  · exact hwhole

theorem getLast?_front (d : Decimal) : ∃ c, d.front.getLast? = some c ∧ c.isDigit = true := by
  refine ⟨d.whole.getLast d.whole_ne_nil, ?_, d.isDigit_whole _ (List.getLast_mem _)⟩
  unfold front
  split
  · rw [List.getLast?_cons, List.getLast?_eq_some_getLast d.whole_ne_nil]
    rfl
  · exact List.getLast?_eq_some_getLast d.whole_ne_nil

theorem minus_not_mem_whole (d : Decimal) : '-' ∉ d.whole :=
  fun h => absurd (d.isDigit_whole '-' h) (by decide)

theorem front_inj {d e : Decimal} (h : d.front = e.front) :
    d.negative = e.negative ∧ d.whole = e.whole := by
  unfold front at h
  split at h <;> split at h
  · rename_i hd he
    exact ⟨hd.trans he.symm, (List.cons.inj h).2⟩
  · exact absurd (h ▸ List.mem_cons_self) e.minus_not_mem_whole
  · exact absurd (h ▸ List.mem_cons_self) d.minus_not_mem_whole
  · rename_i hd he
    rw [Bool.not_eq_true] at hd he
    exact ⟨hd.trans he.symm, h⟩

theorem takeWhile_text (d : Decimal) : d.text.takeWhile (· != '.') = d.front := by
  have hfront : ∀ c ∈ d.front, (c != '.') = true := fun c hc =>
    bne_iff_ne.2 fun heq => d.point_not_mem_front (heq ▸ hc)
  rw [text, List.takeWhile_append_of_pos hfront]
  unfold pointed
  split <;> simp

/-- A text can be written as a decimal number in one way only. -/
theorem text_injective : Function.Injective text := by
  intro d e h
  have hfront : d.front = e.front := by rw [← takeWhile_text, h, takeWhile_text]
  obtain ⟨hnegative, hwhole⟩ := front_inj hfront
  rw [text, text, hfront] at h
  have hplaces := pointed_injective (List.append_cancel_left h)
  cases d
  cases e
  congr

end Decimal

/-- The text is a decimal number, and the rational number is its value. -/
def DenotesRational (text : List Char) (q : ℚ) : Prop := ∃ d : Decimal, d.text = text ∧ d.value = q

theorem denotesRational_text_iff {d : Decimal} {q : ℚ} :
    DenotesRational d.text q ↔ q = d.value := by
  constructor
  · rintro ⟨e, htext, rfl⟩
    rw [Decimal.text_injective htext]
  · rintro rfl
    exact ⟨d, rfl, rfl⟩

namespace Decimal

/-! ### Zeros at the end of the places -/

theorem IsShortenedTo.value_eq {d shown : Decimal} (h : d.IsShortenedTo shown) :
    shown.value = d.value := by
  obtain ⟨zeros, hplaces⟩ := h.places_eq
  have habs : shown.absValue = d.absValue := by
    have hdigits : Nat.ofDigitChars 10 (d.whole ++ d.places) 0 =
        10 ^ zeros * Nat.ofDigitChars 10 (shown.whole ++ shown.places) 0 := by
      rw [hplaces, ← h.whole_eq, ← List.append_assoc, Nat.ofDigitChars_append,
        Nat.ofDigitChars_replicate_zero]
    rw [absValue, absValue, hdigits, hplaces, List.length_append, List.length_replicate, pow_add]
    push_cast
    field_simp
  rw [value, value, h.negative_eq, habs]

/-- The number without the zeros at the end of its places. -/
def dropZeros (d : Decimal) : Decimal where
  negative := d.negative
  whole := d.whole
  places := d.places.rdropWhile (· == '0')
  whole_ne_nil := d.whole_ne_nil
  isDigit_whole := d.isDigit_whole
  isDigit_places := fun c hc => d.isDigit_places c ((List.rdropWhile_prefix _ _).subset hc)

theorem isShortenedTo_dropZeros (d : Decimal) : d.IsShortenedTo d.dropZeros where
  negative_eq := rfl
  whole_eq := rfl
  places_eq := by
    have hzero : ∀ c ∈ d.places.rtakeWhile (· == '0'), c = '0' := fun c hc =>
      beq_iff_eq.1 (List.mem_rtakeWhile_imp (p := (· == '0')) hc)
    refine ⟨(d.places.rtakeWhile (· == '0')).length, ?_⟩
    rw [← List.eq_replicate_iff.2 ⟨rfl, hzero⟩]
    exact List.rdropWhile_append_rtakeWhile.symm
  getLast?_ne hlast := by
    obtain ⟨hne, hzero⟩ := List.mem_getLast?_eq_getLast hlast
    exact List.rdropWhile_last_not _ _ hne (beq_iff_eq.2 hzero.symm)

end Decimal

end CommandBot.Number
