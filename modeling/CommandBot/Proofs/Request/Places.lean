import CommandBot.Proofs.Number.Decimal
import CommandBot.Request.Message
import Mathlib.Tactic.NormNum

/-!
# Numbers without needless places

A rating or a tempo is shown with two places, from which the zeros at the end are dropped and then
the point, if nothing follows it. The zeros are dropped first, while the point still stands before
those of the digits ahead of it, so that the number stays what it is (`trimPlaces_text`). Infinity
and NaN are written as words and stay as they are.
-/

namespace CommandBot

namespace Binary64

/-- The number of hundredths that a finite number is rounded to, without its sign. -/
def hundredths (x : Binary64) : Nat := roundHalfEven (x.toRatio.1 * 100) x.toRatio.2

/-- A finite number with two places, as a decimal. -/
def twoPlaces (x : Binary64) : Number.Decimal where
  negative := x.negative
  whole := Nat.toDigits 10 (x.hundredths / 100)
  places := (Number.twoDigits (x.hundredths % 100)).toList
  whole_ne_nil := Nat.toDigits_ne_nil
  isDigit_whole := fun _ => Number.isDigit_of_mem_toDigits
  isDigit_places := (Number.areDigits_twoDigits (Nat.mod_lt _ (by decide))).2.1

theorem whole_twoPlaces (x : Binary64) :
    x.twoPlaces.whole = Nat.toDigits 10 (x.hundredths / 100) := rfl

theorem length_places_twoPlaces (x : Binary64) : x.twoPlaces.places.length = 2 :=
  Number.length_twoDigits (Nat.mod_lt x.hundredths (by decide))

theorem places_twoPlaces_ne_nil (x : Binary64) : x.twoPlaces.places ≠ [] :=
  (Number.areDigits_twoDigits (Nat.mod_lt x.hundredths (by decide))).1

theorem toList_fixedTwo {x : Binary64} (hnan : x.isNaN = false) (hinfinite : x.isInfinite = false) :
    x.fixedTwo.toList = x.twoPlaces.text := by
  have hfixed : x.fixedTwo = x.signText ++ toString (x.hundredths / 100) ++ "."
      ++ Number.twoDigits (x.hundredths % 100) := by
    rw [fixedTwo, hnan, hinfinite]
    rfl
  rw [hfixed, Nat.toString_eq_ofList_toDigits, Number.Decimal.text,
    Number.Decimal.pointed_of_ne_nil x.places_twoPlaces_ne_nil]
  cases hsign : x.negative <;>
    simp [signText, hsign, Number.Decimal.front, twoPlaces]

theorem value_twoPlaces (x : Binary64) :
    x.twoPlaces.value =
      if x.negative then -((x.hundredths : ℚ) / 100) else (x.hundredths : ℚ) / 100 := by
  have hplaces : Nat.ofDigitChars 10 x.twoPlaces.places 0 = x.hundredths % 100 :=
    (Number.areDigits_twoDigits (Nat.mod_lt _ (by decide))).2.2
  have hdigits : Nat.ofDigitChars 10 (x.twoPlaces.whole ++ x.twoPlaces.places) 0 =
      x.hundredths := by
    rw [Nat.ofDigitChars_append, whole_twoPlaces, Nat.ofDigitChars_ten_toDigits,
      Nat.ofDigitChars_eq_ofDigitChars_zero, length_places_twoPlaces, hplaces]
    omega
  have habs : x.twoPlaces.absValue = (x.hundredths : ℚ) / 100 := by
    rw [Number.Decimal.absValue, hdigits, length_places_twoPlaces]
    norm_num
  rw [Number.Decimal.value, habs]
  rfl

theorem point_not_mem_fixedTwo {x : Binary64} (h : x.isNaN = true ∨ x.isInfinite = true) :
    '.' ∉ x.fixedTwo.toList ∧ x.fixedTwo.toList.getLast? ≠ some '0' := by
  have hwords : x.fixedTwo = "NaN" ∨ x.fixedTwo = "-inf" ∨ x.fixedTwo = "inf" := by
    unfold fixedTwo signText
    rcases h with hnan | hinfinite
    · exact .inl (if_pos hnan)
    · rw [if_pos hinfinite]
      cases x.negative <;> split <;> simp
  rcases hwords with hword | hword | hword <;> rw [hword] <;> decide

end Binary64

namespace Request

/-! ### Dropping what is at the end -/

theorem dropTrailing_concat_self (c : Char) (text : List Char) :
    dropTrailing c (text ++ [c]) = dropTrailing c text :=
  List.rdropWhile_concat_pos (· == c) text c (beq_self_eq_true c)

theorem dropTrailing_concat_of_ne {c d : Char} (h : d ≠ c) (text : List Char) :
    dropTrailing c (text ++ [d]) = text ++ [d] :=
  List.rdropWhile_concat_neg (· == c) text d fun heq => h (beq_iff_eq.1 heq)

theorem dropTrailing_eq_self {c : Char} {text : List Char} (h : text.getLast? ≠ some c) :
    dropTrailing c text = text := by
  rcases List.eq_nil_or_concat' text with rfl | ⟨front, d, rfl⟩
  · rfl
  · rw [List.getLast?_concat] at h
    exact dropTrailing_concat_of_ne (fun heq => h (congrArg some heq)) front

/-- What is dropped from the end reaches back to another character at most. -/
theorem dropTrailing_append_cons {c d : Char} (h : d ≠ c) (front text : List Char) :
    dropTrailing c (front ++ d :: text) = front ++ d :: dropTrailing c text := by
  induction text using List.reverseRecOn with
  | nil => exact dropTrailing_concat_of_ne h front
  | append_singleton text last ih =>
      have hassoc : front ++ d :: (text ++ [last]) = (front ++ d :: text) ++ [last] := by simp
      rw [hassoc]
      by_cases hlast : last = c
      · rw [hlast, dropTrailing_concat_self, dropTrailing_concat_self, ih]
      · rw [dropTrailing_concat_of_ne hlast, dropTrailing_concat_of_ne hlast, hassoc]

theorem dropPoint_of_isDigit {c : Char} {text : List Char} (h : text.getLast? = some c)
    (hdigit : c.isDigit = true) : dropTrailing '.' text = text := by
  refine dropTrailing_eq_self fun hpoint => ?_
  obtain rfl := Option.some.inj (h.symm.trans hpoint)
  exact absurd hdigit (by decide)

theorem trimPlaces_eq_self {text : List Char} (hzero : text.getLast? ≠ some '0')
    (hpoint : '.' ∉ text) : trimPlaces text = text := by
  rw [trimPlaces, dropTrailing_eq_self hzero]
  exact dropTrailing_eq_self fun hlast => hpoint (List.mem_of_getLast? hlast)

/-- A number that is written with places loses the zeros at their end, and nothing else. -/
theorem trimPlaces_text {number : Number.Decimal} (h : number.places ≠ []) :
    trimPlaces number.text = number.dropZeros.text := by
  have hzeros : dropTrailing '0' number.text =
      number.front ++ '.' :: number.dropZeros.places := by
    rw [Number.Decimal.text, Number.Decimal.pointed_of_ne_nil h,
      dropTrailing_append_cons (by decide)]
    rfl
  have hfront : number.dropZeros.front = number.front := rfl
  rw [trimPlaces, hzeros, Number.Decimal.text, hfront]
  -- a digit stops the dropping of the point: the last one before it, or the last place that is left
  cases hplaces : number.dropZeros.places.getLast? with
  | none =>
      obtain ⟨c, hlast, hdigit⟩ := number.getLast?_front
      rw [List.getLast?_eq_none_iff.1 hplaces, Number.Decimal.pointed_nil, List.append_nil,
        dropTrailing_concat_self, dropPoint_of_isDigit hlast hdigit]
  | some c =>
      have hdigit := number.dropZeros.isDigit_places c (List.mem_of_getLast? hplaces)
      have hne : number.dropZeros.places ≠ [] := fun hnil => by
        rw [hnil] at hplaces
        cases hplaces
      have hlast : (number.front ++ '.' :: number.dropZeros.places).getLast? = some c := by
        rw [List.getLast?_append, List.getLast?_cons, hplaces]
        rfl
      rw [Number.Decimal.pointed_of_ne_nil hne, dropPoint_of_isDigit hlast hdigit]

/-- Of a number that is written with places, the zeros at their end are not shown, nor the point if
nothing else follows it; all other digits are, and what is shown denotes that number and no other. A
text without a point that does not end in a zero is shown as it is. So a number that is read from a
text is shown as the hundredths that it is rounded to, and as a word if it is not finite. -/
theorem trimPlaces_keeps_value :
    (∀ number : Number.Decimal, number.places ≠ [] →
      ∃ shown : Number.Decimal, number.IsShortenedTo shown ∧
        trimPlaces number.text = shown.text ∧
        ∀ q, Number.DenotesRational (trimPlaces number.text) q ↔ q = number.value) ∧
    (∀ text : List Char, '.' ∉ text → text.getLast? ≠ some '0' → trimPlaces text = text) ∧
    ∀ (text : String) (x : Binary64), (Binary64.read? text).getD .zero = x →
      (x.isNaN = true ∨ x.isInfinite = true → shortNumber text = x.fixedTwo) ∧
      (x.isNaN = false → x.isInfinite = false →
        ∃ shown : Number.Decimal, x.twoPlaces.IsShortenedTo shown ∧
          (shortNumber text).toList = shown.text ∧
          shown.value =
            if x.negative then -((x.hundredths : ℚ) / 100) else (x.hundredths : ℚ) / 100) := by
  refine ⟨fun number h => ?_, fun text hpoint hzero => trimPlaces_eq_self hzero hpoint,
    fun text x hx => ⟨fun h => ?_, fun hnan hinfinite => ?_⟩⟩
  · have hshort := number.isShortenedTo_dropZeros
    refine ⟨number.dropZeros, hshort, trimPlaces_text h, fun q => ?_⟩
    rw [trimPlaces_text h, Number.denotesRational_text_iff, hshort.value_eq]
  · obtain ⟨hpoint, hzero⟩ := Binary64.point_not_mem_fixedTwo h
    rw [shortNumber, hx, trimPlaces_eq_self hzero hpoint, String.ofList_toList]
  · have hshort := x.twoPlaces.isShortenedTo_dropZeros
    refine ⟨x.twoPlaces.dropZeros, hshort, ?_, ?_⟩
    · rw [shortNumber, hx, String.toList_ofList, Binary64.toList_fixedTwo hnan hinfinite,
        trimPlaces_text x.places_twoPlaces_ne_nil]
    · rw [hshort.value_eq, Binary64.value_twoPlaces]

/-- The zeros of minus a hundred stay when its places go, and of the places of a half one stays with
the point. Infinity stays as it is, and a rating with four places is shown with the hundredths that
it is rounded to. -/
theorem trimPlaces_keeps_value_hundred :
    (∀ q, Number.DenotesRational (trimPlaces "-100.00".toList) q ↔ q = -100) ∧
      trimPlaces "-100.00".toList = "-100".toList ∧
      trimPlaces "0.50".toList = "0.5".toList ∧
      trimPlaces "-inf".toList = "-inf".toList ∧
      shortNumber "1e999" = "inf" ∧
      ∃ shown : Number.Decimal, (shortNumber "180.0049").toList = shown.text ∧
        shown.value = 18000 / 100 := by
  obtain ⟨hkeep, hword, hshort⟩ := trimPlaces_keeps_value
  -- decided along the lists, since deciding it for each character that there is would not end
  let number : Number.Decimal :=
    ⟨true, ['1', '0', '0'], ['0', '0'], by decide, List.forall_iff_forall_mem.1 (by decide),
      List.forall_iff_forall_mem.1 (by decide)⟩
  have hvalue : number.value = -100 := by
    have hdigits : Nat.ofDigitChars 10 (number.whole ++ number.places) 0 = 10000 := by decide
    have habs : number.absValue = 10000 / 10 ^ 2 := by
      rw [Number.Decimal.absValue, hdigits]
      rfl
    rw [Number.Decimal.value, habs]
    norm_num [number]
  obtain ⟨-, -, -, hdenotes⟩ := hkeep number (by decide)
  rw [hvalue] at hdenotes
  refine ⟨hdenotes, by decide, by decide, ?_, ?_, ?_⟩
  · exact hword "-inf".toList (by decide) (by decide)
  · exact (hshort "1e999" (.infinity false) (by decide +kernel)).1 (.inr (by decide))
  · obtain ⟨-, hfinite⟩ := hshort "180.0049" _ rfl
    obtain ⟨shown, -, htext, hshown⟩ := hfinite (by decide +kernel) (by decide +kernel)
    have hhundredths : ((Binary64.read? "180.0049").getD .zero).hundredths = 18000 := by
      decide +kernel
    refine ⟨shown, htext, ?_⟩
    rw [hshown, if_neg (by decide +kernel), hhundredths]
    rfl

end Request

end CommandBot
