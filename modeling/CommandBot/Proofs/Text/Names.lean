import CommandBot.Commands

/-!
# Names in lowercase

The lowercase of a name is again a name. Names are plain ASCII, where the full case mapping is a
letter by letter one, so this is settled code by code (`of_forall_ofNat`): `lowerChar_eq_of_lt`
reads the table of lowercase runs for the ASCII characters, and the rest follows from it.
`MatchesNamePattern` says which texts are names by plain ranges of characters, and
`isValidName_of_map_toLower` that a name in other letter case is a name, with the same lowercase.
-/

namespace CommandBot.Text

/-- What holds of the characters of ASCII code by code holds of all of them. -/
theorem of_forall_ofNat {p : Char → Prop} (h : ∀ n < 128, p (Char.ofNat n)) {c : Char}
    (hc : c.toNat < 128) : p c := by
  have hcode := h c.toNat hc
  rwa [Char.ofNat_toNat] at hcode

theorem lowerChar_eq_of_lt {c : Char} (h : c.toNat < 128) : lowerChar c = [c.toLower] :=
  of_forall_ofNat (p := fun c => lowerChar c = [c.toLower]) (by decide +kernel) h

theorem isAlphanum_iff (c : Char) :
    c.isAlphanum = true ↔
      ('A' ≤ c ∧ c ≤ 'Z') ∨ ('a' ≤ c ∧ c ≤ 'z') ∨ ('0' ≤ c ∧ c ≤ '9') := by
  change (decide (65 ≤ c.val ∧ c.val ≤ 90) ||
    (decide (97 ≤ c.val) && decide (c.val ≤ 122)) ||
    (decide (48 ≤ c.val) && decide (c.val ≤ 57))) = true ↔ _
  simp only [Bool.or_eq_true, Bool.and_eq_true, decide_eq_true_eq, or_assoc, Char.le_def]
  rfl

theorem isNameChar_iff_ranges (c : Char) :
    isNameChar c = true ↔
      ('A' ≤ c ∧ c ≤ 'Z') ∨ ('a' ≤ c ∧ c ≤ 'z') ∨ ('0' ≤ c ∧ c ≤ '9') ∨ c = '_' := by
  simp only [isNameChar_iff, isAlphanum_iff, or_assoc]

theorem toNat_lt_of_isNameChar {c : Char} (h : isNameChar c = true) : c.toNat < 128 := by
  have hle : ∀ d : Char, c ≤ d → d.toNat < 128 → c.toNat < 128 :=
    fun d hcd hd => Nat.lt_of_le_of_lt hcd hd
  rcases (isNameChar_iff_ranges c).1 h with ⟨-, h⟩ | ⟨-, h⟩ | ⟨-, h⟩ | rfl
  · exact hle 'Z' h (by decide)
  · exact hle 'z' h (by decide)
  · exact hle '9' h (by decide)
  · decide

theorem lowerChar_eq_of_isNameChar {c : Char} (h : isNameChar c = true) :
    lowerChar c = [c.toLower] :=
  lowerChar_eq_of_lt (toNat_lt_of_isNameChar h)

theorem isNameChar_toLower {c : Char} (h : isNameChar c = true) :
    isNameChar c.toLower = true :=
  of_forall_ofNat (p := fun c => isNameChar c = true → isNameChar c.toLower = true)
    (by decide +kernel) (toNat_lt_of_isNameChar h) h

theorem not_isBlank_of_isNameChar {c : Char} (h : isNameChar c = true) : isBlank c = false :=
  of_forall_ofNat (p := fun c => isNameChar c = true → isBlank c = false) (by decide +kernel)
    (toNat_lt_of_isNameChar h) h

/-- Only name characters become name characters when ASCII letters are lowered. -/
theorem isNameChar_of_toLower {c : Char} (h : isNameChar c.toLower = true) :
    isNameChar c = true := by
  unfold Char.toLower at h
  split at h
  · rename_i hupper
    exact (isNameChar_iff_ranges c).2 (.inl hupper)
  · exact h

theorem ne_sigma_of_isNameChar {c : Char} (h : isNameChar c = true) : c ≠ 'Σ' := by
  rintro rfl
  exact absurd (toNat_lt_of_isNameChar h) (by decide)

/-- A text of name characters is lowered letter by letter, whatever stands before it. -/
theorem lowerFrom_eq_map_of_isNameChar (before : List Char) {cs : List Char}
    (h : ∀ c ∈ cs, isNameChar c = true) : lowerFrom before cs = cs.map Char.toLower := by
  induction cs generalizing before with
  | nil => rfl
  | cons c cs ih =>
      have hc := h c List.mem_cons_self
      rw [lowerFrom_cons, if_neg (ne_sigma_of_isNameChar hc), lowerChar_eq_of_isNameChar hc,
        ih (c :: before) fun d hd => h d (List.mem_cons_of_mem _ hd)]
      rfl

theorem isNameChar_of_mem_lower {s : String} (h : ∀ c ∈ s.toList, isNameChar c = true) :
    ∀ c ∈ (lower s).toList, isNameChar c = true := by
  intro c hc
  rw [toList_lower, lowerFrom_eq_map_of_isNameChar [] h] at hc
  obtain ⟨d, hd, rfl⟩ := List.mem_map.1 hc
  exact isNameChar_toLower (h d hd)

end CommandBot.Text

namespace CommandBot

theorem isValidName_iff (name : String) :
    isValidName name = true ↔
      name.toList ≠ [] ∧ ∀ c ∈ name.toList, Text.isNameChar c = true := by
  simp [isValidName]

theorem isValidName_lower {name : String} (h : isValidName name = true) :
    isValidName (Text.lower name) = true := by
  obtain ⟨hne, hall⟩ := (isValidName_iff name).1 h
  refine (isValidName_iff _).2 ⟨?_, Text.isNameChar_of_mem_lower hall⟩
  rw [Text.toList_lower, Text.lowerFrom_eq_map_of_isNameChar [] hall]
  simpa using hne

/-- One or more of the characters `A-Z`, `a-z`, `0-9` and `_`, and no others. -/
def MatchesNamePattern (name : String) : Prop :=
  name.toList ≠ [] ∧ ∀ c ∈ name.toList,
    ('A' ≤ c ∧ c ≤ 'Z') ∨ ('a' ≤ c ∧ c ≤ 'z') ∨ ('0' ≤ c ∧ c ≤ '9') ∨ c = '_'

theorem isValidName_iff_matchesNamePattern (name : String) :
    isValidName name = true ↔ MatchesNamePattern name := by
  rw [isValidName_iff, MatchesNamePattern]
  exact and_congr_right fun _ => forall₂_congr fun c _ => Text.isNameChar_iff_ranges c

theorem MatchesNamePattern.lower {name : String} (h : MatchesNamePattern name) :
    MatchesNamePattern (Text.lower name) :=
  (isValidName_iff_matchesNamePattern _).1
    (isValidName_lower ((isValidName_iff_matchesNamePattern _).2 h))

instance (name : String) : Decidable (MatchesNamePattern name) :=
  decidable_of_iff _ (isValidName_iff_matchesNamePattern name)

/-- What becomes a name when its ASCII letters are lowered is that name in other letter case. -/
theorem isValidName_of_map_toLower {spelled name : String} (hname : isValidName name = true)
    (h : spelled.toList.map Char.toLower = name.toList) :
    isValidName spelled = true ∧ Text.lower spelled = name := by
  obtain ⟨hne, hall⟩ := (isValidName_iff name).1 hname
  have hchars : ∀ c ∈ spelled.toList, Text.isNameChar c = true := by
    intro c hc
    refine Text.isNameChar_of_toLower (hall _ ?_)
    rw [← h]
    exact List.mem_map_of_mem hc
  refine ⟨(isValidName_iff spelled).2 ⟨fun hnil => hne ?_, hchars⟩, ?_⟩
  · rw [← h, hnil, List.map_nil]
  · apply String.toList_inj.1
    rw [Text.toList_lower, Text.lowerFrom_eq_map_of_isNameChar [] hchars, h]

end CommandBot
