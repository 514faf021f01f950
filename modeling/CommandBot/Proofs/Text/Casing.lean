import CommandBot.Text.Casing

/-!
# What is in lowercase stays as it is

The lowercase of a text is its own lowercase (`lower_lower`). No run of the lowercase mapping sends
a character into another run, which is settled for two runs at a time: they lie apart, or run over
code points of different parity (`CaseRun.isApartFrom`).
-/

namespace CommandBot.Text

/-- Whether a run sends its characters beside those of another run and beside `İ`, the one character
that no run covers and that is lowered all the same. -/
def CaseRun.isApartFrom (r s : CaseRun) : Bool :=
  (r.target + (r.last - r.first) < s.first || s.last < r.target ||
      ((r.step == 2 || r.last == r.first) && s.step == 2 && (r.target + s.first) % 2 == 1)) &&
    (r.target + (r.last - r.first) < 0x130 || 0x130 < r.target)

theorem isApartFrom_lowerRuns :
    ∀ r ∈ lowerRuns, ∀ s ∈ lowerRuns, r.isApartFrom s = true := by
  have hall : (lowerRuns.all fun r => lowerRuns.all fun s => r.isApartFrom s) = true := by
    decide +kernel
  exact fun r hr s hs => List.all_eq_true.1 (List.all_eq_true.1 hall r hr) s hs

theorem CaseRun.covers_iff (r : CaseRun) (n : Nat) :
    r.covers n = true ↔ r.first ≤ n ∧ n ≤ r.last ∧ (n - r.first) % r.step = 0 := by
  simp only [covers, Bool.and_eq_true, decide_eq_true_eq, beq_iff_eq, and_assoc]

theorem CaseRun.isApartFrom_iff (r s : CaseRun) :
    r.isApartFrom s = true ↔
      (r.target + (r.last - r.first) < s.first ∨ s.last < r.target ∨
        (r.step = 2 ∨ r.last = r.first) ∧ s.step = 2 ∧ (r.target + s.first) % 2 = 1) ∧
      (r.target + (r.last - r.first) < 0x130 ∨ 0x130 < r.target) := by
  simp only [isApartFrom, Bool.and_eq_true, Bool.or_eq_true, decide_eq_true_eq, beq_iff_eq,
    and_assoc, or_assoc]

theorem CaseRun.not_covers_send {r s : CaseRun} (h : r.isApartFrom s = true) {n : Nat}
    (hn : r.covers n = true) : s.covers (r.send n) = false ∧ r.send n ≠ 0x130 := by
  obtain ⟨hruns, hdotted⟩ := (isApartFrom_iff r s).1 h
  obtain ⟨hfirst, hlast, hstep⟩ := (covers_iff r n).1 hn
  have hsend : r.send n = r.target + (n - r.first) := rfl
  refine ⟨?_, by omega⟩
  rw [← Bool.not_eq_true, covers_iff, hsend]
  rintro ⟨hlow, hhigh, hcovered⟩
  rcases hruns with hbelow | habove | ⟨hr, hs, hparity⟩
  · omega
  · omega
  · -- both runs keep to one parity, and the parities differ
    rw [hs] at hcovered
    rcases hr with hr | hr
    · rw [hr] at hstep
      omega
    · omega

/-- A character that is its own lowercase, and not the sigma that is lowered by its place. -/
def IsLow (c : Char) : Prop := c ≠ 'Σ' ∧ lowerChar c = [c]

theorem isLow_of_not_covers {c : Char} (hdotted : c.toNat ≠ 0x130)
    (h : ∀ s ∈ lowerRuns, s.covers c.toNat = false) : IsLow c := by
  refine ⟨?_, ?_⟩
  · rintro rfl
    have hsigma : (lowerRuns.any fun s => s.covers 0x3A3) = true := by decide +kernel
    obtain ⟨s, hs, hcovers⟩ := List.any_eq_true.1 hsigma
    rw [show s.covers 0x3A3 = false from h s hs] at hcovers
    cases hcovers
  · have hnone : lowerRuns.find? (·.covers c.toNat) = none :=
      List.find?_eq_none.2 fun s hs => by simp [h s hs]
    rw [lowerChar, if_neg hdotted, shiftCase, hnone]

theorem isLow_of_all {c : Char} (hdotted : c.toNat ≠ 0x130)
    (h : (lowerRuns.all fun s => !s.covers c.toNat) = true) : IsLow c :=
  isLow_of_not_covers hdotted fun s hs => by simpa using List.all_eq_true.1 h s hs

/-- A number is the code of its character, unless it is the code of none. -/
theorem toNat_ofNat_or_eq_ofNat_zero (n : Nat) :
    (Char.ofNat n).toNat = n ∨ Char.ofNat n = Char.ofNat 0 := by
  unfold Char.ofNat
  by_cases hvalid : n.isValidChar
  · rw [dif_pos hvalid]
    exact .inl rfl
  · rw [dif_neg hvalid]
    exact .inr rfl

theorem isLow_ofNat_send {r : CaseRun} (hr : r ∈ lowerRuns) {n : Nat} (hn : r.covers n = true) :
    IsLow (Char.ofNat (r.send n)) := by
  have happart := fun s hs => CaseRun.not_covers_send (isApartFrom_lowerRuns r hr s hs) hn
  rcases toNat_ofNat_or_eq_ofNat_zero (r.send n) with hcode | hzero
  · refine isLow_of_not_covers ?_ fun s hs => ?_
    · rw [hcode]
      exact (happart r hr).2
    · rw [hcode]
      exact (happart s hs).1
  · rw [hzero]
    exact isLow_of_all (by decide) (by decide +kernel)

theorem isLow_of_mem_lowerChar {c d : Char} (h : d ∈ lowerChar c) : IsLow d := by
  unfold lowerChar at h
  split at h
  · rcases List.mem_cons.1 h with rfl | h
    · exact isLow_of_all (by decide) (by decide +kernel)
    · rw [List.mem_singleton.1 h]
      exact isLow_of_all (by decide) (by decide +kernel)
  · rename_i hdotted
    obtain rfl := List.mem_singleton.1 h
    unfold shiftCase
    split
    · rename_i run hrun
      have hcovers := List.find?_some hrun
      exact isLow_ofNat_send (List.mem_of_find?_eq_some hrun) hcovers
    · rename_i hnone
      refine isLow_of_not_covers hdotted fun s hs => ?_
      simpa using List.find?_eq_none.1 hnone s hs

theorem isLow_of_mem_lowerFrom {before cs : List Char} {d : Char} (h : d ∈ lowerFrom before cs) :
    IsLow d := by
  induction cs generalizing before with
  | nil => cases h
  | cons c rest ih =>
      rw [lowerFrom_cons] at h
      rcases List.mem_append.1 h with h | h
      · split at h
        · rw [List.mem_singleton.1 h]
          split
          · exact isLow_of_all (by decide) (by decide +kernel)
          · exact isLow_of_all (by decide) (by decide +kernel)
        · exact isLow_of_mem_lowerChar h
      · exact ih h

theorem lowerFrom_eq_self {before cs : List Char} (h : ∀ c ∈ cs, IsLow c) :
    lowerFrom before cs = cs := by
  induction cs generalizing before with
  | nil => rfl
  | cons c rest ih =>
      obtain ⟨hsigma, hc⟩ := h c List.mem_cons_self
      rw [lowerFrom_cons, if_neg hsigma, hc, ih fun d hd => h d (List.mem_cons_of_mem _ hd)]
      rfl

/-- The lowercase of a text is its own lowercase. -/
@[simp] theorem lower_lower (s : String) : lower (lower s) = lower s := by
  apply String.toList_inj.1
  rw [toList_lower, toList_lower]
  exact lowerFrom_eq_self fun c hc => isLow_of_mem_lowerFrom hc

end CommandBot.Text
