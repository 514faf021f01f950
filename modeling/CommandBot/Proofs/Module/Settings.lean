import CommandBot.Module.Settings

/-!
# Settings that are read

A setting is read exactly if its option is there and has the right type, and then it is what the
option holds.
-/

namespace CommandBot.Settings

variable {options : Json.Options} {key : String}

theorem setting_eq_ok_iff {α : Type} {read : Json → Except String α} {a : α} :
    setting options key read = .ok a ↔
      ∃ value, options.get? key = some value ∧ read value = .ok a := by
  unfold setting
  cases options.get? key with
  | none => simp
  | some value => simp

theorem setting_readString_iff {s : String} :
    setting options key readString = .ok s ↔ options.get? key = some (.string s) := by
  have hread : ∀ value, readString value = .ok s ↔ value = .string s := by
    intro value
    cases value <;> simp [readString]
  simp [setting_eq_ok_iff, hread]

theorem setting_readBool_iff {b : Bool} :
    setting options key readBool = .ok b ↔ options.get? key = some (.bool b) := by
  have hread : ∀ value, readBool value = .ok b ↔ value = .bool b := by
    intro value
    cases value <;> simp [readBool]
  simp [setting_eq_ok_iff, hread]

theorem setting_readInteger_iff {fits : Int → Bool} {expected : String} {n : Int} :
    setting options key (readInteger fits expected) = .ok n ↔
      options.get? key = some (.integer n) ∧ fits n = true := by
  have hread : ∀ value, readInteger fits expected value = .ok n ↔
      value = .integer n ∧ fits n = true := by
    intro value
    cases value with
    | integer m =>
        by_cases hfits : fits m = true
        · simp only [readInteger, hfits, if_true, Except.ok.injEq, Json.integer.injEq]
          exact ⟨fun h => ⟨h, h ▸ hfits⟩, And.left⟩
        · simp only [readInteger, hfits, Json.integer.injEq]
          exact ⟨fun h => (by cases h), fun h => absurd (h.1 ▸ h.2) hfits⟩
    | _ => simp [readInteger]
  constructor
  · intro h
    obtain ⟨value, hvalue, hok⟩ := setting_eq_ok_iff.1 h
    obtain ⟨rfl, hfits⟩ := (hread value).1 hok
    exact ⟨hvalue, hfits⟩
  · rintro ⟨hvalue, hfits⟩
    exact setting_eq_ok_iff.2 ⟨_, hvalue, (hread _).2 ⟨rfl, hfits⟩⟩

end CommandBot.Settings
