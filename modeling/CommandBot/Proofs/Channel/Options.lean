import CommandBot.Channel.State
import CommandBot.Proofs.KeyMap

/-!
# Options that are set one after another

The stored options of a channel are read key by key (`optionAt?`). After any changes a key of a
module has the value of the last change of it, and else the value that it had
(`optionAt?_setOptions`). A change names its module in any letter case, and what is stored under
names that no change means stays as it was (`get?_setOptions_of_forall_ne`).
-/

namespace CommandBot

/-- What is stored under a key of a module. -/
def optionAt? (options : KeyMap Json.Options) (moduleName key : String) : Option Json :=
  (options.get? moduleName).bind (·.get? key)

/-- An option that is to be set. -/
structure OptionChange where
  moduleName : String
  key : String
  value : Json

namespace OptionChange

/-- Whether the change is one of this key of the module that has this name in lowercase. -/
def concerns (change : OptionChange) (name key : String) : Bool :=
  Text.lower change.moduleName == name && change.key == key

/-- The value that the last change of a key of a module gives it. -/
def lastValue? (changes : List OptionChange) (name key : String) : Option Json :=
  (changes.reverse.find? (·.concerns name key)).map (·.value)

theorem lastValue?_cons (change : OptionChange) (rest : List OptionChange) (name key : String) :
    lastValue? (change :: rest) name key =
      (lastValue? rest name key).or
        (if change.concerns name key then some change.value else none) := by
  rw [lastValue?, List.reverse_cons, List.find?_append, Option.map_or, List.find?_singleton]
  congr 1
  split
  · rfl
  · rfl

end OptionChange

namespace Channel

/-- Sets options in order. -/
def setOptions (c : Channel) (changes : List OptionChange) : Channel :=
  changes.foldl (fun c change => c.setOption change.moduleName change.key change.value) c

theorem setOptions_cons (c : Channel) (change : OptionChange) (rest : List OptionChange) :
    c.setOptions (change :: rest) =
      (c.setOption change.moduleName change.key change.value).setOptions rest := rfl

theorem optionAt?_setOption (c : Channel) (change : OptionChange) (name key : String) :
    optionAt? (c.setOption change.moduleName change.key change.value).options name key =
      if change.concerns name key then some change.value else optionAt? c.options name key := by
  simp only [optionAt?, setOption, markUnsaved, KeyMap.get?_insert, OptionChange.concerns,
    Bool.and_eq_true, beq_iff_eq]
  by_cases hname : Text.lower change.moduleName = name
  · subst hname
    rw [if_pos rfl, Option.bind_some, KeyMap.get?_insert]
    by_cases hkey : change.key = key
    · rw [if_pos hkey.symm, if_pos ⟨rfl, hkey⟩]
    · rw [if_neg (Ne.symm hkey), if_neg (fun h => hkey h.2)]
      cases c.options.get? (Text.lower change.moduleName) with
      | none => rfl
      | some set => rfl
  · rw [if_neg (Ne.symm hname), if_neg (fun h => hname h.1)]

/-- A key has the value of its last change, and else the value that it had. -/
theorem optionAt?_setOptions (c : Channel) (changes : List OptionChange) (name key : String) :
    optionAt? (c.setOptions changes).options name key =
      (OptionChange.lastValue? changes name key).or (optionAt? c.options name key) := by
  induction changes generalizing c with
  | nil => rfl
  | cons change rest ih =>
      rw [setOptions_cons, ih, optionAt?_setOption, OptionChange.lastValue?_cons, Option.or_assoc]
      congr 1
      split
      · rfl
      · rfl

theorem get?_setOption_of_ne (c : Channel) {moduleName name : String} (key : String) (value : Json)
    (h : Text.lower moduleName ≠ name) :
    (c.setOption moduleName key value).options.get? name = c.options.get? name :=
  KeyMap.get?_insert_of_ne _ _ h.symm

theorem get?_setOptions_of_forall_ne (c : Channel) {changes : List OptionChange} {name : String}
    (h : ∀ change ∈ changes, Text.lower change.moduleName ≠ name) :
    (c.setOptions changes).options.get? name = c.options.get? name := by
  induction changes generalizing c with
  | nil => rfl
  | cons change rest ih =>
      rw [setOptions_cons, ih _ fun d hd => h d (List.mem_cons_of_mem _ hd),
        get?_setOption_of_ne c _ _ (h change List.mem_cons_self)]

theorem exists_get?_setOption (c : Channel) (change : OptionChange) {name : String}
    {set : Json.Options} (h : c.options.get? name = some set) :
    ∃ set', (c.setOption change.moduleName change.key change.value).options.get? name = some set' ∧
      ∀ key ∈ set.keys, key ∈ set'.keys := by
  by_cases hname : Text.lower change.moduleName = name
  · subst hname
    have hset : (c.setOption change.moduleName change.key change.value).options.get?
        (Text.lower change.moduleName) = some (set.insert change.key change.value) := by
      simp only [setOption, markUnsaved, KeyMap.get?_insert_self, h, Option.getD_some]
    refine ⟨_, hset, fun key hkey => (KeyMap.mem_keys_iff _ _).2 ?_⟩
    rw [KeyMap.get?_insert]
    split
    · exact ⟨_, rfl⟩
    · exact (KeyMap.mem_keys_iff _ _).1 hkey
  · exact ⟨set, by rw [get?_setOption_of_ne c _ _ hname, h], fun _ hkey => hkey⟩

/-- No module and no key gets lost. -/
theorem exists_get?_setOptions (c : Channel) (changes : List OptionChange) {name : String}
    {set : Json.Options} (h : c.options.get? name = some set) :
    ∃ set', (c.setOptions changes).options.get? name = some set' ∧
      ∀ key ∈ set.keys, key ∈ set'.keys := by
  induction changes generalizing c set with
  | nil => exact ⟨set, h, fun _ hkey => hkey⟩
  | cons change rest ih =>
      obtain ⟨next, hnext, hkeys⟩ := exists_get?_setOption c change h
      obtain ⟨set', hset', hkeys'⟩ := ih _ hnext
      exact ⟨set', hset', fun key hkey => hkeys' key (hkeys key hkey)⟩

/-- Nothing but the options and the mark changes. -/
theorem setOptions_eq (c : Channel) (changes : List OptionChange) :
    c.setOptions changes =
      { c with
        options := (c.setOptions changes).options
        unsaved := (c.setOptions changes).unsaved } := by
  induction changes generalizing c with
  | nil => rfl
  | cons change rest ih =>
      rw [setOptions_cons, ih]
      rfl

theorem unsaved_setOptions (c : Channel) {changes : List OptionChange} (h : changes ≠ []) :
    (c.setOptions changes).unsaved = true := by
  have hstays : ∀ (rest : List OptionChange) (d : Channel), d.unsaved = true →
      (d.setOptions rest).unsaved = true := by
    intro rest
    induction rest with
    | nil => exact fun _ hd => hd
    | cons change rest ih => exact fun _ _ => ih _ rfl
  cases changes with
  | nil => exact absurd rfl h
  | cons change rest => exact hstays rest _ rfl

end Channel

end CommandBot
