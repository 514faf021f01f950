import CommandBot.Proofs.Commands

/-!
# Commands of entries

Commands can be built of entries exactly when every name is valid, no cooldown is negative and no
two names are the same in lowercase (`ofEntries_eq_ok_iff`). They are then the entries under their
names in lowercase, and the entries that are stored of them again are the same
(`toEntries_of_ofEntries`).
-/

namespace CommandBot

namespace Commands

theorem lookup_insert_eq_none_iff {cs : Commands} {key name : String} {command : Command} :
    lookup ⟨cs.byName.insert key command⟩ name = none ↔
      key ≠ Text.lower name ∧ cs.lookup name = none := by
  rw [lookup, KeyMap.get?_insert, lookup]
  split
  · rename_i hkey
    simp [hkey]
  · rename_i hkey
    simp [Ne.symm hkey]

/-- Entries are added in turn exactly when each could be added alone and all their names are new,
to the commands and to each other. -/
theorem addAllNew_eq_ok_iff {cs cs' : Commands} {entries : List (String × StoredCommand)} :
    cs.addAllNew entries = .ok cs' ↔
      (∀ e ∈ entries, isValidName e.1 = true ∧ 0 ≤ e.2.cooldown) ∧
        (entries.Pairwise fun a b => Text.lower a.1 ≠ Text.lower b.1) ∧
        (∀ e ∈ entries, cs.lookup e.1 = none) ∧
        cs' = ⟨cs.byName.insertAll (entries.map fun e => (Text.lower e.1, ofStored e.1 e.2))⟩ := by
  induction entries generalizing cs with
  | nil =>
      simp only [addAllNew_nil, Except.ok.injEq, List.not_mem_nil, false_implies, implies_true,
        List.Pairwise.nil, true_and, List.map_nil, KeyMap.insertAll_nil]
      exact eq_comm
  | cons e rest ih =>
      obtain ⟨name, entry⟩ := e
      simp only [addAllNew_cons_eq_ok_iff, addNew_eq_ok_iff, add_eq_ok_iff, ih,
        List.forall_mem_cons, List.pairwise_cons, List.map_cons, KeyMap.insertAll_cons]
      constructor
      · rintro ⟨_, ⟨hnew, hvalid, hcooldown, rfl⟩, hrest, hpairwise, hnews, rfl⟩
        have hnews := fun d hd => lookup_insert_eq_none_iff.1 (hnews d hd)
        exact ⟨⟨⟨hvalid, hcooldown⟩, hrest⟩, ⟨fun d hd => (hnews d hd).1, hpairwise⟩,
          ⟨hnew, fun d hd => (hnews d hd).2⟩, rfl⟩
      · rintro ⟨⟨⟨hvalid, hcooldown⟩, hrest⟩, ⟨hhead, hpairwise⟩, ⟨hnew, hnews⟩, rfl⟩
        exact ⟨_, ⟨hnew, hvalid, hcooldown, rfl⟩, hrest, hpairwise,
          fun d hd => lookup_insert_eq_none_iff.2 ⟨hhead d hd, hnews d hd⟩, rfl⟩

theorem ofEntries_eq_ok_iff {cs : Commands} {entries : List (String × StoredCommand)} :
    ofEntries entries = .ok cs ↔
      (∀ e ∈ entries, isValidName e.1 = true ∧ 0 ≤ e.2.cooldown) ∧
        (entries.Pairwise fun a b => Text.lower a.1 ≠ Text.lower b.1) ∧
        cs = ⟨.ofList (entries.map fun e => (Text.lower e.1, ofStored e.1 e.2))⟩ := by
  rw [ofEntries, addAllNew_eq_ok_iff]
  simp only [lookup_empty, implies_true, true_and]
  rfl

theorem stored_ofStored {name : String} {entry : StoredCommand} (hcooldown : 0 ≤ entry.cooldown)
    (hfits : entry.Fits) : (ofStored name entry).stored = entry := by
  have hmin : min (entry.cooldown.toNat : Int) (Number.twoPow 63 - 1) = entry.cooldown := by
    have hlt := hfits.lt
    omega
  obtain ⟨cooldown, modOnly, hidden, response⟩ := entry
  simp only [ofStored, Command.stored, StoredCommand.mk.injEq, and_true]
  exact hmin

theorem toEntries_of_ofEntries {cs : Commands} {entries : List (String × StoredCommand)}
    (h : ofEntries entries = .ok cs) (hfits : ∀ e ∈ entries, e.2.Fits) :
    cs.toEntries = .ofList (entries.map fun e => (Text.lower e.1, e.2)) := by
  rw [toEntries_eq_map (wellFormed_of_ofEntries h)]
  obtain ⟨haccepted, -, rfl⟩ := ofEntries_eq_ok_iff.1 h
  rw [KeyMap.map_ofList, List.map_map]
  refine congrArg KeyMap.ofList (List.map_congr_left fun e he => ?_)
  simp only [Function.comp_apply, stored_ofStored (haccepted e he).2 (hfits e he)]

end Commands

end CommandBot
