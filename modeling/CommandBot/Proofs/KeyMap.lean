import CommandBot.KeyMap

/-!
# Maps built from their entries

`KeyMap.ofList` gives a map back from its own entries (`ofList_entries`), also when the values are
changed on the way (`ofList_map_entries`). This is what reading a stored map comes down to. Of pairs
whose keys are distinct it keeps every one (`get?_ofList_eq_some_iff`), and of several with one key
the last (`get?_ofList_eq_some_iff_isLast`).
-/

namespace CommandBot

theorem lookup_eq_none_of_forall_ne {α : Type} {key : String} {entries : List (String × α)}
    (h : ∀ e ∈ entries, e.1 ≠ key) : entries.lookup key = none := by
  induction entries with
  | nil => rfl
  | cons e rest ih =>
      have he : key ≠ e.1 := (h e List.mem_cons_self).symm
      rw [lookup_cons_eq_ite, if_neg he]
      exact ih fun d hd => h d (List.mem_cons_of_mem _ hd)

theorem Ascending.ne_of_mem {α : Type} {e : String × α} {rest : List (String × α)}
    (h : Ascending (e :: rest)) : ∀ d ∈ rest, d.1 ≠ e.1 := by
  intro d hd heq
  have hlt := (List.pairwise_cons.1 h).1 d hd
  rw [heq] at hlt
  exact String.lt_irrefl _ hlt

theorem Ascending.tail {α : Type} {e : String × α} {rest : List (String × α)}
    (h : Ascending (e :: rest)) : Ascending rest := (List.pairwise_cons.1 h).2

namespace KeyMap

variable {α β : Type}

theorem get?_insertAll_of_ascending (m : KeyMap α) {pairs : List (String × α)}
    (h : Ascending pairs) (key : String) :
    (m.insertAll pairs).get? key = (pairs.lookup key).or (m.get? key) := by
  induction pairs generalizing m with
  | nil => rfl
  | cons e rest ih =>
      rw [insertAll_cons, ih _ h.tail, get?_insert, lookup_cons_eq_ite]
      by_cases hkey : key = e.1
      · have hnone : rest.lookup key = none := lookup_eq_none_of_forall_ne fun d hd =>
          hkey ▸ h.ne_of_mem d hd
        rw [if_pos hkey, if_pos hkey, hnone]
        rfl
      · rw [if_neg hkey, if_neg hkey]

theorem entries_ofList_of_ascending {pairs : List (String × α)} (h : Ascending pairs) :
    (ofList pairs).entries = pairs := by
  have hmap : ofList pairs = ⟨pairs, h⟩ := by
    apply ext_get?
    intro key
    rw [ofList, get?_insertAll_of_ascending _ h, get?_empty, Option.or_none]
    rfl
  rw [hmap]

@[simp] theorem ofList_entries (m : KeyMap α) : ofList m.entries = m :=
  ext_entries (entries_ofList_of_ascending m.ascending)

theorem ofList_map_entries (m : KeyMap α) (f : α → β) :
    ofList (m.entries.map fun e => (e.1, f e.2)) = m.map f :=
  ofList_entries (m.map f)

@[simp] theorem entries_map (m : KeyMap α) (f : α → β) :
    (m.map f).entries = m.entries.map fun e => (e.1, f e.2) := rfl

theorem get?_of_mem {m : KeyMap α} {e : String × α} (h : e ∈ m.entries) :
    m.get? e.1 = some e.2 :=
  (get?_eq_some_iff m e.1 e.2).2 h

theorem mem_of_get? {m : KeyMap α} {key : String} {value : α} (h : m.get? key = some value) :
    (key, value) ∈ m.entries :=
  (get?_eq_some_iff m key value).1 h

theorem mem_keys_iff (m : KeyMap α) (key : String) :
    key ∈ m.keys ↔ ∃ value, m.get? key = some value := by
  simp [keys, get?_eq_some_iff]

theorem nodup_keys (m : KeyMap α) : m.keys.Nodup := by
  refine List.pairwise_map.2 (List.Pairwise.imp ?_ m.ascending)
  intro a b hlt heq
  rw [heq] at hlt
  exact String.lt_irrefl _ hlt

theorem get?_insert_of_ne (m : KeyMap α) {key key' : String} (value : α) (h : key' ≠ key) :
    (m.insert key value).get? key' = m.get? key' := by
  rw [get?_insert, if_neg h]

/-- Storing what is there already changes nothing. -/
theorem insert_of_get? {m : KeyMap α} {key : String} {value : α} (h : m.get? key = some value) :
    m.insert key value = m := by
  apply ext_get?
  intro other
  rw [get?_insert]
  split
  · rename_i hkey
    rw [hkey, h]
  · rfl

/-- Values are stored under different keys in any order. -/
theorem insert_comm (m : KeyMap α) {key key' : String} (h : key ≠ key') (value value' : α) :
    (m.insert key value).insert key' value' = (m.insert key' value').insert key value := by
  apply ext_get?
  intro other
  simp only [get?_insert]
  by_cases hkey : other = key
  · have hother : other ≠ key' := fun heq => h (hkey.symm.trans heq)
    rw [if_neg hother, if_pos hkey, if_pos hkey]
  · rw [if_neg hkey, if_neg hkey]

theorem get?_erase_self (m : KeyMap α) (key : String) : (m.erase key).get? key = none := by
  rw [get?_erase, if_pos rfl]

theorem get?_erase_of_ne (m : KeyMap α) {key key' : String} (h : key' ≠ key) :
    (m.erase key).get? key' = m.get? key' := by
  rw [get?_erase, if_neg h]

theorem erase_of_get?_eq_none {m : KeyMap α} {key : String} (h : m.get? key = none) :
    m.erase key = m := by
  apply ext_get?
  intro other
  rw [get?_erase]
  split
  · rename_i hkey
    rw [hkey, h]
  · rfl

theorem get?_of_get?_erase {m : KeyMap α} {key key' : String} {value : α}
    (h : (m.erase key).get? key' = some value) : m.get? key' = some value := by
  rw [get?_erase] at h
  split at h
  · cases h
  · exact h

/-- No other pair with this key comes after this one. -/
def IsLast (pairs : List (String × α)) (key : String) (value : α) : Prop :=
  ∃ before after, pairs = before ++ (key, value) :: after ∧ ∀ e ∈ after, e.1 ≠ key

theorem IsLast.mem {pairs : List (String × α)} {key : String} {value : α}
    (h : IsLast pairs key value) : (key, value) ∈ pairs := by
  obtain ⟨before, after, rfl, -⟩ := h
  exact List.mem_append_right _ List.mem_cons_self

theorem isLast_or_of_get?_insertAll {m : KeyMap α} {pairs : List (String × α)} {key : String}
    {value : α} (h : (m.insertAll pairs).get? key = some value) :
    IsLast pairs key value ∨ m.get? key = some value ∧ ∀ e ∈ pairs, e.1 ≠ key := by
  induction pairs generalizing m with
  | nil => exact .inr ⟨h, fun _ he => absurd he List.not_mem_nil⟩
  | cons d rest ih =>
      rcases ih h with ⟨before, after, hrest, hafter⟩ | ⟨hget, hrest⟩
      · exact .inl ⟨d :: before, after, congrArg (d :: ·) hrest, hafter⟩
      · rw [get?_insert] at hget
        split at hget
        · rename_i hkey
          obtain rfl := Option.some.inj hget
          subst hkey
          exact .inl ⟨[], rest, rfl, hrest⟩
        · rename_i hkey
          exact .inr ⟨hget, List.forall_mem_cons.2 ⟨Ne.symm hkey, hrest⟩⟩

theorem mem_of_get?_ofList {pairs : List (String × α)} {key : String} {value : α}
    (h : (ofList pairs).get? key = some value) : (key, value) ∈ pairs := by
  rcases isLast_or_of_get?_insertAll h with hlast | ⟨hget, -⟩
  · exact hlast.mem
  · rw [get?_empty] at hget
    cases hget

theorem contains_insertAll_of_mem {m : KeyMap α} {pairs : List (String × α)} {key : String}
    (h : m.contains key = true ∨ ∃ e ∈ pairs, e.1 = key) :
    (m.insertAll pairs).contains key = true := by
  induction pairs generalizing m with
  | nil =>
      rcases h with h | ⟨e, he, -⟩
      · exact h
      · cases he
  | cons e rest ih =>
      refine ih ?_
      have hinsert : (m.insert e.1 e.2).contains key = (decide (key = e.1) || m.contains key) := by
        rw [contains, get?_insert, contains]
        split <;> simp [*]
      rw [hinsert]
      rcases h with h | ⟨d, hd, rfl⟩
      · exact .inl (by simp [h])
      · rcases List.mem_cons.1 hd with rfl | hd
        · exact .inl (by simp)
        · exact .inr ⟨d, hd, rfl⟩

theorem contains_ofList_of_mem {pairs : List (String × α)} {e : String × α} (h : e ∈ pairs) :
    (ofList pairs).contains e.1 = true :=
  contains_insertAll_of_mem (.inr ⟨e, h, rfl⟩)

theorem map_insert (m : KeyMap α) (f : α → β) (key : String) (value : α) :
    (m.insert key value).map f = (m.map f).insert key (f value) := by
  apply ext_get?
  intro other
  rw [get?_map, get?_insert, get?_insert, get?_map]
  split <;> rfl

theorem map_insertAll (m : KeyMap α) (f : α → β) (pairs : List (String × α)) :
    (m.insertAll pairs).map f = (m.map f).insertAll (pairs.map fun e => (e.1, f e.2)) := by
  induction pairs generalizing m with
  | nil => rfl
  | cons e rest ih => rw [insertAll_cons, ih, map_insert, List.map_cons, insertAll_cons]

theorem map_ofList (f : α → β) (pairs : List (String × α)) :
    (ofList pairs).map f = ofList (pairs.map fun e => (e.1, f e.2)) :=
  map_insertAll empty f pairs

theorem get?_insertAll_of_forall_ne {m : KeyMap α} {pairs : List (String × α)} {key : String}
    (h : ∀ e ∈ pairs, e.1 ≠ key) : (m.insertAll pairs).get? key = m.get? key := by
  induction pairs generalizing m with
  | nil => rfl
  | cons e rest ih =>
      rw [insertAll_cons, ih fun d hd => h d (List.mem_cons_of_mem _ hd),
        get?_insert_of_ne _ _ (h e List.mem_cons_self).symm]

theorem get?_insertAll_of_mem {m : KeyMap α} {pairs : List (String × α)}
    (hpairs : pairs.Pairwise fun a b => a.1 ≠ b.1) {e : String × α} (he : e ∈ pairs) :
    (m.insertAll pairs).get? e.1 = some e.2 := by
  induction pairs generalizing m with
  | nil => cases he
  | cons d rest ih =>
      obtain ⟨hhead, hrest⟩ := List.pairwise_cons.1 hpairs
      rcases List.mem_cons.1 he with rfl | he
      · rw [insertAll_cons, get?_insertAll_of_forall_ne fun d hd => (hhead d hd).symm,
          get?_insert_self]
      · exact ih hrest he

/-- Pairs with distinct keys all find their place. -/
theorem get?_ofList_eq_some_iff {pairs : List (String × α)}
    (hpairs : pairs.Pairwise fun a b => a.1 ≠ b.1) (key : String) (value : α) :
    (ofList pairs).get? key = some value ↔ (key, value) ∈ pairs :=
  ⟨mem_of_get?_ofList, fun he => get?_insertAll_of_mem hpairs he⟩

theorem insertAll_append (m : KeyMap α) (pairs pairs' : List (String × α)) :
    m.insertAll (pairs ++ pairs') = (m.insertAll pairs).insertAll pairs' := by
  induction pairs generalizing m with
  | nil => rfl
  | cons e rest ih => rw [List.cons_append, insertAll_cons, insertAll_cons, ih]

/-- Of several pairs with one key the last counts. -/
theorem get?_ofList_eq_some_iff_isLast {pairs : List (String × α)} {key : String} {value : α} :
    (ofList pairs).get? key = some value ↔ IsLast pairs key value := by
  constructor
  · intro h
    rcases isLast_or_of_get?_insertAll h with hlast | ⟨hget, -⟩
    · exact hlast
    · rw [get?_empty] at hget
      cases hget
  · rintro ⟨before, after, rfl, hafter⟩
    change (empty.insertAll _).get? key = some value
    rw [insertAll_append, insertAll_cons, get?_insertAll_of_forall_ne hafter, get?_insert_self]

/-- All pairs find their place if and only if those with one key are the same. -/
theorem forall_get?_ofList_iff (pairs : List (String × α)) :
    (∀ e ∈ pairs, (ofList pairs).get? e.1 = some e.2) ↔
      ∀ e ∈ pairs, ∀ e' ∈ pairs, e.1 = e'.1 → e = e' := by
  constructor
  · intro h e he e' he' hkey
    have hvalue := (h e he).symm.trans (hkey ▸ h e' he')
    exact Prod.ext hkey (Option.some.inj hvalue)
  · intro h e he
    obtain ⟨value, hvalue⟩ := (contains_iff _ _).1 (contains_ofList_of_mem he)
    have hmem := mem_of_get?_ofList hvalue
    rw [hvalue]
    exact congrArg (some ∘ Prod.snd) (h e he _ hmem rfl).symm

/-- The keys of a map have distinct images when those with the same image are the same. -/
theorem pairwise_image_ne_iff (m : KeyMap α) (f : String → String) :
    (m.entries.Pairwise fun a b => f a.1 ≠ f b.1) ↔
      ∀ key other value value', m.get? key = some value → m.get? other = some value' →
        f key = f other → key = other := by
  constructor
  · intro hpairwise key other value value' hkey hother himage
    -- Both entries find their place under their common image, so they are one entry.
    have hplaces : (m.entries.map fun e => (f e.1, e)).Pairwise fun a b => a.1 ≠ b.1 :=
      List.pairwise_map.2 hpairwise
    have hplace : ∀ e ∈ m.entries, (ofList (m.entries.map fun e => (f e.1, e))).get? (f e.1) =
        some e :=
      fun e he => (get?_ofList_eq_some_iff hplaces _ _).2 (List.mem_map_of_mem he)
    have hsame := hplace _ (mem_of_get? hkey)
    rw [himage, hplace _ (mem_of_get? hother)] at hsame
    exact (congrArg Prod.fst (Option.some.inj hsame)).symm
  · intro hdistinct
    refine List.Pairwise.imp_of_mem ?_ m.ascending
    intro a b ha hb hlt himage
    have hkeys := hdistinct _ _ _ _ (get?_of_mem ha) (get?_of_mem hb) himage
    rw [hkeys] at hlt
    exact String.lt_irrefl _ hlt

end KeyMap

end CommandBot
