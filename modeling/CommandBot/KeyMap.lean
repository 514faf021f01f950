/-!
# Maps keyed by text

A `KeyMap` is a finite map from texts to values that lists its entries in ascending order of the
keys, each key once. Two maps with the same look-ups are therefore equal (`KeyMap.ext_get?`), and
the order of the entries is the order in which a channel's commands, modules and options are shown
and stored.
-/

namespace CommandBot

/-- Puts an entry in its place among entries in ascending order, over one with the same key. -/
def insertEntry {α : Type} (key : String) (value : α) : List (String × α) → List (String × α)
  | [] => [(key, value)]
  | (k, v) :: rest =>
      if key < k then (key, value) :: (k, v) :: rest
      else if key = k then (key, value) :: rest
      else (k, v) :: insertEntry key value rest

/-- Keys in ascending order, each once. -/
def Ascending {α : Type} (entries : List (String × α)) : Prop :=
  entries.Pairwise fun a b => a.1 < b.1

theorem mem_insertEntry {α : Type} {key : String} {value : α} {entries : List (String × α)}
    {e : String × α} (h : e ∈ insertEntry key value entries) :
    e = (key, value) ∨ e ∈ entries := by
  induction entries with
  | nil => simpa [insertEntry] using h
  | cons head rest ih =>
      obtain ⟨k, v⟩ := head
      simp only [insertEntry] at h
      split at h
      · simpa using h
      · split at h
        · rcases List.mem_cons.1 h with h | h
          · exact .inl h
          · exact .inr (List.mem_cons_of_mem _ h)
        · rcases List.mem_cons.1 h with h | h
          · exact .inr (by simp [h])
          · rcases ih h with h | h
            · exact .inl h
            · exact .inr (List.mem_cons_of_mem _ h)

theorem ascending_insertEntry {α : Type} {entries : List (String × α)} (h : Ascending entries)
    (key : String) (value : α) : Ascending (insertEntry key value entries) := by
  induction entries with
  | nil => simp [insertEntry, Ascending]
  | cons head rest ih =>
      obtain ⟨k, v⟩ := head
      obtain ⟨hhead, hrest⟩ := List.pairwise_cons.1 h
      simp only [insertEntry]
      split
      · rename_i hlt
        refine List.pairwise_cons.2 ⟨fun e he => ?_, h⟩
        rcases List.mem_cons.1 he with rfl | he
        · exact hlt
        · exact String.lt_trans hlt (hhead e he)
      · rename_i hlt
        split
        · rename_i heq
          subst heq
          exact List.pairwise_cons.2 ⟨hhead, hrest⟩
        · rename_i hne
          refine List.pairwise_cons.2 ⟨fun e he => ?_, ih hrest⟩
          rcases mem_insertEntry he with rfl | he
          · rcases Decidable.em (k < key) with hk | hk
            · exact hk
            · exact absurd (String.le_antisymm (String.not_lt.1 hk) (String.not_lt.1 hlt)) hne
          · exact hhead e he

theorem lookup_cons_eq_ite {α : Type} (key k : String) (v : α) (rest : List (String × α)) :
    ((k, v) :: rest).lookup key = if key = k then some v else rest.lookup key := by
  rw [List.lookup_cons]
  by_cases h : key = k
  · simp [h]
  · rw [beq_eq_false_iff_ne.2 h, if_neg h]

/-- A finite map from texts to values, its entries in ascending order of the keys. -/
structure KeyMap (α : Type) where
  entries : List (String × α)
  ascending : Ascending entries

namespace KeyMap

variable {α β : Type}

instance [Repr α] : Repr (KeyMap α) := ⟨fun m n => reprPrec m.entries n⟩

theorem ext_entries {m n : KeyMap α} (h : m.entries = n.entries) : m = n := by
  cases m; cases n; cases h; rfl

instance [DecidableEq α] : DecidableEq (KeyMap α) := fun m n =>
  if h : m.entries = n.entries then isTrue (ext_entries h)
  else isFalse fun he => h (he ▸ rfl)

def empty : KeyMap α := ⟨[], List.Pairwise.nil⟩

instance : EmptyCollection (KeyMap α) := ⟨empty⟩

instance : Inhabited (KeyMap α) := ⟨empty⟩

def get? (m : KeyMap α) (key : String) : Option α := m.entries.lookup key

def contains (m : KeyMap α) (key : String) : Bool := (m.get? key).isSome

/-- Stores `value` under `key`, over what was there. -/
def insert (m : KeyMap α) (key : String) (value : α) : KeyMap α :=
  ⟨insertEntry key value m.entries, ascending_insertEntry m.ascending key value⟩

def erase (m : KeyMap α) (key : String) : KeyMap α :=
  ⟨m.entries.filter fun e => e.1 != key, m.ascending.filter _⟩

def keys (m : KeyMap α) : List String := m.entries.map (·.1)

/-- The values in the order of their keys. -/
def values (m : KeyMap α) : List α := m.entries.map (·.2)

def size (m : KeyMap α) : Nat := m.entries.length

def map (m : KeyMap α) (f : α → β) : KeyMap β :=
  ⟨m.entries.map fun e => (e.1, f e.2), List.pairwise_map.2 (by exact m.ascending)⟩

/-- Stores all the pairs in turn, so that of several with one key the last stays. -/
def insertAll (m : KeyMap α) (pairs : List (String × α)) : KeyMap α :=
  pairs.foldl (fun m e => m.insert e.1 e.2) m

/-- The map of the pairs, where of several with one key the last counts. -/
def ofList (pairs : List (String × α)) : KeyMap α := empty.insertAll pairs

@[simp] theorem entries_empty : (empty : KeyMap α).entries = [] := rfl

@[simp] theorem get?_empty (key : String) : (empty : KeyMap α).get? key = none := rfl

theorem lookup_insertEntry (key : String) (value : α) (entries : List (String × α))
    (key' : String) :
    (insertEntry key value entries).lookup key' =
      if key' = key then some value else entries.lookup key' := by
  induction entries with
  | nil => simp only [insertEntry, lookup_cons_eq_ite, List.lookup_nil]
  | cons head rest ih =>
      obtain ⟨k, v⟩ := head
      simp only [insertEntry]
      split
      · rw [lookup_cons_eq_ite]
      · split
        · rename_i heq
          subst heq
          simp only [lookup_cons_eq_ite]
          split <;> rfl
        · rename_i hne
          rw [lookup_cons_eq_ite, lookup_cons_eq_ite, ih]
          by_cases hk : key' = k
          · subst hk
            simp [Ne.symm hne]
          · simp [hk]

theorem get?_insert (m : KeyMap α) (key : String) (value : α) (key' : String) :
    (m.insert key value).get? key' = if key' = key then some value else m.get? key' :=
  lookup_insertEntry key value m.entries key'

@[simp] theorem get?_insert_self (m : KeyMap α) (key : String) (value : α) :
    (m.insert key value).get? key = some value := by
  simp [get?_insert]

theorem get?_erase (m : KeyMap α) (key key' : String) :
    (m.erase key).get? key' = if key' = key then none else m.get? key' := by
  obtain ⟨entries, h⟩ := m
  simp only [get?, erase]
  clear h
  induction entries with
  | nil => simp
  | cons head rest ih =>
      obtain ⟨k, v⟩ := head
      by_cases hk : k = key
      · subst hk
        rw [List.filter_cons_of_neg (by simp), ih]
        rw [lookup_cons_eq_ite]
        split <;> rfl
      · rw [List.filter_cons_of_pos (by simpa using hk), lookup_cons_eq_ite,
          lookup_cons_eq_ite, ih]
        by_cases hk' : key' = k
        · subst hk'
          simp [hk]
        · simp [hk']

theorem contains_iff (m : KeyMap α) (key : String) :
    m.contains key = true ↔ ∃ value, m.get? key = some value := by
  simp [contains, Option.isSome_iff_exists]

theorem get?_eq_some_iff (m : KeyMap α) (key : String) (value : α) :
    m.get? key = some value ↔ (key, value) ∈ m.entries := by
  obtain ⟨entries, h⟩ := m
  simp only [get?]
  induction entries with
  | nil => simp
  | cons head rest ih =>
      obtain ⟨k, v⟩ := head
      obtain ⟨hhead, hrest⟩ := List.pairwise_cons.1 h
      rw [lookup_cons_eq_ite]
      by_cases hk : key = k
      · subst hk
        have hnot : (key, value) ∉ rest := fun hmem =>
          String.lt_irrefl _ (hhead (key, value) hmem)
        simp [hnot, eq_comm]
      · simp only [hk, if_false, ih hrest, List.mem_cons, Prod.mk.injEq, false_and, false_or]

/-- A map is known by its look-ups. -/
theorem ext_get? {m n : KeyMap α} (h : ∀ key, m.get? key = n.get? key) : m = n := by
  apply ext_entries
  have hmem : ∀ e, e ∈ m.entries ↔ e ∈ n.entries := fun e => by
    rw [← get?_eq_some_iff, ← get?_eq_some_iff, h]
  obtain ⟨as, has⟩ := m
  obtain ⟨bs, hbs⟩ := n
  clear h
  simp only at hmem ⊢
  induction as generalizing bs with
  | nil =>
      cases bs with
      | nil => rfl
      | cons b bs => exact absurd ((hmem b).2 (by simp)) (by simp)
  | cons a as ih =>
      cases bs with
      | nil => exact absurd ((hmem a).1 (by simp)) (by simp)
      | cons b bs =>
          obtain ⟨ha, has'⟩ := List.pairwise_cons.1 has
          obtain ⟨hb, hbs'⟩ := List.pairwise_cons.1 hbs
          have hab : a = b := by
            rcases List.mem_cons.1 ((hmem a).1 (by simp)) with h | h
            · exact h
            · rcases List.mem_cons.1 ((hmem b).2 (by simp)) with h' | h'
              · exact h'.symm
              · exact absurd (ha b h') (String.lt_asymm (hb a h))
          subst hab
          congr 1
          refine ih has' bs hbs' fun e => ?_
          have he := hmem e
          simp only [List.mem_cons] at he
          constructor
          · intro h
            rcases he.1 (.inr h) with rfl | h'
            · exact absurd (ha e h) (String.lt_irrefl _)
            · exact h'
          · intro h
            rcases he.2 (.inr h) with rfl | h'
            · exact absurd (hb e h) (String.lt_irrefl _)
            · exact h'

theorem get?_map (m : KeyMap α) (f : α → β) (key : String) :
    (m.map f).get? key = (m.get? key).map f := by
  obtain ⟨entries, h⟩ := m
  simp only [get?, map]
  clear h
  induction entries with
  | nil => rfl
  | cons head rest ih =>
      rw [List.map_cons, lookup_cons_eq_ite, lookup_cons_eq_ite, ih]
      split <;> rfl

@[simp] theorem insertAll_nil (m : KeyMap α) : m.insertAll [] = m := rfl

theorem insertAll_cons (m : KeyMap α) (e : String × α) (pairs : List (String × α)) :
    m.insertAll (e :: pairs) = (m.insert e.1 e.2).insertAll pairs := rfl

end KeyMap

end CommandBot
