import CommandBot.Json.Reader
import CommandBot.Proofs.Json.Parts
import CommandBot.Proofs.Json.Written
import CommandBot.Proofs.KeyMap
import Mathlib.Data.List.Forall2

/-!
# Reading back what is written

Strings, truth values, integers of 64 bits and lists of strings are read from the shapes that they
are written in. A map is read back just when each of its values is (`mapOf?_shape_eq_some_iff`),
because its keys are written in ascending order and each once.
-/

namespace CommandBot.Json

theorem characters?_unit_of_lt {code : Nat} (h : code < 0xD800) (rest : List StringPart) :
    characters? (.unit code :: rest) = (characters? rest).map (Char.ofNat code :: ·) := by
  have hhigh : isHighHalf code = false := by
    simp only [isHighHalf, Bool.and_eq_false_iff, decide_eq_false_iff_not]
    omega
  have hlow : isLowHalf code = false := by
    simp only [isLowHalf, Bool.and_eq_false_iff, decide_eq_false_iff_not]
    omega
  rw [characters?.eq_def]
  simp only [hhigh, hlow]
  rfl

theorem characters?_map_partOf (cs : List Char) : characters? (cs.map partOf) = some cs := by
  induction cs with
  | nil => rfl
  | cons c cs ih =>
      rw [List.map_cons, partOf]
      split
      · rename_i hcontrol
        have hlt : c.toNat < 32 := by
          unfold isPlainControl at hcontrol
          exact of_decide_eq_true (Bool.and_eq_true_iff.1 hcontrol).1
        rw [characters?_unit_of_lt (by omega), ih, Option.map_some, Char.ofNat_toNat]
      · rw [characters?, ih]
        rfl

/-- A string is read from the parts that it is written with. -/
@[simp] theorem stringOf?_partsOf (s : String) : stringOf? (partsOf s) = some s := by
  rw [stringOf?, partsOf, characters?_map_partOf]
  simp

/-- An integer of 64 bits is read from the digits that it is written with. -/
theorem value?_integerText {n : Int} (h : integerInRange n = true) :
    (integerText n).value? = some (.integer n) := by
  simp only [integerInRange, Bool.and_eq_true, decide_eq_true_eq] at h
  obtain ⟨hlow, hhigh⟩ := h
  simp only [NumberText.value?, integerText, Number.digitsValue_toDigits]
  by_cases hneg : n < 0
  · have habs : -(n.natAbs : Int) = n := by omega
    have hpos : 0 < n.natAbs := by omega
    have hle : n.natAbs ≤ Number.twoPow 63 := by omega
    simp only [hneg, decide_true, Bool.not_true, Bool.false_and, Bool.false_eq_true, if_false, hpos,
      hle, Bool.and_self, if_true, habs]
  · have habs : (n.natAbs : Int) = n := by omega
    have hlt : n.natAbs < Number.twoPow 64 := by omega
    simp only [hneg, decide_false, Bool.not_false, hlt, decide_true, Bool.and_self, if_true, habs]

theorem integerInRange_of_fitsSigned {n : Int} (h : Number.fitsSigned 64 n = true) :
    integerInRange n = true := by
  have hle : Number.twoPow 63 ≤ Number.twoPow 64 := by decide
  simp only [Number.fitsSigned, Bool.and_eq_true, decide_eq_true_eq] at h
  simp only [integerInRange, Bool.and_eq_true, decide_eq_true_eq]
  change -(Number.twoPow 63 : Int) ≤ n ∧ n < (Number.twoPow 63 : Int) at h
  omega

theorem string?_shape (s : String) : (shape (.string s)).string? = some s := stringOf?_partsOf s

theorem integer?_shape {n : Int} (h : integerInRange n = true) :
    (shape (.integer n)).integer? = some n := by
  simp only [shape, Raw.integer?, value?_integerText h]

theorem mapM_string?_itemShapes (names : List String) :
    (itemShapes (names.map Json.string)).mapM Raw.string? = some names := by
  induction names with
  | nil => rfl
  | cons name rest ih =>
      rw [List.map_cons, itemShapes, List.mapM_cons, string?_shape, ih]
      rfl

/-! ### Members -/

theorem readKeys?_memberShapes (members : List (String × Json)) :
    Raw.readKeys? (memberShapes members) = some (members.map fun e => (e.1, shape e.2)) := by
  induction members with
  | nil => rfl
  | cons e rest ih =>
      obtain ⟨key, value⟩ := e
      simp [memberShapes, Raw.readKeys?, ih]

theorem mapM_eq_some_iff {α β : Type} {f : α → Option β} {as : List α} {bs : List β} :
    as.mapM f = some bs ↔ List.Forall₂ (fun a b => f a = some b) as bs := by
  induction as generalizing bs with
  | nil =>
      rw [List.mapM_nil, List.forall₂_nil_left_iff]
      exact ⟨fun h => (Option.some.inj h).symm, fun h => h ▸ rfl⟩
  | cons a as ih =>
      rw [List.mapM_cons, List.forall₂_cons_left_iff]
      constructor
      · intro h
        cases hhead : f a with
        | none => simp [hhead] at h
        | some b =>
            cases htail : as.mapM f with
            | none => simp [hhead, htail] at h
            | some rest =>
                simp only [hhead, htail, Option.bind_eq_bind, Option.bind_some] at h
                exact ⟨b, rest, rfl, ih.1 htail, (Option.some.inj h).symm⟩
      · rintro ⟨b, rest, hhead, htail, rfl⟩
        rw [hhead, ih.2 htail]
        rfl

theorem exists_of_mem_mapM {α β : Type} {f : α → Option β} {as : List α} {bs : List β}
    (h : as.mapM f = some bs) {b : β} (hb : b ∈ bs) : ∃ a ∈ as, f a = some b := by
  have hall := mapM_eq_some_iff.1 h
  clear h
  induction hall with
  | nil => cases hb
  | cons hhead _ ih =>
      rcases List.mem_cons.1 hb with rfl | hb
      · exact ⟨_, List.mem_cons_self, hhead⟩
      · obtain ⟨a, ha, hf⟩ := ih hb
        exact ⟨a, List.mem_cons_of_mem _ ha, hf⟩

/-- Entries that are read one by one have the keys of those that they are read from. -/
theorem map_fst_of_forall₂ {α β : Type} {f : α → Option β} {as : List (String × α)}
    {bs : List (String × β)}
    (h : List.Forall₂ (fun a b => ((f a.2).map fun value => (a.1, value)) = some b) as bs) :
    bs.map (·.1) = as.map (·.1) := by
  induction h with
  | nil => rfl
  | cons hhead _ ih =>
      obtain ⟨value, -, hvalue⟩ := Option.map_eq_some_iff.1 hhead
      rw [List.map_cons, List.map_cons, ih, ← hvalue]

theorem ascending_of_map_fst_eq {α β : Type} {as : List (String × α)} {bs : List (String × β)}
    (has : Ascending as) (h : bs.map (·.1) = as.map (·.1)) : Ascending bs := by
  have hkeys : (as.map (·.1)).Pairwise (· < ·) := List.pairwise_map.2 has
  rw [← h] at hkeys
  exact List.pairwise_map.1 hkeys

/-! ### What is read lies in the shape -/

theorem exists_mem_of_readKeys? {members : List (List StringPart × Raw)}
    {named : List (String × Raw)} (h : Raw.readKeys? members = some named) {e : String × Raw}
    (he : e ∈ named) : ∃ member ∈ members, member.2 = e.2 := by
  induction members generalizing named with
  | nil =>
      obtain rfl := Option.some.inj h
      cases he
  | cons first rest ih =>
      simp only [Raw.readKeys?, Option.bind_eq_bind, Option.bind_eq_some_iff] at h
      obtain ⟨key, -, others, hothers, h⟩ := h
      obtain rfl := Option.some.inj h
      rcases List.mem_cons.1 he with rfl | he
      · exact ⟨first, List.mem_cons_self, rfl⟩
      · obtain ⟨member, hmember, heq⟩ := ih hothers he
        exact ⟨member, List.mem_cons_of_mem _ hmember, heq⟩

theorem part_of_readKeys? {members : List (List StringPart × Raw)} {named : List (String × Raw)}
    (h : Raw.readKeys? members = some named) {e : String × Raw} (he : e ∈ named) :
    e.2.Part (.object members) := by
  obtain ⟨member, hmember, heq⟩ := exists_mem_of_readKeys? h he
  exact .member hmember (heq ▸ .self _)

theorem exists_of_mapOf? {α : Type} {f : Raw → Option α} {raw : Raw} {m : KeyMap α}
    (h : raw.mapOf? f = some m) {key : String} {value : α} (hget : m.get? key = some value) :
    ∃ item, item.Part raw ∧ f item = some value := by
  simp only [Raw.mapOf?, Option.bind_eq_bind, Option.bind_eq_some_iff] at h
  obtain ⟨members, hmembers, pairs, hpairs, hmap⟩ := h
  obtain rfl := Option.some.inj hmap
  obtain ⟨e, he, hpair⟩ := exists_of_mem_mapM hpairs (KeyMap.mem_of_get?_ofList hget)
  obtain ⟨read, hread, hpair⟩ := Option.map_eq_some_iff.1 hpair
  refine ⟨e.2, ?_, by rw [hread, (Prod.mk.inj hpair).2]⟩
  cases raw with
  | object members => exact part_of_readKeys? hmembers he
  | _ => cases hmembers

theorem part_of_fields? {raw : Raw} {names : List String} {fields : List (Option Raw)}
    (h : raw.fields? names = some fields) {item : Raw} (hitem : some item ∈ fields) :
    item.Part raw := by
  cases raw with
  | array items =>
      simp only [Raw.fields?] at h
      split at h
      · obtain rfl := Option.some.inj h
        rcases List.mem_append.1 hitem with hitem | hitem
        · obtain ⟨other, hother, heq⟩ := List.mem_map.1 hitem
          obtain rfl := Option.some.inj heq
          exact .item hother (.self _)
        · cases List.eq_of_mem_replicate hitem
      · cases h
  | object members =>
      simp only [Raw.fields?, Option.bind_eq_bind, Option.bind_eq_some_iff] at h
      obtain ⟨named, hnamed, h⟩ := h
      split at h
      · obtain rfl := Option.some.inj h
        obtain ⟨name, -, hlookup⟩ := List.mem_map.1 hitem
        obtain ⟨before, after, rfl, -⟩ := List.lookup_eq_some_iff.1 hlookup
        exact part_of_readKeys? (e := (name, item)) hnamed
          (List.mem_append_right _ List.mem_cons_self)
      · cases h
  | _ => cases h

/-! ### Maps -/

theorem eq_of_forall₂ {α : Type} {r : α → α → Prop} {as bs : List α} (h : List.Forall₂ r as bs)
    (heq : ∀ a ∈ as, ∀ b, r a b → b = a) : bs = as := by
  induction h with
  | nil => rfl
  | @cons a b as bs hfirst hrest ih =>
      rw [heq a List.mem_cons_self b hfirst,
        ih fun c hc => heq c (List.mem_cons_of_mem _ hc)]

section Maps

variable {α : Type} {f : Raw → Option α} {g : α → Json} {m m' : KeyMap α}

/-- A map is read from its shape entry by entry. -/
theorem mapOf?_shape_iff_forall₂ :
    Raw.mapOf? f (shape (.object (m.map g).entries)) = some m' ↔
      List.Forall₂ (fun e read => read.1 = e.1 ∧ f (shape (g e.2)) = some read.2)
        m.entries m'.entries := by
  have hshape : Raw.mapOf? f (shape (.object (m.map g).entries)) =
      (((m.map fun value => shape (g value)).entries.mapM fun e =>
        (f e.2).map fun value => (e.1, value)).map KeyMap.ofList) := by
    simp only [Raw.mapOf?, shape, Raw.members?, readKeys?_memberShapes, KeyMap.entries_map,
      List.map_map, Option.bind_eq_bind, Option.bind_some, Option.map_eq_bind]
    rfl
  have hentry : ∀ e read : String × α, ((f (shape (g e.2))).map fun value => (e.1, value)) =
      some read ↔ read.1 = e.1 ∧ f (shape (g e.2)) = some read.2 := by
    intro e read
    rw [Option.map_eq_some_iff]
    constructor
    · rintro ⟨value, hvalue, rfl⟩
      exact ⟨rfl, hvalue⟩
    · rintro ⟨hkey, hvalue⟩
      exact ⟨read.2, hvalue, Prod.ext hkey.symm rfl⟩
  rw [hshape, Option.map_eq_some_iff]
  constructor
  · rintro ⟨pairs, hpairs, rfl⟩
    have hall := mapM_eq_some_iff.1 hpairs
    have hascending := ascending_of_map_fst_eq (m.map _).ascending (map_fst_of_forall₂ hall)
    rw [KeyMap.entries_map, List.forall₂_map_left_iff] at hall
    rw [KeyMap.entries_ofList_of_ascending hascending]
    exact hall.imp fun e read => (hentry e read).1
  · intro h
    refine ⟨m'.entries, mapM_eq_some_iff.2 ?_, KeyMap.ofList_entries m'⟩
    rw [KeyMap.entries_map, List.forall₂_map_left_iff]
    exact h.imp fun e read => (hentry e read).2

/-- A map is read back just when each of its values is. -/
theorem mapOf?_shape_eq_some_iff :
    Raw.mapOf? f (shape (.object (m.map g).entries)) = some m ↔
      ∀ key value, m.get? key = some value → f (shape (g value)) = some value := by
  rw [mapOf?_shape_iff_forall₂, List.forall₂_same]
  exact ⟨fun h key value hget => (h (key, value) (KeyMap.mem_of_get? hget)).2,
    fun h e he => ⟨rfl, h e.1 e.2 (KeyMap.get?_of_mem he)⟩⟩

/-- A map is read as itself if none of its values is read as another. -/
theorem eq_of_mapOf?_shape (h : Raw.mapOf? f (shape (.object (m.map g).entries)) = some m')
    (heq : ∀ key value, m.get? key = some value → ∀ read, f (shape (g value)) = some read →
      read = value) : m' = m :=
  KeyMap.ext_entries (eq_of_forall₂ (mapOf?_shape_iff_forall₂.1 h) fun e he read ⟨hkey, hvalue⟩ =>
    Prod.ext hkey (heq e.1 e.2 (KeyMap.get?_of_mem he) read.2 hvalue))

end Maps

theorem lookup_map_snd {α β : Type} (f : α → β) (entries : List (String × α)) (key : String) :
    (entries.map fun e => (e.1, f e.2)).lookup key = (entries.lookup key).map f := by
  induction entries with
  | nil => rfl
  | cons e rest ih =>
      rw [List.map_cons, lookup_cons_eq_ite, lookup_cons_eq_ite, ih]
      split
      · rfl
      · rfl

theorem fields?_shape {names : List String} {members : List (String × Json)}
    (honce : names.all fun name => (members.filter fun e => e.1 == name).length ≤ 1) :
    (shape (.object members)).fields? names =
      some (names.map fun name => (members.lookup name).map shape) := by
  have hcount : ∀ name, ((members.map fun e => (e.1, shape e.2)).filter
      fun e => e.1 == name).length = (members.filter fun e => e.1 == name).length := by
    intro name
    rw [List.filter_map, List.length_map]
    rfl
  simp only [shape, Raw.fields?, readKeys?_memberShapes, Option.bind_eq_bind, Option.bind_some,
    hcount, honce, if_true, lookup_map_snd]

end CommandBot.Json
