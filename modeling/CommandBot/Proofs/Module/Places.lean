import CommandBot.Module.Builtin
import CommandBot.Proofs.Channel.Options
import CommandBot.Proofs.Text.Casing
import Mathlib.Data.List.Nodup

/-!
# What a channel loads, place by place

A channel has a place for each core kind and for each name that its config asks for, in lowercase
(`contains_load_iff`). The place of a kind holds what was built from the options in effect
(`get?_load`): the options that are stored under the name of the kind, over the defaults. Nothing
else of the config counts, so configs that agree in this load the same modules (`load_congr`).
-/

namespace CommandBot

namespace Kind

variable {ι : Type}

/-- The options in effect where these are stored. -/
def inEffect (k : Kind ι) (options : KeyMap Json.Options) : Json.Options :=
  effective k.defaults (options.get? k.name)

/-- The place of a module of which this was built. -/
def place (k : Kind ι) : Except String ι → Slot ι
  | .ok body => .loaded ⟨k.name, k.help, k.arity, body⟩
  | .error reason => .unavailable reason

/-- Whether the kind is loaded where these modules are asked for. -/
def IsWanted (k : Kind ι) (requested : List String) : Prop :=
  k.core = true ∨ k.name ∈ requested.map Text.lower

theorem exists_of_place_eq_loaded {k : Kind ι} {built : Except String ι} {m : Module ι}
    (h : k.place built = .loaded m) : ∃ body, built = .ok body ∧ m.body = body := by
  cases built with
  | error reason => cases h
  | ok body =>
      obtain rfl := Slot.loaded.inj h
      exact ⟨body, rfl, rfl⟩

theorem get?_effective (defaults : Json.Options) (overrides : Option Json.Options) (key : String) :
    (effective defaults overrides).get? key =
      (overrides.bind (·.get? key)).or (defaults.get? key) := by
  cases overrides with
  | none => rfl
  | some set => exact KeyMap.get?_insertAll_of_ascending defaults set.ascending key

/-- A key has the value that is stored for the kind, and else its default. -/
theorem get?_inEffect (k : Kind ι) (options : KeyMap Json.Options) (key : String) :
    (k.inEffect options).get? key = (optionAt? options k.name key).or (k.defaults.get? key) :=
  get?_effective _ _ _

theorem get?_inEffect_setOption (k : Kind ι) (c : Channel) (change : OptionChange) (key : String) :
    (k.inEffect (c.setOption change.moduleName change.key change.value).options).get? key =
      if change.concerns k.name key then some change.value
      else (k.inEffect c.options).get? key := by
  rw [get?_inEffect, get?_inEffect, Channel.optionAt?_setOption]
  split
  · rfl
  · rfl

theorem load_eq (k : Kind ι) (network : Network) (before : List Exchange)
    (overrides : Option Json.Options) :
    k.load network before overrides =
      (k.place (k.build network before (effective k.defaults overrides)).1,
        (k.build network before (effective k.defaults overrides)).2) := by
  unfold load
  split
  · rename_i body after hbuild
    rw [hbuild]
    rfl
  · rename_i reason after hbuild
    rw [hbuild]
    rfl

end Kind

namespace Catalogue

variable {ι : Type}

/-- The kinds have names in lowercase, each its own. -/
structure IsProper (catalogue : Catalogue ι) : Prop where
  lowered : ∀ k ∈ catalogue, Text.lower k.name = k.name
  distinct : ∀ k ∈ catalogue, ∀ other ∈ catalogue, k.name = other.name → k = other

theorem loadKind_eq (network : Network) (options : KeyMap Json.Options) (l : Loading ι)
    (k : Kind ι) :
    loadKind network options l k =
      ⟨⟨l.modules.slots.insert (Text.lower k.name)
          (k.place (k.build network l.exchanges (k.inEffect options)).1)⟩,
        (k.build network l.exchanges (k.inEffect options)).2⟩ := by
  unfold loadKind
  rw [Kind.load_eq]
  rfl

/-! ### Which places there are -/

theorem contains_insert (m : KeyMap (Slot ι)) (name : String) (slot : Slot ι) (key : String) :
    (m.insert name slot).contains key = true ↔ key = name ∨ m.contains key = true := by
  rw [KeyMap.contains, KeyMap.get?_insert, KeyMap.contains]
  by_cases hkey : key = name
  · simp [hkey]
  · simp [hkey]

theorem contains_loadKind_iff (network : Network) (options : KeyMap Json.Options) (l : Loading ι)
    (k : Kind ι) (key : String) :
    (loadKind network options l k).modules.slots.contains key = true ↔
      key = Text.lower k.name ∨ l.modules.slots.contains key = true := by
  rw [loadKind_eq]
  exact contains_insert _ _ _ _

theorem contains_loadRequested_iff {catalogue : Catalogue ι} (h : catalogue.IsProper)
    (network : Network) (options : KeyMap Json.Options) (l : Loading ι) (requested key : String) :
    (loadRequested catalogue network options l requested).modules.slots.contains key = true ↔
      key = Text.lower requested ∨ l.modules.slots.contains key = true := by
  unfold loadRequested
  simp only
  split
  · rename_i hcontains
    refine ⟨.inr, ?_⟩
    rintro (rfl | hkey)
    · exact hcontains
    · exact hkey
  · split
    · rename_i k hfind
      have hname := List.find?_some hfind
      rw [contains_loadKind_iff, h.lowered k (List.mem_of_find?_eq_some hfind), beq_iff_eq.1 hname]
    · rw [Modules.markUnavailable, contains_insert, Text.lower_lower]

theorem contains_foldl_iff {α : Type} {f : Loading ι → α → Loading ι} (name : α → String)
    {steps : List α} {key : String}
    (hstep : ∀ a ∈ steps, ∀ l : Loading ι, (f l a).modules.slots.contains key = true ↔
      key = name a ∨ l.modules.slots.contains key = true) (l : Loading ι) :
    (steps.foldl f l).modules.slots.contains key = true ↔
      (∃ a ∈ steps, name a = key) ∨ l.modules.slots.contains key = true := by
  induction steps generalizing l with
  | nil => simp
  | cons a rest ih =>
      rw [List.foldl_cons, ih (fun b hb => hstep b (List.mem_cons_of_mem _ hb)),
        hstep a List.mem_cons_self]
      simp only [List.mem_cons, exists_eq_or_imp]
      rw [or_left_comm, or_assoc, eq_comm]

/-- There are places for the core kinds and for what is asked for. -/
theorem contains_load_iff {catalogue : Catalogue ι} (h : catalogue.IsProper) (network : Network)
    (before : List Exchange) (requested : List String) (options : KeyMap Json.Options)
    (key : String) :
    (catalogue.load network before requested options).modules.slots.contains key = true ↔
      (∃ k ∈ catalogue, k.core = true ∧ k.name = key) ∨ key ∈ requested.map Text.lower := by
  unfold load
  rw [List.mem_map, contains_foldl_iff Text.lower
      (fun a _ l => contains_loadRequested_iff h network options l a key),
    contains_foldl_iff (fun k : Kind ι => Text.lower k.name)
      (fun k _ l => contains_loadKind_iff network options l k key)]
  have hempty : ¬ (Modules.empty : Modules ι).slots.contains key = true := Bool.false_ne_true
  rw [or_iff_left hempty, or_comm]
  simp only [List.mem_filter, and_assoc]
  refine or_congr_left (exists_congr fun k => and_congr_right fun hk => ?_)
  rw [h.lowered k hk]

theorem isWanted_of_get?_load {catalogue : Catalogue ι} (h : catalogue.IsProper) {k : Kind ι}
    (hk : k ∈ catalogue) {network : Network} {before : List Exchange} {requested : List String}
    {options : KeyMap Json.Options} {slot : Slot ι}
    (hget : (catalogue.load network before requested options).modules.slots.get? k.name =
      some slot) : k.IsWanted requested := by
  have hcontains := (KeyMap.contains_iff _ _).2 ⟨slot, hget⟩
  rcases (contains_load_iff h _ _ _ _ _).1 hcontains with ⟨other, hother, hcore, hname⟩ | hrequested
  · obtain rfl := h.distinct other hother k hk hname
    exact .inl hcore
  · exact .inr hrequested

/-! ### What the places hold -/

/-- A place of this name may hold this: what was built of the kind of the name from the options in
effect, or that there is no such kind. -/
def MayHold (catalogue : Catalogue ι) (network : Network) (options : KeyMap Json.Options)
    (key : String) (slot : Slot ι) : Prop :=
  (∃ k ∈ catalogue, k.name = key ∧
    ∃ sofar, slot = k.place (k.build network sofar (k.inEffect options)).1) ∨
  ((∀ k ∈ catalogue, k.name ≠ key) ∧ slot = .unavailable noSuchKind)

/-- Every place holds what it may. -/
def IsBuilt (catalogue : Catalogue ι) (network : Network) (options : KeyMap Json.Options)
    (l : Loading ι) : Prop :=
  ∀ key slot, l.modules.slots.get? key = some slot → MayHold catalogue network options key slot

theorem isBuilt_loadKind {catalogue : Catalogue ι} (h : catalogue.IsProper) {network : Network}
    {options : KeyMap Json.Options} {l : Loading ι} (hl : IsBuilt catalogue network options l)
    {k : Kind ι} (hk : k ∈ catalogue) :
    IsBuilt catalogue network options (loadKind network options l k) := by
  intro key slot hget
  rw [loadKind_eq, h.lowered k hk, KeyMap.get?_insert] at hget
  split at hget
  · rename_i hname
    exact .inl ⟨k, hk, hname.symm, _, (Option.some.inj hget).symm⟩
  · exact hl key slot hget

theorem isBuilt_loadRequested {catalogue : Catalogue ι} (h : catalogue.IsProper)
    {network : Network} {options : KeyMap Json.Options} {l : Loading ι}
    (hl : IsBuilt catalogue network options l) (requested : String) :
    IsBuilt catalogue network options (loadRequested catalogue network options l requested) := by
  unfold loadRequested
  simp only
  split
  · exact hl
  · split
    · rename_i k hfind
      exact isBuilt_loadKind h hl (List.mem_of_find?_eq_some hfind)
    · rename_i hnone
      intro key slot hget
      rw [Modules.markUnavailable, Text.lower_lower, KeyMap.get?_insert] at hget
      split at hget
      · rename_i hkey
        have hname : ∀ k ∈ catalogue, k.name ≠ key := fun k hk heq =>
          List.find?_eq_none.1 hnone k hk (beq_iff_eq.2 (heq.trans hkey))
        exact .inr ⟨hname, (Option.some.inj hget).symm⟩
      · exact hl key slot hget

/-- What the places hold in the end is what they may. -/
theorem isBuilt_load {catalogue : Catalogue ι} (h : catalogue.IsProper) (network : Network)
    (before : List Exchange) (requested : List String) (options : KeyMap Json.Options) :
    IsBuilt catalogue network options (catalogue.load network before requested options) := by
  unfold load
  refine List.foldlRecOn requested _ (List.foldlRecOn _ _ ?_ ?_) ?_
  · intro key slot hget
    rw [Modules.empty, KeyMap.get?_empty] at hget
    cases hget
  · exact fun l hl k hk => isBuilt_loadKind h hl (List.mem_filter.1 hk).1
  · exact fun l hl name _ => isBuilt_loadRequested h hl name

/-- The place of a kind holds what was built of the kind. -/
theorem eq_of_get?_load {catalogue : Catalogue ι} (h : catalogue.IsProper) {k : Kind ι}
    (hk : k ∈ catalogue) {network : Network} {before : List Exchange} {requested : List String}
    {options : KeyMap Json.Options} {slot : Slot ι}
    (hget : (catalogue.load network before requested options).modules.slots.get? k.name =
      some slot) : ∃ sofar, slot = k.place (k.build network sofar (k.inEffect options)).1 := by
  rcases isBuilt_load h network before requested options _ _ hget with
    ⟨other, hother, hname, hslot⟩ | ⟨hnone, -⟩
  · obtain rfl := h.distinct other hother k hk hname
    exact hslot
  · exact absurd rfl (hnone k hk)

/-- The place of a kind that is wanted holds what was built from the options in effect. -/
theorem get?_load {catalogue : Catalogue ι} (h : catalogue.IsProper) {k : Kind ι}
    (hk : k ∈ catalogue) (network : Network) (before : List Exchange) {requested : List String}
    (hwanted : k.IsWanted requested) (options : KeyMap Json.Options) :
    ∃ sofar, (catalogue.load network before requested options).modules.slots.get? k.name =
      some (k.place (k.build network sofar (k.inEffect options)).1) := by
  have hplace : (catalogue.load network before requested options).modules.slots.contains k.name =
      true :=
    (contains_load_iff h network before requested options k.name).2
      (hwanted.imp (fun hcore => ⟨k, hk, hcore, rfl⟩) id)
  obtain ⟨slot, hslot⟩ := (KeyMap.contains_iff _ _).1 hplace
  obtain ⟨sofar, rfl⟩ := eq_of_get?_load h hk hslot
  exact ⟨sofar, hslot⟩

/-- A name that no kind has has a place that says so, if it is asked for. -/
theorem get?_load_of_forall_ne {catalogue : Catalogue ι} (h : catalogue.IsProper)
    (network : Network) (before : List Exchange) (requested : List String)
    (options : KeyMap Json.Options) {key : String} (hkey : ∀ k ∈ catalogue, k.name ≠ key) :
    (catalogue.load network before requested options).modules.slots.get? key =
      if key ∈ requested.map Text.lower then some (.unavailable noSuchKind) else none := by
  have hplace := contains_load_iff h network before requested options key
  have hcore : ¬ ∃ k ∈ catalogue, k.core = true ∧ k.name = key := by
    rintro ⟨k, hk, -, hname⟩
    exact hkey k hk hname
  rw [or_iff_right hcore] at hplace
  cases hget : (catalogue.load network before requested options).modules.slots.get? key with
  | none =>
      rw [if_neg]
      rw [← hplace, KeyMap.contains, hget]
      exact Bool.false_ne_true
  | some slot =>
      rw [if_pos (hplace.1 ((KeyMap.contains_iff _ _).2 ⟨slot, hget⟩))]
      rcases isBuilt_load h network before requested options key slot hget with
        ⟨k, hk, hname, -⟩ | ⟨-, rfl⟩
      · exact absurd hname (hkey k hk)
      · rfl

/-! ### Configs that load the same -/

theorem loadKind_congr (network : Network) {options options' : KeyMap Json.Options} {k : Kind ι}
    (h : k.inEffect options = k.inEffect options') (l : Loading ι) :
    loadKind network options l k = loadKind network options' l k := by
  rw [loadKind_eq, loadKind_eq, h]

theorem loadRequested_congr {catalogue : Catalogue ι} (network : Network)
    {options options' : KeyMap Json.Options} {requested requested' : String}
    (hname : Text.lower requested = Text.lower requested')
    (hoptions : ∀ k ∈ catalogue, Text.lower requested = k.name →
      k.inEffect options = k.inEffect options') (l : Loading ι) :
    loadRequested catalogue network options l requested =
      loadRequested catalogue network options' l requested' := by
  unfold loadRequested
  rw [← hname]
  simp only
  split
  · rfl
  · split
    · rename_i k hfind
      have hfound := List.find?_some hfind
      refine loadKind_congr network (hoptions k (List.mem_of_find?_eq_some hfind) ?_) l
      exact (beq_iff_eq.1 hfound).symm
    · rfl

/-- The lowercase of the names asked for and the options in effect of the wanted kinds are all that
counts. -/
theorem load_congr {catalogue : Catalogue ι} (network : Network) (before : List Exchange)
    {requested requested' : List String} {options options' : KeyMap Json.Options}
    (hnames : requested.map Text.lower = requested'.map Text.lower)
    (hoptions : ∀ k ∈ catalogue, k.IsWanted requested →
      k.inEffect options = k.inEffect options') :
    catalogue.load network before requested options =
      catalogue.load network before requested' options' := by
  have hcore : (catalogue.filter (·.core)).foldl (loadKind network options) ⟨.empty, before⟩ =
      (catalogue.filter (·.core)).foldl (loadKind network options') ⟨.empty, before⟩ := by
    refine List.foldl_ext _ _ _ fun l k hk => ?_
    obtain ⟨hk, hcore⟩ := List.mem_filter.1 hk
    exact loadKind_congr network (hoptions k hk (.inl hcore)) l
  have hasked : ∀ k ∈ catalogue, k.name ∈ requested.map Text.lower →
      k.inEffect options = k.inEffect options' := fun k hk h => hoptions k hk (.inr h)
  unfold load
  rw [hcore]
  clear hcore hoptions
  generalize (catalogue.filter (·.core)).foldl (loadKind network options') ⟨.empty, before⟩ = l
  induction requested generalizing requested' l with
  | nil =>
      obtain rfl := List.map_eq_nil_iff.1 hnames.symm
      rfl
  | cons name rest ih =>
      obtain ⟨name', rest', rfl, hname, hrest⟩ := List.map_eq_cons_iff.1 hnames.symm
      rw [List.map_cons] at hasked
      rw [List.foldl_cons, List.foldl_cons, loadRequested_congr network hname.symm
        (fun k hk heq => hasked k hk (heq ▸ List.mem_cons_self)) l]
      exact ih hrest.symm (fun k hk hmem => hasked k hk (List.mem_cons_of_mem _ hmem)) _

end Catalogue

/-- The kinds that come with the bot have names in lowercase, each its own. -/
theorem Builtin.isProper_catalogue : Builtin.catalogue.IsProper := by
  have hlowered : ∀ name ∈ Builtin.catalogue.map (·.name), Text.lower name = name := by
    decide +kernel
  have hdistinct : (Builtin.catalogue.map (·.name)).Nodup := by decide +kernel
  exact
    { lowered := fun k hk => hlowered _ (List.mem_map_of_mem hk)
      distinct := fun k hk other hother => List.inj_on_of_nodup_map hdistinct hk hother }

end CommandBot
