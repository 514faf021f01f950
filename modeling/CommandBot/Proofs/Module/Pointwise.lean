import CommandBot.Module.Canned
import CommandBot.Proofs.Module.Places

/-!
# Loading kind by kind

Loading goes through a list of names, but what comes of it does not show this. Every kind that is
wanted is built once and no other is (`HasBuilt`, kept up by every step), so that where a kind makes
the same of the same options whenever it is built (`Kind.IsSteady`), its place follows from its own
options alone. Which places there are goes by the set of the names that are asked for, in lowercase
and without the core kinds (`AskAlike`). `load_pointwise` says all this of one load and of others
that differ from it.
-/

namespace CommandBot

variable {ι : Type}

/-- What is built of the kind follows from the options, whatever has gone out to the network
before. -/
def Kind.IsSteady (k : Kind ι) (network : Network) : Prop :=
  ∀ before before' options,
    (k.build network before options).1 = (k.build network before' options).1

namespace Catalogue

/-- What has gone out to the network after kinds were built in turn. -/
def buildAll (network : Network) (options : KeyMap Json.Options) (before : List Exchange)
    (kinds : List (Kind ι)) : List Exchange :=
  kinds.foldl (fun sofar k => (k.build network sofar (k.inEffect options)).2) before

theorem buildAll_concat (network : Network) (options : KeyMap Json.Options)
    (before : List Exchange) (kinds : List (Kind ι)) (k : Kind ι) :
    buildAll network options before (kinds ++ [k]) =
      (k.build network (buildAll network options before kinds) (k.inEffect options)).2 := by
  rw [buildAll, List.foldl_append]
  rfl

/-- How far loading has come: of the kinds just these have been built, in turn and each once, and
they are those that have a place. -/
structure HasBuilt (catalogue : Catalogue ι) (network : Network) (options : KeyMap Json.Options)
    (before : List Exchange) (kinds : List (Kind ι)) (l : Loading ι) : Prop where
  nodup : kinds.Nodup
  mem_iff : ∀ k, k ∈ kinds ↔ k ∈ catalogue ∧ l.modules.slots.contains k.name = true
  exchanges : l.exchanges = buildAll network options before kinds

/-- The lists ask for the same modules apart from the core ones, be it in another order or letter
case or several times. -/
def AskAlike (catalogue : Catalogue ι) (requested requested' : List String) : Prop :=
  ∀ key, (∀ k ∈ catalogue, k.core = true → k.name ≠ key) →
    (key ∈ requested.map Text.lower ↔ key ∈ requested'.map Text.lower)

section Steps

variable {catalogue : Catalogue ι} {network : Network} {options : KeyMap Json.Options}
  {before : List Exchange} {kinds : List (Kind ι)} {l : Loading ι}

theorem hasBuilt_nothing (catalogue : Catalogue ι) (network : Network)
    (options : KeyMap Json.Options) (before : List Exchange) :
    HasBuilt catalogue network options before [] ⟨.empty, before⟩ where
  nodup := List.nodup_nil
  mem_iff k := by simp [Modules.empty, KeyMap.contains]
  exchanges := rfl

theorem HasBuilt.loadKind (h : HasBuilt catalogue network options before kinds l)
    (hproper : catalogue.IsProper) {k : Kind ι} (hk : k ∈ catalogue)
    (hnew : ¬ l.modules.slots.contains k.name = true) :
    HasBuilt catalogue network options before (kinds ++ [k]) (loadKind network options l k) where
  nodup := by
    refine h.nodup.append (List.nodup_singleton k) ?_
    rw [List.disjoint_singleton]
    exact fun hmem => hnew ((h.mem_iff k).1 hmem).2
  mem_iff other := by
    rw [contains_loadKind_iff, hproper.lowered k hk, List.mem_append, List.mem_singleton, h.mem_iff]
    constructor
    · rintro (⟨hother, hcontains⟩ | rfl)
      · exact ⟨hother, .inr hcontains⟩
      · exact ⟨hk, .inl rfl⟩
    · rintro ⟨hother, hname | hcontains⟩
      · exact .inr (hproper.distinct other hother k hk hname)
      · exact .inl ⟨hother, hcontains⟩
  exchanges := by rw [loadKind_eq, buildAll_concat, h.exchanges]

/-- What is asked for is built if it is a kind that has no place yet. -/
theorem HasBuilt.loadRequested (h : HasBuilt catalogue network options before kinds l)
    (hproper : catalogue.IsProper) (requested : String) :
    ∃ kinds', HasBuilt catalogue network options before kinds'
      (loadRequested catalogue network options l requested) := by
  unfold Catalogue.loadRequested
  simp only
  split
  · exact ⟨kinds, h⟩
  · rename_i hnew
    split
    · rename_i k hfind
      have hfound := List.find?_some hfind
      have hname := beq_iff_eq.1 hfound
      rw [← hname] at hnew
      exact ⟨_, h.loadKind hproper (List.mem_of_find?_eq_some hfind) hnew⟩
    · rename_i hnone
      -- the name gets a place, but it is the name of no kind
      refine ⟨kinds, h.nodup, fun k => ?_, h.exchanges⟩
      rw [h.mem_iff, Modules.markUnavailable, contains_insert, Text.lower_lower]
      refine and_congr_right fun hk => (or_iff_right ?_).symm
      exact fun hname => List.find?_eq_none.1 hnone k hk (beq_iff_eq.2 hname)

/-- Kinds that have no place yet are built in turn. -/
theorem HasBuilt.foldl_loadKind (hproper : catalogue.IsProper) {steps : List (Kind ι)}
    (hsteps : ∀ k ∈ steps, k ∈ catalogue) (hdistinct : (steps.map (·.name)).Nodup)
    (h : HasBuilt catalogue network options before kinds l)
    (hnew : ∀ k ∈ steps, ¬ l.modules.slots.contains k.name = true) :
    ∃ kinds', HasBuilt catalogue network options before kinds'
      (steps.foldl (Catalogue.loadKind network options) l) := by
  induction steps generalizing kinds l with
  | nil => exact ⟨kinds, h⟩
  | cons k rest ih =>
      obtain ⟨hhead, hrest⟩ := List.nodup_cons.1 hdistinct
      have hk := hsteps k List.mem_cons_self
      refine ih (fun other hother => hsteps other (List.mem_cons_of_mem _ hother)) hrest
        (h.loadKind hproper hk (hnew k List.mem_cons_self)) fun other hother => ?_
      rw [contains_loadKind_iff, hproper.lowered k hk]
      rintro (hname | hcontains)
      · exact hhead (List.mem_map.2 ⟨other, hother, hname⟩)
      · exact hnew other (List.mem_cons_of_mem _ hother) hcontains

variable (network options before) in
/-- Of all kinds just those are built that are wanted, each once. -/
theorem exists_hasBuilt_load (hproper : catalogue.IsProper)
    (hdistinct : (catalogue.map (·.name)).Nodup) (requested : List String) :
    ∃ kinds, HasBuilt catalogue network options before kinds
      (catalogue.load network before requested options) := by
  have hcore : ((catalogue.filter (·.core)).map (·.name)).Nodup :=
    hdistinct.sublist (List.filter_sublist.map _)
  have hstart : ∃ kinds, HasBuilt catalogue network options before kinds
      ((catalogue.filter (·.core)).foldl (Catalogue.loadKind network options) ⟨.empty, before⟩) :=
    HasBuilt.foldl_loadKind hproper (fun k hk => (List.mem_filter.1 hk).1) hcore
      (hasBuilt_nothing catalogue network options before) fun k _ => Bool.false_ne_true
  refine List.foldlRecOn
    (motive := fun l => ∃ kinds, HasBuilt catalogue network options before kinds l)
    requested _ hstart ?_
  rintro l ⟨kinds, hl⟩ name -
  exact hl.loadRequested hproper name

end Steps

/-! ### Lists that ask for the same -/

section Alike

variable {catalogue : Catalogue ι} {requested requested' : List String}

theorem askAlike_of_perm (catalogue : Catalogue ι) (h : requested.Perm requested') :
    AskAlike catalogue requested requested' :=
  fun _ _ => (h.map Text.lower).mem_iff

theorem askAlike_of_map_lower_eq (catalogue : Catalogue ι)
    (h : requested.map Text.lower = requested'.map Text.lower) :
    AskAlike catalogue requested requested' :=
  fun _ _ => by rw [h]

theorem askAlike_cons_of_mem (catalogue : Catalogue ι) {name : String}
    (h : Text.lower name ∈ requested.map Text.lower) :
    AskAlike catalogue requested (name :: requested) := by
  intro key _
  rw [List.map_cons, List.mem_cons, or_iff_right_of_imp]
  rintro rfl
  exact h

theorem askAlike_cons_of_core {k : Kind ι} (hk : k ∈ catalogue) (hcore : k.core = true)
    {name : String} (hname : Text.lower name = k.name) :
    AskAlike catalogue requested (name :: requested) := by
  intro key hkey
  rw [List.map_cons, List.mem_cons, or_iff_right]
  rintro rfl
  exact hkey k hk hcore hname.symm

theorem AskAlike.isWanted_iff (h : AskAlike catalogue requested requested')
    (hproper : catalogue.IsProper) {k : Kind ι} (hk : k ∈ catalogue) :
    k.IsWanted requested ↔ k.IsWanted requested' := by
  unfold Kind.IsWanted
  cases hcore : k.core with
  | true => simp
  | false =>
      have hkey : ∀ other ∈ catalogue, other.core = true → other.name ≠ k.name := by
        intro other hother hcore' hname
        rw [hproper.distinct other hother k hk hname, hcore] at hcore'
        cases hcore'
      rw [h k.name hkey]

end Alike

/-! ### The places -/

section Places

variable {catalogue : Catalogue ι} {network : Network} (hproper : catalogue.IsProper)
  (hsteady : ∀ k ∈ catalogue, k.IsSteady network)

include hproper hsteady

/-- The place of a kind follows from its own options. -/
theorem get?_load_of_isSteady {k : Kind ι} (hk : k ∈ catalogue) (before : List Exchange)
    {requested : List String} (hwanted : k.IsWanted requested) (options : KeyMap Json.Options) :
    (catalogue.load network before requested options).modules.slots.get? k.name =
      some (k.place (k.build network [] (k.inEffect options)).1) := by
  obtain ⟨sofar, hplace⟩ := get?_load hproper hk network before hwanted options
  rw [hplace, hsteady k hk sofar []]

/-- Loads that ask for the same give the same modules in the places whose options are the same. -/
theorem get?_load_congr {before before' : List Exchange} {requested requested' : List String}
    (halike : AskAlike catalogue requested requested') {options options' : KeyMap Json.Options}
    {key : String} (hoptions : options.get? key = options'.get? key) :
    (catalogue.load network before requested options).modules.slots.get? key =
      (catalogue.load network before' requested' options').modules.slots.get? key := by
  by_cases hkind : ∃ k ∈ catalogue, k.name = key
  · obtain ⟨k, hk, rfl⟩ := hkind
    by_cases hwanted : k.IsWanted requested
    · have hwanted' := (halike.isWanted_iff hproper hk).1 hwanted
      rw [get?_load_of_isSteady hproper hsteady hk before hwanted,
        get?_load_of_isSteady hproper hsteady hk before' hwanted', Kind.inEffect, Kind.inEffect,
        hoptions]
    · have hnone : ∀ {before requested} {options : KeyMap Json.Options},
          ¬ k.IsWanted requested →
          (catalogue.load network before requested options).modules.slots.get? k.name = none := by
        intro before requested options hnot
        rw [Option.eq_none_iff_forall_ne_some]
        exact fun slot hslot => hnot (isWanted_of_get?_load hproper hk hslot)
      rw [hnone hwanted, hnone fun h => hwanted ((halike.isWanted_iff hproper hk).2 h)]
  · have hother : ∀ k ∈ catalogue, k.name ≠ key := fun k hk hname => hkind ⟨k, hk, hname⟩
    simp only [get?_load_of_forall_ne hproper network _ _ _ hother,
      halike key fun k hk _ => hother k hk]

/-- Lists that ask for the same load the same modules. -/
theorem modules_load_of_askAlike (before : List Exchange) {requested requested' : List String}
    (halike : AskAlike catalogue requested requested') (options : KeyMap Json.Options) :
    (catalogue.load network before requested' options).modules =
      (catalogue.load network before requested options).modules :=
  congrArg Modules.mk (KeyMap.ext_get? fun _ =>
    (get?_load_congr hproper hsteady halike rfl).symm)

end Places

/-- What loading comes to, place by place. -/
structure LoadsPointwise (catalogue : Catalogue ι) (network : Network) (before : List Exchange)
    (requested : List String) (options : KeyMap Json.Options) : Prop where
  /-- There are places for the core kinds and for what is asked for, and no others. -/
  places : ∀ key,
    (catalogue.load network before requested options).modules.slots.contains key = true ↔
      (∃ k ∈ catalogue, k.core = true ∧ k.name = key) ∨ key ∈ requested.map Text.lower
  /-- The place of a kind holds what is built from its defaults and its own options. -/
  kinds : ∀ k ∈ catalogue, k.IsWanted requested →
    (catalogue.load network before requested options).modules.slots.get? k.name =
      some (k.place (k.build network [] (k.inEffect options)).1)
  others : ∀ key ∈ requested.map Text.lower, (∀ k ∈ catalogue, k.name ≠ key) →
    (catalogue.load network before requested options).modules.slots.get? key =
      some (.unavailable noSuchKind)
  /-- All that is done is to build the kinds that are wanted, in some order and each once. -/
  once : ∃ built : List (Kind ι), built.Nodup ∧
    (∀ k, k ∈ built ↔ k ∈ catalogue ∧ k.IsWanted requested) ∧
    (catalogue.load network before requested options).exchanges =
      buildAll network options before built
  inAnyOrder : ∀ requested', requested.Perm requested' →
    (catalogue.load network before requested' options).modules =
      (catalogue.load network before requested options).modules
  inAnyCase : ∀ requested', requested.map Text.lower = requested'.map Text.lower →
    (catalogue.load network before requested' options).modules =
      (catalogue.load network before requested options).modules
  /-- To ask once more makes no difference, also in other letter case. -/
  again : ∀ name, Text.lower name ∈ requested.map Text.lower →
    (catalogue.load network before (name :: requested) options).modules =
      (catalogue.load network before requested options).modules
  /-- To ask for a core kind makes no difference. -/
  coreToo : ∀ k ∈ catalogue, k.core = true → ∀ name, Text.lower name = k.name →
    (catalogue.load network before (name :: requested) options).modules =
      (catalogue.load network before requested options).modules
  /-- All these differences may come together. -/
  alike : ∀ requested', AskAlike catalogue requested requested' →
    (catalogue.load network before requested' options).modules =
      (catalogue.load network before requested options).modules
  /-- The options of one module make no difference to any other place. -/
  apart : ∀ name options', (∀ other, other ≠ name → options'.get? other = options.get? other) →
    ∀ key, key ≠ name →
      (catalogue.load network before requested options').modules.slots.get? key =
        (catalogue.load network before requested options).modules.slots.get? key

/-- Whatever is asked for, a catalogue whose kinds have distinct names in lowercase and make the
same of the same options is loaded place by place. -/
theorem load_pointwise {catalogue : Catalogue ι} {network : Network}
    (hlowered : ∀ k ∈ catalogue, Text.lower k.name = k.name)
    (hdistinct : (catalogue.map (·.name)).Nodup)
    (hsteady : ∀ k ∈ catalogue, k.IsSteady network) (before : List Exchange)
    (requested : List String) (options : KeyMap Json.Options) :
    LoadsPointwise catalogue network before requested options := by
  have hproper : catalogue.IsProper :=
    ⟨hlowered, fun k hk other hother => List.inj_on_of_nodup_map hdistinct hk hother⟩
  have hplaces := contains_load_iff hproper network before requested options
  have hsame : ∀ requested', AskAlike catalogue requested requested' →
      (catalogue.load network before requested' options).modules =
        (catalogue.load network before requested options).modules :=
    fun _ halike => modules_load_of_askAlike hproper hsteady before halike options
  exact
    { places := hplaces
      kinds := fun k hk hwanted => get?_load_of_isSteady hproper hsteady hk before hwanted options
      others := fun key hkey hother => by
        rw [get?_load_of_forall_ne hproper network before requested options hother, if_pos hkey]
      once := by
        obtain ⟨built, hbuilt⟩ :=
          exists_hasBuilt_load network options before hproper hdistinct requested
        refine ⟨built, hbuilt.nodup, fun k => ?_, hbuilt.exchanges⟩
        rw [hbuilt.mem_iff, hplaces]
        refine and_congr_right fun hk => or_congr_left ?_
        constructor
        · rintro ⟨other, hother, hcore, hname⟩
          rwa [← hproper.distinct other hother k hk hname]
        · exact fun hcore => ⟨k, hk, hcore, rfl⟩
      inAnyOrder := fun _ hperm => hsame _ (askAlike_of_perm catalogue hperm)
      inAnyCase := fun _ hcase => hsame _ (askAlike_of_map_lower_eq catalogue hcase)
      again := fun _ hmem => hsame _ (askAlike_cons_of_mem catalogue hmem)
      coreToo := fun _ hk hcore _ hname => hsame _ (askAlike_cons_of_core hk hcore hname)
      alike := hsame
      apart := fun name options' hoptions key hkey =>
        get?_load_congr hproper hsteady (fun _ _ => Iff.rfl) (hoptions key hkey) }

/-- A list that asks for one module twice, for a core module that cannot be built and for one that
there is not, and a shorter one that asks for the same. -/
theorem load_pointwise_repeated :
    let broken : Kind Canned := ⟨"broken", "Never loads.", .all, true, .empty,
      fun _ before _ => (.error "api key missing", before ++ [.request "https://api"])⟩
    let fixed : Kind Canned := ⟨"fixed", "Says a text.", .upTo 0, false,
      .ofList [("text", .string "hi")], fun _ before options =>
        (match options.get? "text" with
          | some (.string text) => .ok (.fixed text)
          | _ => .error "no text", before)⟩
    let options : KeyMap Json.Options := .ofList [("fixed", .ofList [("text", .string "yo")])]
    let requested := ["FIXED", "Ghost", "fixed", "Broken"]
    ∃ loaded, Catalogue.load [broken, fixed] .down [] requested options = loaded ∧
      (Catalogue.load [broken, fixed] .down [] ["ghost", "Fixed"] options).modules =
        loaded.modules ∧
      loaded.modules.slots.get? "fixed" =
        some (.loaded ⟨"fixed", "Says a text.", .upTo 0, .fixed "yo"⟩) ∧
      loaded.modules.slots.get? "broken" = some (.unavailable "api key missing") ∧
      loaded.modules.slots.get? "ghost" = some (.unavailable noSuchKind) ∧
      ∃ built : List (Kind Canned), built.Nodup ∧ broken ∈ built ∧
        loaded.exchanges = buildAll .down options [] built := by
  intro broken fixed options requested
  have hlowered : ∀ k ∈ [broken, fixed], Text.lower k.name = k.name := by
    have hnames : ∀ name ∈ [broken, fixed].map (·.name), Text.lower name = name := by
      decide +kernel
    exact fun k hk => hnames _ (List.mem_map_of_mem hk)
  have hsteady : ∀ k ∈ [broken, fixed], k.IsSteady .down := by
    simp only [List.mem_cons, List.not_mem_nil, or_false, forall_eq_or_imp, forall_eq]
    exact ⟨fun _ _ _ => rfl, fun _ _ _ => rfl⟩
  have h := load_pointwise hlowered (by decide +kernel) hsteady [] requested options
  have halike : AskAlike [broken, fixed] requested ["ghost", "Fixed"] := by
    intro key hkey
    have hbroken : key ≠ "broken" := (hkey broken List.mem_cons_self rfl).symm
    have hlower : requested.map Text.lower = ["fixed", "ghost", "fixed", "broken"] := by
      decide +kernel
    have hlower' : ["ghost", "Fixed"].map Text.lower = ["ghost", "fixed"] := by decide +kernel
    simp only [hlower, hlower', List.mem_cons, List.not_mem_nil, hbroken, or_false]
    tauto
  have hfixed : fixed.place (fixed.build .down [] (fixed.inEffect options)).1 =
      .loaded ⟨"fixed", "Says a text.", .upTo 0, .fixed "yo"⟩ := by
    decide +kernel
  have hghost : ∀ k ∈ [broken, fixed], k.name ≠ "ghost" := by
    have hnames : ∀ name ∈ [broken, fixed].map (·.name), name ≠ "ghost" := by decide +kernel
    exact fun k hk => hnames _ (List.mem_map_of_mem hk)
  obtain ⟨built, hnodup, hbuilt, hexchanges⟩ := h.once
  refine ⟨_, rfl, h.alike _ halike, ?_, h.kinds broken List.mem_cons_self (.inl rfl),
    h.others "ghost" (by decide +kernel) hghost, built, hnodup,
    (hbuilt broken).2 ⟨List.mem_cons_self, .inl rfl⟩, hexchanges⟩
  rw [← hfixed]
  exact h.kinds fixed (by simp) (.inr (by decide +kernel))

end Catalogue

end CommandBot
