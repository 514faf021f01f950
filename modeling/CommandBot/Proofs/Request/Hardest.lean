import CommandBot.Proofs.Request.Delivery
import Mathlib.Data.List.Nodup

/-!
# The hardest beatmap

Ratings are compared in the total order of floating-point numbers (`Binary64.TotalLe`), in which
every text has a rating, if only zero. Of the beatmaps that answer a look-up the module takes the
first of those with the highest rating (`IsHardest`), so that the order of the answer counts only
among equals (`IsHardest.perm`).
-/

namespace CommandBot

namespace Binary64

/-- The total order. A number with a sign comes before one without; of two without a sign the one
with the lower magnitude comes first, and of two with a sign the one with the higher. -/
inductive TotalLe (x y : Binary64) : Prop where
  | signs (hx : x.negative = true) (hy : y.negative = false) : TotalLe x y
  | rising (hx : x.negative = false) (hy : y.negative = false) (h : x.magnitude ≤ y.magnitude) :
      TotalLe x y
  | falling (hx : x.negative = true) (hy : y.negative = true) (h : y.magnitude ≤ x.magnitude) :
      TotalLe x y

theorem rank_of_negative {x : Binary64} (h : x.negative = true) :
    x.rank = -(x.magnitude : Int) - 1 := by
  rw [rank, if_pos h]

theorem rank_of_not_negative {x : Binary64} (h : x.negative = false) :
    x.rank = x.magnitude := by
  rw [rank, h]
  exact if_neg Bool.false_ne_true

theorem rank_le_iff_totalLe (x y : Binary64) : x.rank ≤ y.rank ↔ TotalLe x y := by
  constructor
  · intro h
    cases hx : x.negative with
    | true =>
        cases hy : y.negative with
        | true =>
            rw [rank_of_negative hx, rank_of_negative hy] at h
            exact .falling hx hy (by omega)
        | false => exact .signs hx hy
    | false =>
        cases hy : y.negative with
        | true =>
            rw [rank_of_not_negative hx, rank_of_negative hy] at h
            omega
        | false =>
            rw [rank_of_not_negative hx, rank_of_not_negative hy] at h
            exact .rising hx hy (Int.ofNat_le.1 h)
  · rintro (⟨hx, hy⟩ | ⟨hx, hy, h⟩ | ⟨hx, hy, h⟩)
    · rw [rank_of_negative hx, rank_of_not_negative hy]
      omega
    · rw [rank_of_not_negative hx, rank_of_not_negative hy]
      exact Int.ofNat_le.2 h
    · rw [rank_of_negative hx, rank_of_negative hy]
      omega

theorem toNat_bits (x : Binary64) :
    x.bits.toNat = (if x.negative then Number.twoPow 63 else 0) + x.magnitude := by
  have hbits : x.bits.toNat < Number.twoPow 63 + Number.twoPow 63 := x.bits.toNat_lt
  rw [magnitude]
  by_cases h : Number.twoPow 63 ≤ x.bits.toNat
  · have hnegative : x.negative = true := decide_eq_true h
    rw [if_pos hnegative, Nat.mod_eq_sub_mod h, Nat.mod_eq_of_lt (by omega)]
    omega
  · have hnegative : ¬ x.negative = true := fun hsign => h (of_decide_eq_true hsign)
    rw [if_neg hnegative, Nat.mod_eq_of_lt (Nat.not_le.1 h), Nat.zero_add]

/-- No two numbers have the same place in the total order. -/
theorem rank_injective : Function.Injective rank := by
  intro x y h
  have hle := (rank_le_iff_totalLe x y).1 (Int.le_of_eq h)
  have hge := (rank_le_iff_totalLe y x).1 (Int.le_of_eq h.symm)
  have hnegative : x.negative = y.negative := by
    rcases hle with ⟨hx, hy⟩ | ⟨hx, hy, -⟩ | ⟨hx, hy, -⟩
    · rcases hge with ⟨hy', hx'⟩ | ⟨hy', hx', -⟩ | ⟨hy', hx', -⟩
      all_goals simp_all
    · rw [hx, hy]
    · rw [hx, hy]
  have hmagnitude : x.magnitude = y.magnitude := by
    unfold rank at h
    rw [hnegative] at h
    split at h
    all_goals omega
  have hbits : x.bits.toNat = y.bits.toNat := by
    rw [toNat_bits, toNat_bits, hnegative, hmagnitude]
  cases x with
  | mk bits => exact congrArg Binary64.mk (UInt64.toNat_inj.1 hbits)

end Binary64

namespace Request

/-- The beatmap is in the list, those before it are rated lower, and those after it are not rated
higher. -/
def IsHardest (maps : List Beatmap) (map : Beatmap) : Prop :=
  ∃ before after, maps = before ++ map :: after ∧
    (∀ other ∈ before, ¬ map.stars.TotalLe other.stars) ∧
    ∀ other ∈ after, other.stars.TotalLe map.stars

/-! ### The beatmap that is taken -/

theorem isHardest_iff_rank {maps : List Beatmap} {map : Beatmap} :
    IsHardest maps map ↔ ∃ before after, maps = before ++ map :: after ∧
      (∀ other ∈ before, other.stars.rank < map.stars.rank) ∧
      ∀ other ∈ after, other.stars.rank ≤ map.stars.rank := by
  simp only [IsHardest, ← Binary64.rank_le_iff_totalLe, Int.not_le]

theorem IsHardest.mem {maps : List Beatmap} {map : Beatmap} (h : IsHardest maps map) :
    map ∈ maps := by
  obtain ⟨before, after, rfl, -⟩ := h
  exact List.mem_append_right _ List.mem_cons_self

theorem IsHardest.rank_le {maps : List Beatmap} {map other : Beatmap} (h : IsHardest maps map)
    (hother : other ∈ maps) : other.stars.rank ≤ map.stars.rank := by
  obtain ⟨before, after, rfl, hbefore, hafter⟩ := isHardest_iff_rank.1 h
  rcases List.mem_append.1 hother with hother | hother
  · exact Int.le_of_lt (hbefore other hother)
  · rcases List.mem_cons.1 hother with rfl | hother
    · exact Int.le_refl _
    · exact hafter other hother

theorem exists_isHardest {maps : List Beatmap} (h : maps ≠ []) : ∃ map, IsHardest maps map := by
  induction maps with
  | nil => exact absurd rfl h
  | cons first rest ih =>
      by_cases hrest : rest = []
      · subst hrest
        exact ⟨first, [], [], rfl, by simp, by simp⟩
      · obtain ⟨map, hmap⟩ := ih hrest
        by_cases hle : map.stars.rank ≤ first.stars.rank
        · refine ⟨first, isHardest_iff_rank.2 ⟨[], rest, rfl, by simp, fun other hother => ?_⟩⟩
          exact Int.le_trans (hmap.rank_le hother) hle
        · obtain ⟨before, after, rfl, hbefore, hafter⟩ := isHardest_iff_rank.1 hmap
          refine ⟨map, isHardest_iff_rank.2 ⟨first :: before, after, rfl, ?_, hafter⟩⟩
          exact List.forall_mem_cons.2 ⟨Int.not_le.1 hle, hbefore⟩

/-- Whether the first of two beatmaps is rated no lower than the second. -/
def ratedNoLower (a b : Beatmap) : Bool := b.stars.rank ≤ a.stars.rank

theorem ratedNoLower_trans (a b c : Beatmap) (hab : ratedNoLower a b = true)
    (hbc : ratedNoLower b c = true) : ratedNoLower a c = true :=
  decide_eq_true (Int.le_trans (of_decide_eq_true hbc) (of_decide_eq_true hab))

theorem ratedNoLower_total (a b : Beatmap) : (ratedNoLower a b || ratedNoLower b a) = true := by
  rw [Bool.or_eq_true]
  exact (Int.le_total b.stars.rank a.stars.rank).imp decide_eq_true decide_eq_true

/-- The beatmaps of one rating, in the order of the list. -/
def ratedAt (rank : Int) (maps : List Beatmap) : List Beatmap :=
  maps.filter fun map => map.stars.rank == rank

/-- Beatmaps of one rating stand in the same order after the sorting as before. -/
theorem ratedAt_mergeSort (rank : Int) (maps : List Beatmap) :
    ratedAt rank (maps.mergeSort ratedNoLower) = ratedAt rank maps := by
  have hequal : (ratedAt rank maps).Pairwise fun a b => ratedNoLower a b = true := by
    refine List.pairwise_of_forall_mem_list fun a ha b hb => ?_
    have hrank := beq_iff_eq.1 (List.mem_filter.1 ha).2
    have hrank' := beq_iff_eq.1 (List.mem_filter.1 hb).2
    exact decide_eq_true (Int.le_of_eq (hrank'.trans hrank.symm))
  have hsublist : List.Sublist (ratedAt rank maps) (maps.mergeSort ratedNoLower) :=
    List.sublist_mergeSort ratedNoLower_trans ratedNoLower_total hequal List.filter_sublist
  have hkept : List.Sublist (ratedAt rank maps) (ratedAt rank (maps.mergeSort ratedNoLower)) := by
    have hfiltered := hsublist.filter fun map => map.stars.rank == rank
    rwa [ratedAt, List.filter_filter, funext fun map => Bool.and_self (_ == _)] at hfiltered
  -- the sorting neither adds a beatmap nor loses one
  have hlength := ((List.mergeSort_perm maps ratedNoLower).filter
    fun map => map.stars.rank == rank).length_eq
  exact (hkept.eq_of_length hlength.symm).symm

theorem head?_ratedAt_of_isHardest {maps : List Beatmap} {map : Beatmap} (h : IsHardest maps map) :
    (ratedAt map.stars.rank maps).head? = some map := by
  obtain ⟨before, after, rfl, hbefore, -⟩ := isHardest_iff_rank.1 h
  have hnone : ratedAt map.stars.rank before = [] := List.filter_eq_nil_iff.2 fun other hother => by
    simpa using Int.ne_of_lt (hbefore other hother)
  rw [ratedAt, List.filter_append, ← ratedAt, hnone, List.nil_append,
    List.filter_cons_of_pos (by simp)]
  rfl

/-- The first after the sorting has the highest rating, and of the beatmaps with that rating it is
the one that came first before. -/
theorem hardest?_of_isHardest {maps : List Beatmap} {map : Beatmap} (h : IsHardest maps map) :
    hardest? maps = some map := by
  have hmem : map ∈ maps.mergeSort ratedNoLower := List.mem_mergeSort.2 h.mem
  have hsorted := List.pairwise_mergeSort ratedNoLower_trans ratedNoLower_total maps
  have hsame := ratedAt_mergeSort map.stars.rank maps
  change (maps.mergeSort ratedNoLower).head? = some map
  cases hfirst : maps.mergeSort ratedNoLower with
  | nil =>
      rw [hfirst] at hmem
      cases hmem
  | cons first rest =>
      have hlow : first.stars.rank ≤ map.stars.rank :=
        h.rank_le (List.mem_mergeSort.1 (hfirst ▸ List.mem_cons_self))
      rw [hfirst] at hmem hsorted hsame
      have hhigh : map.stars.rank ≤ first.stars.rank := by
        rcases List.mem_cons.1 hmem with rfl | hrest
        · exact Int.le_refl _
        · exact of_decide_eq_true ((List.pairwise_cons.1 hsorted).1 map hrest)
      have htop : ratedAt map.stars.rank (first :: rest) = first :: ratedAt map.stars.rank rest :=
        List.filter_cons_of_pos (beq_iff_eq.2 (Int.le_antisymm hlow hhigh))
      rw [← head?_ratedAt_of_isHardest h, ← hsame, htop]
      rfl

theorem hardest?_nil : hardest? [] = none := by
  simp [hardest?]

theorem hardest?_eq_some_iff {maps : List Beatmap} {map : Beatmap} :
    hardest? maps = some map ↔ IsHardest maps map := by
  refine ⟨fun h => ?_, hardest?_of_isHardest⟩
  have hmaps : maps ≠ [] := by
    rintro rfl
    rw [hardest?_nil] at h
    cases h
  obtain ⟨other, hother⟩ := exists_isHardest hmaps
  rw [hardest?_of_isHardest hother] at h
  exact Option.some.inj h ▸ hother

theorem hardest?_eq_none_iff {maps : List Beatmap} : hardest? maps = none ↔ maps = [] := by
  refine ⟨fun h => ?_, fun h => h ▸ hardest?_nil⟩
  by_contra hmaps
  obtain ⟨map, hmap⟩ := exists_isHardest hmaps
  rw [hardest?_of_isHardest hmap] at h
  cases h

/-- Where no two ratings are the same the order does not count. -/
theorem IsHardest.perm {maps maps' : List Beatmap} {map : Beatmap} (h : IsHardest maps map)
    (hperm : maps.Perm maps') (hratings : (maps.map Beatmap.stars).Nodup) :
    IsHardest maps' map := by
  obtain ⟨before, after, rfl⟩ := List.append_of_mem (hperm.mem_iff.1 h.mem)
  refine isHardest_iff_rank.2 ⟨before, after, rfl, fun other hother => ?_, fun other hother => ?_⟩
  · have hne : other.stars.rank ≠ map.stars.rank := by
      intro heq
      have hdistinct := (hperm.map Beatmap.stars).nodup_iff.1 hratings
      rw [List.map_append, List.map_cons, List.nodup_append] at hdistinct
      exact hdistinct.2.2 _ (List.mem_map_of_mem hother) _ List.mem_cons_self
        (Binary64.rank_injective heq)
    have hle := h.rank_le (hperm.mem_iff.2 (List.mem_append_left _ hother))
    omega
  · exact h.rank_le (hperm.mem_iff.2 (List.mem_append_right _ (List.mem_cons_of_mem _ hother)))

/-! ### The answer of the service -/

theorem answered?_of_listed_error {network : Network} {state : State} {call : Invocation}
    {link : MapLink} {words : String} (h : listed network state call link = .error words) :
    answered? network state call link = none := by
  rw [answered?, h]
  rfl

theorem answered?_of_listed {network : Network} {state : State} {call : Invocation}
    {link : MapLink} {maps : List Beatmap} (h : listed network state call link = .ok maps) :
    answered? network state call link = hardest? maps := by
  rw [answered?, h]
  rfl

/-- The beatmap that a look-up gives: none just if the look-up fails or its list is empty, and
otherwise the first of those in the list whose rating no other exceeds. An answer that lists the
same beatmaps in another order gives the same one if their ratings all differ. -/
theorem answered?_isHardest (network : Network) (state : State) (call : Invocation)
    (link : MapLink) :
    (answered? network state call link = none ↔
      (∃ words, listed network state call link = .error words) ∨
        listed network state call link = .ok []) ∧
    (∀ map, answered? network state call link = some map ↔
      ∃ maps, listed network state call link = .ok maps ∧ IsHardest maps map) ∧
    ∀ (other : Network) (maps maps' : List Beatmap),
      listed network state call link = .ok maps → listed other state call link = .ok maps' →
      maps.Perm maps' → (maps.map Beatmap.stars).Nodup →
      answered? other state call link = answered? network state call link := by
  refine ⟨?_, fun map => ?_, fun other maps maps' hmaps hmaps' hperm hratings => ?_⟩
  · cases hlisted : listed network state call link with
    | error words => simp [answered?_of_listed_error hlisted]
    | ok maps => simp [answered?_of_listed hlisted, hardest?_eq_none_iff]
  · cases hlisted : listed network state call link with
    | error words => simp [answered?_of_listed_error hlisted]
    | ok maps => simp [answered?_of_listed hlisted, hardest?_eq_some_iff]
  · rw [answered?_of_listed hmaps, answered?_of_listed hmaps']
    cases hfound : hardest? maps with
    | none =>
        rw [hardest?_eq_none_iff.1 hfound] at hperm
        rw [hperm.nil_eq.symm, hardest?_nil]
    | some map =>
        exact hardest?_of_isHardest ((hardest?_eq_some_iff.1 hfound).perm hperm hratings)

/-- Of three beatmaps, one of them with a rating that cannot be read, the second is the hardest. It
is taken from an answer that lists them the other way round as well. -/
theorem answered?_isHardest_reversed :
    let answers := fun body : String =>
      (⟨fun _ _ => ⟨0, .ok ⟨200, body⟩⟩, fun _ _ => ⟨0, .ok ()⟩⟩ : Network)
    let network := answers ("[\x7b\"beatmap_id\":\"1\",\"difficultyrating\":\"2.5\"\x7d,"
      ++ "\x7b\"beatmap_id\":\"2\",\"difficultyrating\":\"6.1\"\x7d,"
      ++ "\x7b\"beatmap_id\":\"3\",\"difficultyrating\":\"?\"\x7d]")
    let other := answers ("[\x7b\"beatmap_id\":\"3\",\"difficultyrating\":\"?\"\x7d,"
      ++ "\x7b\"beatmap_id\":\"2\",\"difficultyrating\":\"6.1\"\x7d,"
      ++ "\x7b\"beatmap_id\":\"1\",\"difficultyrating\":\"2.5\"\x7d]")
    let map : Beatmap := { plainMap with id := "2", title := "", rating := "6.1" }
    answered? network plainState (requestBy "viewer") (.set "7") = some map ∧
      answered? other plainState (requestBy "viewer") (.set "7") = some map := by
  intro answers network other map
  let easy : Beatmap := { plainMap with id := "1", title := "", rating := "2.5" }
  let unrated : Beatmap := { plainMap with id := "3", title := "", rating := "?" }
  have hlisted : listed network plainState (requestBy "viewer") (.set "7") =
      .ok [easy, map, unrated] := by
    decide +kernel
  have hlisted' : listed other plainState (requestBy "viewer") (.set "7") =
      .ok [unrated, map, easy] := by
    decide +kernel
  have hhardest : IsHardest [easy, map, unrated] map :=
    isHardest_iff_rank.2 ⟨[easy], [unrated], rfl, by decide +kernel, by decide +kernel⟩
  obtain ⟨-, hsome, hperm⟩ :=
    answered?_isHardest network plainState (requestBy "viewer") (.set "7")
  have hfound := (hsome map).2 ⟨_, hlisted, hhardest⟩
  refine ⟨hfound, ?_⟩
  rw [hperm other _ _ hlisted hlisted' (List.reverse_perm [easy, map, unrated]).symm
    (by decide +kernel), hfound]

end Request

end CommandBot
