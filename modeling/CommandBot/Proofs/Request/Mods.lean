import CommandBot.Request.Mods
import Mathlib.Data.List.Basic

/-!
# Modifiers in one way of writing

However modifiers are asked for, they are written in one way: after a plus, with a comma between any
two, each of them once. What is written so is read as the same modifiers, since a text that spells
modifiers in any letter case and with commas anywhere (`Spells`) is cut into just these
(`modsOf_of_spells`).
-/

namespace CommandBot.Request

/-- The members of a list, each once, in the order in which they first appear in it. -/
structure AreFirsts (all firsts : List String) : Prop where
  mem_iff : ∀ m, m ∈ firsts ↔ m ∈ all
  ordered : firsts.Pairwise fun a b => all.idxOf a < all.idxOf b

/-- The text spells the characters in order, each as it is or in lowercase, with commas anywhere. -/
inductive Spells : (letters text : List Char) → Prop where
  | nil : Spells [] []
  | comma {letters text : List Char} (h : Spells letters text) : Spells letters (',' :: text)
  | same {c : Char} {letters text : List Char} (h : Spells letters text) :
      Spells (c :: letters) (c :: text)
  | lower {c : Char} {letters text : List Char} (h : Spells letters text) :
      Spells (c :: letters) (c.toLower :: text)

/-- A list of modifiers as it is written. -/
def modsLine (mods : List String) : String :=
  if mods = [] then "" else "+" ++ ",".intercalate mods

theorem modsText_eq_modsLine (text : String) : modsText text = modsLine (modsOf text) := by
  unfold modsText modsLine
  split
  · rename_i h
    rw [if_pos h]
  · rename_i h
    rw [if_neg h]

/-! ### The order of first appearance -/

/-- Of two members that are kept, the one that comes first among the kept ones comes first. -/
theorem idxOf_lt_of_filter {p : String → Bool} {all : List String} {a b : String}
    (ha : p a = true) (hb : p b = true)
    (h : (all.filter p).idxOf a < (all.filter p).idxOf b) : all.idxOf a < all.idxOf b := by
  induction all with
  | nil => exact absurd h (Nat.lt_irrefl 0)
  | cons c rest ih =>
      by_cases hc : p c = true
      · rw [List.filter_cons_of_pos hc] at h
        by_cases hca : c = a
        · subst hca
          rw [List.idxOf_cons_self] at h ⊢
          have hcb : c ≠ b := by
            rintro rfl
            rw [List.idxOf_cons_self] at h
            exact Nat.lt_irrefl 0 h
          rw [List.idxOf_cons_ne _ hcb]
          exact Nat.succ_pos _
        · have hcb : c ≠ b := by
            rintro rfl
            rw [List.idxOf_cons_self] at h
            exact Nat.not_lt_zero _ h
          rw [List.idxOf_cons_ne _ hca, List.idxOf_cons_ne _ hcb] at h ⊢
          exact Nat.succ_lt_succ (ih (Nat.lt_of_succ_lt_succ h))
      · rw [List.filter_cons_of_neg hc] at h
        have hca : c ≠ a := by
          rintro rfl
          exact hc ha
        have hcb : c ≠ b := by
          rintro rfl
          exact hc hb
        rw [List.idxOf_cons_ne _ hca, List.idxOf_cons_ne _ hcb]
        exact Nat.succ_lt_succ (ih h)

theorem pairwise_idxOf_eraseDups (all : List String) :
    all.eraseDups.Pairwise fun a b => all.idxOf a < all.idxOf b := by
  match all with
  | [] => exact .nil
  | m :: rest =>
      have hshorter : (rest.filter fun other => !other == m).length < rest.length + 1 :=
        Nat.lt_succ_of_le (List.length_filter_le _ _)
      have hrest := pairwise_idxOf_eraseDups (rest.filter fun other => !other == m)
      have hne : ∀ other ∈ (rest.filter fun other => !other == m).eraseDups, m ≠ other := by
        intro other hother
        have hmem := List.mem_filter.1 (List.mem_eraseDups.1 hother)
        rintro rfl
        simp at hmem
      rw [List.eraseDups_cons, List.pairwise_cons]
      refine ⟨fun other hother => ?_, hrest.imp_of_mem fun {a b} ha hb hlt => ?_⟩
      · rw [List.idxOf_cons_self, List.idxOf_cons_ne _ (hne other hother)]
        exact Nat.succ_pos _
      · rw [List.idxOf_cons_ne _ (hne a ha), List.idxOf_cons_ne _ (hne b hb)]
        refine Nat.succ_lt_succ (idxOf_lt_of_filter ?_ ?_ hlt)
        · simpa using (hne a ha).symm
        · simpa using (hne b hb).symm
termination_by all.length

theorem areFirsts_eraseDups (all : List String) : AreFirsts all all.eraseDups :=
  ⟨fun _ => List.mem_eraseDups, pairwise_idxOf_eraseDups all⟩

theorem AreFirsts.nodup {all firsts : List String} (h : AreFirsts all firsts) : firsts.Nodup :=
  h.ordered.imp fun hlt heq => by
    rw [heq] at hlt
    exact Nat.lt_irrefl _ hlt

theorem eraseDups_of_nodup {all : List String} (h : all.Nodup) : all.eraseDups = all := by
  induction all with
  | nil => rfl
  | cons m rest ih =>
      obtain ⟨hm, hrest⟩ := List.nodup_cons.1 h
      have hkept : (rest.filter fun other => !other == m) = rest :=
        List.filter_eq_self.2 fun other hother => by
          have hne : other ≠ m := fun heq => hm (heq ▸ hother)
          simpa using hne
      rw [List.eraseDups_cons, hkept, ih hrest]

/-! ### Modifiers that are spelled out -/

/-- The characters of modifiers are in uppercase, and none of them is a comma or a plus. -/
theorem upperChar_of_mem_knownMods : ∀ c ∈ knownMods.flatMap String.toList,
    (Text.upperChar c = [c] ∧ c ≠ ',' ∧ c ≠ '+') ∧
      Text.upperChar c.toLower = [c] ∧ c.toLower ≠ ',' ∧ c.toLower ≠ '+' :=
  -- decided along the list, since deciding it for each character that there is would not end
  List.forall_iff_forall_mem.1 (by decide +kernel)

theorem length_of_mem_knownMods : ∀ m ∈ knownMods, m.toList.length = 2 := by decide

theorem flatMap_upperChar_of_spells {letters text : List Char} (h : Spells letters text)
    (hknown : ∀ c ∈ letters, c ∈ knownMods.flatMap String.toList) :
    (text.filter (· != ',')).flatMap Text.upperChar = letters := by
  induction h with
  | nil => rfl
  | comma _ ih =>
      rw [List.filter_cons_of_neg (by simp), ih hknown]
  | @same c letters text _ ih =>
      obtain ⟨⟨hupper, hcomma, -⟩, -⟩ := upperChar_of_mem_knownMods c (hknown c List.mem_cons_self)
      rw [List.filter_cons, if_pos (bne_iff_ne.2 hcomma), List.flatMap_cons, hupper,
        ih fun d hd => hknown d (List.mem_cons_of_mem _ hd)]
      rfl
  | @lower c letters text _ ih =>
      obtain ⟨-, hupper, hcomma, -⟩ := upperChar_of_mem_knownMods c (hknown c List.mem_cons_self)
      rw [List.filter_cons, if_pos (bne_iff_ne.2 hcomma), List.flatMap_cons, hupper,
        ih fun d hd => hknown d (List.mem_cons_of_mem _ hd)]
      rfl

theorem plus_not_mem_of_spells {letters text : List Char} (h : Spells letters text)
    (hknown : ∀ c ∈ letters, c ∈ knownMods.flatMap String.toList) : '+' ∉ text := by
  induction h with
  | nil => exact List.not_mem_nil
  | comma _ ih =>
      rw [List.mem_cons, not_or]
      exact ⟨by decide, ih hknown⟩
  | @same c letters text _ ih =>
      obtain ⟨⟨-, -, hplus⟩, -⟩ := upperChar_of_mem_knownMods c (hknown c List.mem_cons_self)
      rw [List.mem_cons, not_or]
      exact ⟨hplus.symm, ih fun d hd => hknown d (List.mem_cons_of_mem _ hd)⟩
  | @lower c letters text _ ih =>
      obtain ⟨-, -, -, hplus⟩ := upperChar_of_mem_knownMods c (hknown c List.mem_cons_self)
      rw [List.mem_cons, not_or]
      exact ⟨hplus.symm, ih fun d hd => hknown d (List.mem_cons_of_mem _ hd)⟩

theorem dropWhile_plusses {text : List Char} (plusses : Nat) (h : '+' ∉ text) :
    (List.replicate plusses '+' ++ text).dropWhile (· == '+') = text := by
  have hall : ∀ c ∈ List.replicate plusses '+', (c == '+') = true := fun c hc =>
    beq_iff_eq.2 (List.eq_of_mem_replicate hc)
  rw [List.dropWhile_append_of_pos hall]
  cases text with
  | nil => rfl
  | cons c text =>
      have hc : ¬ (c == '+') = true := fun heq => h (beq_iff_eq.1 heq ▸ List.mem_cons_self)
      rw [List.dropWhile_cons, if_neg hc]

/-- Texts of two characters one after the other are cut into themselves. -/
theorem pairs_flatMap_toList {mods : List String} (h : ∀ m ∈ mods, m.toList.length = 2) :
    pairs (mods.flatMap String.toList) = mods := by
  induction mods with
  | nil => rfl
  | cons m mods ih =>
      obtain ⟨a, b, hm⟩ := List.length_eq_two.1 (h m List.mem_cons_self)
      rw [List.flatMap_cons, hm, List.cons_append, List.singleton_append, pairs, ← hm,
        String.ofList_toList, ih fun other hother => h other (List.mem_cons_of_mem _ hother)]

/-- Of a text that spells modifiers, with plusses in front, these are read. -/
theorem modsOf_of_spells {mods : List String} {text : List Char}
    (hmods : ∀ m ∈ mods, m ∈ knownMods) (h : Spells (mods.flatMap String.toList) text)
    (plusses : Nat) :
    modsOf (String.ofList (List.replicate plusses '+' ++ text)) = mods.eraseDups := by
  have hknown : ∀ c ∈ mods.flatMap String.toList, c ∈ knownMods.flatMap String.toList := by
    intro c hc
    obtain ⟨m, hm, hcm⟩ := List.mem_flatMap.1 hc
    exact List.mem_flatMap.2 ⟨m, hmods m hm, hcm⟩
  have hletters : modLetters (String.ofList (List.replicate plusses '+' ++ text)) =
      mods.flatMap String.toList := by
    rw [modLetters, String.toList_ofList,
      dropWhile_plusses plusses (plus_not_mem_of_spells h hknown),
      flatMap_upperChar_of_spells h hknown]
  have hkept : mods.filter knownMods.contains = mods :=
    List.filter_eq_self.2 fun m hm => List.contains_iff_mem.2 (hmods m hm)
  rw [modsOf, hletters, pairs_flatMap_toList fun m hm => length_of_mem_knownMods m (hmods m hm),
    hkept]

/-! ### What is written is read -/

theorem Spells.append {letters letters' text text' : List Char} (h : Spells letters text)
    (h' : Spells letters' text') : Spells (letters ++ letters') (text ++ text') := by
  induction h with
  | nil => exact h'
  | comma _ ih => exact .comma ih
  | same _ ih => exact .same ih
  | lower _ ih => exact .lower ih

theorem spells_self (letters : List Char) : Spells letters letters := by
  induction letters with
  | nil => exact .nil
  | cons c letters ih => exact .same ih

theorem spells_intercalate (mods : List String) :
    Spells (mods.flatMap String.toList) (",".intercalate mods).toList := by
  induction mods with
  | nil => exact .nil
  | cons m mods ih =>
      cases mods with
      | nil =>
          rw [String.intercalate_singleton, List.flatMap_singleton]
          exact spells_self _
      | cons next mods =>
          rw [String.intercalate_cons_cons, String.toList_append, String.toList_append,
            List.flatMap_cons, List.append_assoc]
          exact (spells_self _).append (.comma ih)

theorem mem_knownMods_of_mem_modsOf {text m : String} (h : m ∈ modsOf text) : m ∈ knownMods :=
  List.contains_iff_mem.1 (List.mem_filter.1 (List.mem_eraseDups.1 h)).2

theorem nodup_modsOf (text : String) : (modsOf text).Nodup := (areFirsts_eraseDups _).nodup

theorem modsOf_modsLine {mods : List String} (hmods : ∀ m ∈ mods, m ∈ knownMods)
    (hnodup : mods.Nodup) : modsOf (modsLine mods) = mods := by
  unfold modsLine
  split
  · rename_i hnone
    rw [hnone]
    rfl
  · have hline : "+" ++ ",".intercalate mods =
        String.ofList (List.replicate 1 '+' ++ (",".intercalate mods).toList) := by
      rw [← String.toList_inj, String.toList_append, String.toList_ofList, String.toList_ofList]
      rfl
    rw [hline, modsOf_of_spells hmods (spells_intercalate mods) 1, eraseDups_of_nodup hnodup]

/-- What is written is nothing, or a plus and known modifiers with commas between them, each once,
and written again it stays as it is. Of a text that spells known modifiers, in any letter case, with
commas anywhere and plusses in front, it is these, each once, in the order of first appearance. -/
theorem modsText_normal :
    (∀ text, modsText text = "" ∨
      ∃ mods : List String, mods ≠ [] ∧ mods.Nodup ∧ (∀ m ∈ mods, m ∈ knownMods) ∧
        modsText text = "+" ++ ",".intercalate mods) ∧
    (∀ text, modsText (modsText text) = modsText text) ∧
    ∀ (mods : List String) (text : List Char) (plusses : Nat), (∀ m ∈ mods, m ∈ knownMods) →
      Spells (mods.flatMap String.toList) text →
        ∃ shown, AreFirsts mods shown ∧
          modsText (String.ofList (List.replicate plusses '+' ++ text)) =
            if shown = [] then "" else "+" ++ ",".intercalate shown := by
  refine ⟨fun text => ?_, fun text => ?_, fun mods text plusses hmods h => ?_⟩
  · by_cases hnone : modsOf text = []
    · exact .inl (by rw [modsText_eq_modsLine, modsLine, if_pos hnone])
    · refine .inr ⟨modsOf text, hnone, nodup_modsOf text, fun m => mem_knownMods_of_mem_modsOf, ?_⟩
      rw [modsText_eq_modsLine, modsLine, if_neg hnone]
  · rw [modsText_eq_modsLine text, modsText_eq_modsLine,
      modsOf_modsLine (fun m => mem_knownMods_of_mem_modsOf) (nodup_modsOf text)]
  · refine ⟨mods.eraseDups, areFirsts_eraseDups mods, ?_⟩
    rw [modsText_eq_modsLine, modsOf_of_spells hmods h]
    rfl

theorem modsText_normal_repeated :
    ∃ shown, AreFirsts ["HD", "V2", "HD"] shown ∧
      modsText "++,hD,,v2H,d" = if shown = [] then "" else "+" ++ ",".intercalate shown :=
  modsText_normal.2.2 ["HD", "V2", "HD"] [',', 'h', 'D', ',', ',', 'v', '2', 'H', ',', 'd'] 2
    (by decide) (.comma (.lower (.same (.comma (.comma (.lower (.same (.same (.comma
      (.lower .nil))))))))))

end CommandBot.Request
