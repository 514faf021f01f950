import CommandBot.Request.Service

/-!
# Lines of a delivery

A text is a single line if neither a carriage return nor a line feed stands in it. A text that is
written as a list of single lines, each with a line end after it, is written so in one way only, so
that whoever reads it finds these lines and no others.
-/

namespace CommandBot.Request

/-- A text without a carriage return and without a line feed. -/
def IsSingleLine (text : String) : Prop := '\r' ∉ text.toList ∧ '\n' ∉ text.toList

instance (text : String) : Decidable (IsSingleLine text) :=
  inferInstanceAs (Decidable (_ ∧ _))

theorem isSingleLine_append {s t : String} :
    IsSingleLine (s ++ t) ↔ IsSingleLine s ∧ IsSingleLine t := by
  simp only [IsSingleLine, String.toList_append, List.mem_append, not_or]
  exact and_and_and_comm

theorem isSingleLine_ofList {cs : List Char} (h : ∀ c ∈ cs, c ≠ '\r' ∧ c ≠ '\n') :
    IsSingleLine (String.ofList cs) := by
  rw [IsSingleLine, String.toList_ofList]
  exact ⟨fun hc => (h _ hc).1 rfl, fun hc => (h _ hc).2 rfl⟩

theorem isSingleLine_intercalate {separator : String} (hseparator : IsSingleLine separator)
    {parts : List String} (hparts : ∀ part ∈ parts, IsSingleLine part) :
    IsSingleLine (separator.intercalate parts) := by
  induction parts with
  | nil => simp [IsSingleLine]
  | cons part rest ih =>
      have hpart := hparts part List.mem_cons_self
      have hrest := ih fun other hother => hparts other (List.mem_cons_of_mem _ hother)
      cases rest with
      | nil => rwa [String.intercalate_singleton]
      | cons next rest =>
          rw [String.intercalate_cons_cons]
          exact isSingleLine_append.2 ⟨isSingleLine_append.2 ⟨hpart, hseparator⟩, hrest⟩

/-- The text consists of the given lines, each of them single and followed by a line end. -/
def IsWrittenAs (text : String) (lines : List String) : Prop :=
  text = String.join (lines.map (· ++ lineEnd)) ∧ ∀ line ∈ lines, IsSingleLine line

theorem toList_join_map_lineEnd (line : String) (lines : List String) :
    (String.join ((line :: lines).map (· ++ lineEnd))).toList =
      line.toList ++ '\r' :: '\n' :: (String.join (lines.map (· ++ lineEnd))).toList := by
  simp [lineEnd]

/-- Either half of a line end stands in a text once for each line, and as often as in the lines. -/
theorem count_join_map_lineEnd {c : Char} (hc : lineEnd.toList.count c = 1) (lines : List String) :
    (String.join (lines.map (· ++ lineEnd))).toList.count c =
      (lines.flatMap String.toList).count c + lines.length := by
  induction lines with
  | nil => rfl
  | cons line lines ih =>
      have hcons : (String.join ((line :: lines).map (· ++ lineEnd))).toList =
          line.toList ++ lineEnd.toList ++ (String.join (lines.map (· ++ lineEnd))).toList := by
        simp
      rw [hcons, List.count_append, List.count_append, ih, hc, List.flatMap_cons, List.count_append,
        List.length_cons]
      omega

/-- A text that can be written as so many single lines as it has line ends between its parts has no
other line break in these parts. -/
theorem not_mem_of_length_eq {c : Char} (hc : lineEnd.toList.count c = 1)
    {lines parts : List String} (hlines : ∀ line ∈ lines, c ∉ line.toList)
    (hsame : String.join (parts.map (· ++ lineEnd)) = String.join (lines.map (· ++ lineEnd)))
    (hlength : lines.length = parts.length) : ∀ part ∈ parts, c ∉ part.toList := by
  have hcount := congrArg (fun text => text.toList.count c) hsame
  simp only [count_join_map_lineEnd hc] at hcount
  have hzero : (lines.flatMap String.toList).count c = 0 := by
    rw [List.count_eq_zero, List.mem_flatMap]
    rintro ⟨line, hline, hmem⟩
    exact hlines line hline hmem
  have hparts : (parts.flatMap String.toList).count c = 0 := by omega
  exact fun part hpart hmem =>
    List.count_eq_zero.1 hparts (List.mem_flatMap.2 ⟨part, hpart, hmem⟩)

theorem eq_of_append_cons_eq {c : Char} {xs ys xs' ys' : List Char} (hxs : c ∉ xs) (hys : c ∉ ys)
    (h : xs ++ c :: xs' = ys ++ c :: ys') : xs = ys ∧ xs' = ys' := by
  induction xs generalizing ys with
  | nil =>
      cases ys with
      | nil => exact ⟨rfl, (List.cons.inj h).2⟩
      | cons y ys => exact absurd ((List.cons.inj h).1 ▸ List.mem_cons_self) hys
  | cons x xs ih =>
      cases ys with
      | nil => exact absurd ((List.cons.inj h).1 ▸ List.mem_cons_self) hxs
      | cons y ys =>
          obtain ⟨rfl, hrest⟩ := List.cons.inj h
          obtain ⟨rfl, hend⟩ := ih (fun hc => hxs (List.mem_cons_of_mem _ hc))
            (fun hc => hys (List.mem_cons_of_mem _ hc)) hrest
          exact ⟨rfl, hend⟩

theorem not_join_map_lineEnd_eq_nil (line : String) (lines : List String) :
    (String.join ((line :: lines).map (· ++ lineEnd))).toList ≠
      (String.join (([] : List String).map (· ++ lineEnd))).toList := by
  rw [toList_join_map_lineEnd]
  exact List.append_ne_nil_of_right_ne_nil _ (List.cons_ne_nil _ _)

theorem IsWrittenAs.unique {text : String} {lines others : List String}
    (h : IsWrittenAs text lines) (h' : IsWrittenAs text others) : lines = others := by
  induction lines generalizing text others with
  | nil =>
      cases others with
      | nil => rfl
      | cons other others =>
          exact absurd (congrArg String.toList (h'.1.symm.trans h.1))
            (not_join_map_lineEnd_eq_nil other others)
  | cons line lines ih =>
      cases others with
      | nil =>
          exact absurd (congrArg String.toList (h.1.symm.trans h'.1))
            (not_join_map_lineEnd_eq_nil line lines)
      | cons other others =>
          have hsame := congrArg String.toList (h.1.symm.trans h'.1)
          rw [toList_join_map_lineEnd, toList_join_map_lineEnd] at hsame
          obtain ⟨hline, hrest⟩ := eq_of_append_cons_eq (h.2 line List.mem_cons_self).1
            (h'.2 other List.mem_cons_self).1 hsame
          have hlines := ih ⟨rfl, fun l hl => h.2 l (List.mem_cons_of_mem _ hl)⟩
            ⟨String.toList_inj.1 (List.cons.inj hrest).2,
              fun l hl => h'.2 l (List.mem_cons_of_mem _ hl)⟩
          rw [String.toList_inj.1 hline, hlines]

end CommandBot.Request
