import CommandBot.Text.Words

/-!
# The words of a text

A word is never empty and holds no white space, so that as a text it is never blank. A word at the
start of a text goes up to the next white space (`words_append`). Trimming leaves a text alone that
does not start with white space, and otherwise gives one that does not (`trimStart_append`,
`startsBlank_trimStart`).
-/

namespace CommandBot.Text

/-- Whether a text starts with white space. -/
def startsBlank (cs : List Char) : Bool := cs.head?.any isBlank

@[simp] theorem startsBlank_nil : startsBlank [] = false := rfl

@[simp] theorem startsBlank_cons (c : Char) (cs : List Char) :
    startsBlank (c :: cs) = isBlank c := rfl

theorem ne_nil_and_not_blank_of_mem_words {cs w : List Char} (h : w ∈ words cs) :
    w ≠ [] ∧ ∀ c ∈ w, isBlank c = false := by
  induction cs generalizing w with
  | nil => cases h
  | cons c rest ih =>
      rw [words.eq_def] at h
      simp only at h
      split at h
      · exact ih h
      · rename_i hc
        have hsingle : ∀ d ∈ [c], isBlank d = false := by
          intro d hd
          rw [List.mem_singleton.1 hd]
          simpa using hc
        split at h
        · rename_i hwords
          have hhead := ih (by rw [hwords]; exact List.mem_cons_self)
          have htail := fun v hv => ih (w := v) (by rw [hwords]; exact List.mem_cons_of_mem _ hv)
          split at h
          · rcases List.mem_cons.1 h with rfl | h
            · exact ⟨List.cons_ne_nil _ _, hsingle⟩
            · rcases List.mem_cons.1 h with rfl | h
              · exact hhead
              · exact htail w h
          · rcases List.mem_cons.1 h with rfl | h
            · refine ⟨List.cons_ne_nil _ _, fun d hd => ?_⟩
              rcases List.mem_cons.1 hd with rfl | hd
              · exact hsingle d List.mem_cons_self
              · exact hhead.2 d hd
            · exact htail w h
        · rcases List.mem_cons.1 h with rfl | h
          · exact ⟨List.cons_ne_nil _ _, hsingle⟩
          · exact ih h

theorem isBlankText_ofList_of_mem_words {cs w : List Char} (h : w ∈ words cs) :
    isBlankText (String.ofList w) = false := by
  obtain ⟨hne, hall⟩ := ne_nil_and_not_blank_of_mem_words h
  cases w with
  | nil => exact absurd rfl hne
  | cons c rest => simp [isBlankText, hall c List.mem_cons_self]

theorem startsBlank_of_mem_words {cs w : List Char} (h : w ∈ words cs) : startsBlank w = false := by
  obtain ⟨-, hall⟩ := ne_nil_and_not_blank_of_mem_words h
  cases w with
  | nil => rfl
  | cons c rest => exact hall c List.mem_cons_self

theorem trimStart_append {cs : List Char} (hcs : startsBlank cs = false) (hne : cs ≠ [])
    (rest : List Char) : trimStart (cs ++ rest) = cs ++ rest := by
  cases cs with
  | nil => exact absurd rfl hne
  | cons c cs =>
      rw [startsBlank_cons] at hcs
      rw [trimStart, List.cons_append, List.dropWhile_cons_of_neg (by simp [hcs])]

theorem startsBlank_trimStart (cs : List Char) : startsBlank (trimStart cs) = false := by
  induction cs with
  | nil => rfl
  | cons c rest ih =>
      rw [trimStart, List.dropWhile_cons]
      split
      · exact ih
      · rename_i hc
        simpa using hc

theorem exists_append_trimStart (cs : List Char) :
    ∃ left, (∀ c ∈ left, isBlank c = true) ∧ cs = left ++ trimStart cs :=
  ⟨cs.takeWhile isBlank, fun _ hc => List.all_eq_true.1 List.all_takeWhile _ hc,
    List.takeWhile_append_dropWhile.symm⟩

theorem trimEnd_eq_reverse (cs : List Char) : trimEnd cs = (trimStart cs.reverse).reverse := rfl

theorem exists_append_trim (cs : List Char) :
    ∃ left right, (∀ c ∈ left, isBlank c = true) ∧ (∀ c ∈ right, isBlank c = true) ∧
      cs = left ++ trim cs ++ right := by
  obtain ⟨left, hleft, hcs⟩ := exists_append_trimStart cs
  obtain ⟨right, hright, hmiddle⟩ := exists_append_trimStart (trimStart cs).reverse
  refine ⟨left, right.reverse, hleft, fun c hc => hright c (List.mem_reverse.1 hc), ?_⟩
  rw [List.append_assoc, trim, trimEnd_eq_reverse, ← List.reverse_append, ← hmiddle,
    List.reverse_reverse]
  exact hcs

theorem trimStart_append_of_blank {left : List Char} (hleft : ∀ c ∈ left, isBlank c = true)
    (rest : List Char) : trimStart (left ++ rest) = trimStart rest :=
  List.dropWhile_append_of_pos hleft

/-- White space around a text that neither starts nor ends with any is trimmed off. -/
theorem trim_append {left middle right : List Char} (hleft : ∀ c ∈ left, isBlank c = true)
    (hright : ∀ c ∈ right, isBlank c = true) (hne : middle ≠ [])
    (hstart : startsBlank middle = false) (hend : startsBlank middle.reverse = false) :
    trim (left ++ middle ++ right) = middle := by
  have hblank : ∀ c ∈ right.reverse, isBlank c = true :=
    fun c hc => hright c (List.mem_reverse.1 hc)
  have htail := trimStart_append hend (fun h => hne (List.reverse_eq_nil_iff.1 h)) []
  rw [List.append_nil] at htail
  rw [trim, List.append_assoc, trimStart_append_of_blank hleft, trimStart_append hstart hne,
    trimEnd_eq_reverse, List.reverse_append, trimStart_append_of_blank hblank, htail,
    List.reverse_reverse]

/-- A text that starts with white space is never found at the start of a trimmed one. -/
theorem dropLead?_trimStart_of_startsBlank {lead : List Char} (h : startsBlank lead = true)
    (text : List Char) : dropLead? lead (trimStart text) = none := by
  cases hdrop : dropLead? lead (trimStart text) with
  | none => rfl
  | some rest =>
      have htext := startsBlank_trimStart text
      rw [(dropLead?_eq_some_iff _ _ _).1 hdrop] at htext
      cases lead with
      | nil => cases h
      | cons c lead =>
          rw [startsBlank_cons] at h
          rw [List.cons_append, startsBlank_cons, h] at htext
          cases htext

theorem words_cons_before_blank {c : Char} (hc : isBlank c = false) {rest : List Char}
    (hrest : ∀ d ∈ rest.head?, isBlank d = true) : words (c :: rest) = [c] :: words rest := by
  rw [words.eq_def]
  simp only [hc, Bool.false_eq_true, if_false]
  split
  · rename_i hwords
    rw [hwords, if_pos (hrest _ rfl)]
  · rfl

theorem words_cons_of_words {c d : Char} (hc : isBlank c = false) (hd : isBlank d = false)
    {rest w : List Char} {ws : List (List Char)} (h : words (d :: rest) = w :: ws) :
    words (c :: d :: rest) = (c :: w) :: ws := by
  rw [words.eq_def]
  simp only [hc, hd, h, Bool.false_eq_true, if_false]

/-- The first word of a text goes up to the next white space. -/
theorem words_append {word rest : List Char} (hne : word ≠ [])
    (hword : ∀ c ∈ word, isBlank c = false) (hrest : ∀ c ∈ rest.head?, isBlank c = true) :
    words (word ++ rest) = word :: words rest := by
  induction word with
  | nil => exact absurd rfl hne
  | cons c word ih =>
      have hc := hword c List.mem_cons_self
      cases word with
      | nil => exact words_cons_before_blank hc hrest
      | cons d word =>
          have hd := hword d (List.mem_cons_of_mem _ List.mem_cons_self)
          exact words_cons_of_words hc hd <|
            ih (List.cons_ne_nil _ _) fun e he => hword e (List.mem_cons_of_mem _ he)

theorem isBlankText_eq_false_iff (s : String) :
    isBlankText s = false ↔ ∃ c ∈ s.toList, isBlank c = false := by
  simp [isBlankText]

end CommandBot.Text
