import CommandBot.Proofs.Text.Names
import CommandBot.Template.Token

/-!
# Where a template is cut

A placeholder starts where an ampersand is followed by a word and another ampersand. `Cut` says
which pieces a text has if it is cut at its leftmost placeholder, what follows it again at its
leftmost, and so on, and `cut_scan` that `Piece.scan` gives these pieces. The scanner reads one
character at a time and may have an ampersand open, so the induction is on the text for every open
ampersand (`cut_scanFrom`).
-/

namespace CommandBot.Template

/-- One or more name characters. -/
def IsWord (word : List Char) : Prop := word ≠ [] ∧ ∀ c ∈ word, Text.isNameChar c = true

theorem isWord_toList_iff (name : String) : IsWord name.toList ↔ MatchesNamePattern name := by
  rw [← isValidName_iff_matchesNamePattern, isValidName_iff, IsWord]

theorem toList_ampersands (word : String) :
    ("&" ++ word ++ "&").toList = '&' :: word.toList ++ ['&'] := by
  simp [String.toList_append]

theorem not_isNameChar_ampersand : ¬ Text.isNameChar '&' = true := by decide

/-- A text starts with name characters and one other character in one way only. -/
theorem append_cons_inj_of_isNameChar {word word' rest rest' : List Char} {c c' : Char}
    (hword : ∀ d ∈ word, Text.isNameChar d = true) (hc : ¬ Text.isNameChar c = true)
    (hword' : ∀ d ∈ word', Text.isNameChar d = true) (hc' : ¬ Text.isNameChar c' = true)
    (h : word ++ c :: rest = word' ++ c' :: rest') : word = word' ∧ c = c' ∧ rest = rest' := by
  induction word generalizing word' with
  | nil =>
      cases word' with
      | nil =>
          obtain ⟨rfl, rfl⟩ := List.cons.inj h
          exact ⟨rfl, rfl, rfl⟩
      | cons d word' =>
          obtain ⟨rfl, -⟩ := List.cons.inj h
          exact absurd (hword' c List.mem_cons_self) hc
  | cons d word ih =>
      cases word' with
      | nil =>
          obtain ⟨rfl, -⟩ := List.cons.inj h
          exact absurd (hword d List.mem_cons_self) hc'
      | cons d' word' =>
          obtain ⟨rfl, htail⟩ := List.cons.inj h
          obtain ⟨rfl, hrest⟩ := ih (fun e he => hword e (List.mem_cons_of_mem _ he))
            (fun e he => hword' e (List.mem_cons_of_mem _ he)) htail
          exact ⟨rfl, hrest⟩

/-! ### Where placeholders start -/

/-- A placeholder stands at the start of the text. -/
def StartsToken (cs : List Char) : Prop :=
  ∃ word rest, IsWord word ∧ cs = '&' :: word ++ '&' :: rest

theorem not_startsToken_of_ne {c : Char} (hc : c ≠ '&') (cs : List Char) :
    ¬ StartsToken (c :: cs) := by
  rintro ⟨word, rest, -, h⟩
  exact hc (List.cons.inj h).1

/-- A word that the text breaks off is no placeholder. -/
theorem not_startsToken_of_end {word : List Char} (hword : ∀ c ∈ word, Text.isNameChar c = true) :
    ¬ StartsToken ('&' :: word) := by
  rintro ⟨other, rest, -, h⟩
  obtain ⟨-, h⟩ := List.cons.inj h
  refine not_isNameChar_ampersand (hword '&' ?_)
  rw [h]
  exact List.mem_append_right _ List.mem_cons_self

/-- A word that another character than an ampersand ends is no placeholder, and no more are two
ampersands side by side. -/
theorem not_startsToken_of_not_isNameChar {word rest : List Char} {c : Char}
    (hword : ∀ d ∈ word, Text.isNameChar d = true) (hc : ¬ Text.isNameChar c = true)
    (hend : word = [] ∨ c ≠ '&') : ¬ StartsToken ('&' :: word ++ c :: rest) := by
  rintro ⟨other, rest', hother, h⟩
  obtain ⟨-, h⟩ := List.cons.inj h
  obtain ⟨rfl, rfl, -⟩ :=
    append_cons_inj_of_isNameChar hword hc hother.2 not_isNameChar_ampersand h
  exact hend.elim hother.1 fun hne => hne rfl

/-! ### Cutting at the leftmost placeholders -/

/-- No placeholder starts in `gap`, where `rest` follows it. -/
def IsFree : (gap rest : List Char) → Prop
  | [], _ => True
  | c :: gap, rest => ¬ StartsToken (c :: gap ++ rest) ∧ IsFree gap rest

/-- The pieces of a text that is cut at its leftmost placeholder, then at the leftmost of what
follows, and so on until there is none. -/
inductive Cut : List Char → List Piece → Prop where
  | plain {gap : List Char} (hfree : IsFree gap []) : Cut gap (gap.map .char)
  | token {gap word rest : List Char} {pieces : List Piece} (hword : IsWord word)
      (hfree : IsFree gap ('&' :: word ++ '&' :: rest)) (hrest : Cut rest pieces) :
      Cut (gap ++ ('&' :: word ++ '&' :: rest)) (gap.map .char ++ .token word :: pieces)

theorem Cut.cons {c : Char} {cs : List Char} {pieces : List Piece} (h : Cut cs pieces)
    (hc : ¬ StartsToken (c :: cs)) : Cut (c :: cs) (.char c :: pieces) := by
  cases h with
  | plain hfree =>
      have hmore : IsFree (c :: cs) [] := ⟨by rwa [List.append_nil], hfree⟩
      exact .plain hmore
  | @token gap word rest pieces hword hfree hrest =>
      have hmore : IsFree (c :: gap) ('&' :: word ++ '&' :: rest) := ⟨hc, hfree⟩
      exact .token hword hmore hrest

theorem Cut.append {word cs : List Char} {pieces : List Piece} (h : Cut cs pieces)
    (hword : ∀ c ∈ word, Text.isNameChar c = true) :
    Cut (word ++ cs) (word.map .char ++ pieces) := by
  induction word with
  | nil => exact h
  | cons c word ih =>
      refine (ih fun d hd => hword d (List.mem_cons_of_mem _ hd)).cons ?_
      refine not_startsToken_of_ne ?_ _
      rintro rfl
      exact not_isNameChar_ampersand (hword _ List.mem_cons_self)

theorem cut_nil : Cut [] [] := .plain trivial

/-- The scanner cuts at the leftmost placeholders, whatever word it has open. -/
theorem cut_scanFrom (opened : Option (List Char))
    (hopened : ∀ word ∈ opened, ∀ c ∈ word, Text.isNameChar c = true) (cs : List Char) :
    Cut (Piece.openText opened ++ cs) (Piece.scanFrom opened cs) := by
  induction cs generalizing opened with
  | nil =>
      cases opened with
      | none => exact cut_nil
      | some word =>
          have hword := hopened word rfl
          have hplain := cut_nil.append hword
          rw [List.append_nil, List.append_nil] at hplain
          rw [List.append_nil]
          exact hplain.cons (not_startsToken_of_end hword)
  | cons c rest ih =>
      cases opened with
      | none =>
          have hnone := ih none fun _ hword => nomatch hword
          have hsome := ih (some []) (by simp)
          rw [Piece.scanFrom]
          split
          · rename_i hc
            rw [hc]
            exact hsome
          · rename_i hc
            exact hnone.cons (not_startsToken_of_ne hc _)
      | some word =>
          have hword := hopened word rfl
          have hnone := ih none fun _ hword => nomatch hword
          rw [Piece.scanFrom]
          split
          · rename_i hc
            subst hc
            split
            · -- the ampersand that was open stays, and the second one is open
              rename_i hempty
              subst hempty
              exact (ih (some []) (by simp)).cons
                (not_startsToken_of_not_isNameChar hword not_isNameChar_ampersand (.inl rfl))
            · rename_i hne
              have hfree : IsFree [] ('&' :: word ++ '&' :: rest) := trivial
              exact .token ⟨hne, hword⟩ hfree hnone
          · rename_i hampersand
            split
            · rename_i hc
              have hmore := ih (some (word ++ [c])) (by
                rintro _ ⟨⟩ d hd
                rcases List.mem_append.1 hd with hd | hd
                · exact hword d hd
                · exact List.mem_singleton.1 hd ▸ hc)
              rw [Piece.openText, List.cons_append, List.append_assoc] at hmore
              exact hmore
            · rename_i hc
              have hplain := (hnone.cons (not_startsToken_of_ne hampersand rest)).append hword
              exact hplain.cons
                (not_startsToken_of_not_isNameChar hword hc (.inr hampersand))

/-- A template is cut at the leftmost placeholders. -/
theorem cut_scan (template : List Char) : Cut template (Piece.scan template) :=
  cut_scanFrom none (fun _ hword => nomatch hword) template

/-! ### A placeholder alone -/

theorem isWord_of_cut_token {cs word : List Char} (h : Cut cs [.token word]) : IsWord word := by
  generalize hpieces : [Piece.token word] = pieces at h
  cases h with
  | plain hfree => cases cs <;> cases hpieces
  | @token gap other rest pieces hother hfree hrest =>
      cases gap with
      | nil =>
          cases hpieces
          exact hother
      | cons c gap => cases hpieces

theorem scanFrom_append_of_isNameChar (opened : List Char) {word : List Char}
    (hword : ∀ c ∈ word, Text.isNameChar c = true) (rest : List Char) :
    Piece.scanFrom (some opened) (word ++ rest) = Piece.scanFrom (some (opened ++ word)) rest := by
  induction word generalizing opened with
  | nil => rw [List.append_nil, List.nil_append]
  | cons c word ih =>
      have hc := hword c List.mem_cons_self
      have hampersand : c ≠ '&' := by
        rintro rfl
        exact not_isNameChar_ampersand hc
      rw [List.cons_append, Piece.scanFrom, if_neg hampersand, if_pos hc,
        ih _ fun d hd => hword d (List.mem_cons_of_mem _ hd), List.append_assoc,
        List.singleton_append]

/-- One piece that is a placeholder is what a text is cut into that consists of it. -/
theorem scan_eq_singleton_iff (cs word : List Char) :
    Piece.scan cs = [.token word] ↔ IsWord word ∧ cs = '&' :: word ++ ['&'] := by
  constructor
  · intro h
    have hcut := cut_scan cs
    have htext := Piece.flatMap_text_scan cs
    rw [h] at hcut htext
    rw [List.flatMap_singleton] at htext
    exact ⟨isWord_of_cut_token hcut, htext.symm⟩
  · rintro ⟨⟨hne, hall⟩, rfl⟩
    rw [Piece.scan, List.cons_append, Piece.scanFrom, if_pos rfl,
      scanFrom_append_of_isNameChar [] hall, List.nil_append, Piece.scanFrom, if_pos rfl,
      if_neg hne, Piece.scanFrom]

end CommandBot.Template
