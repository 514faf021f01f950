import CommandBot.Proofs.Template.Scan
import CommandBot.Proofs.Text.Slices

/-!
# The tokens of a template

The tokens of a template are the placeholders that stand in it one after the other, such that none
starts outside of them (`AreTokens`). A template has one such list, which is the one that `tokens`
gives. All cuts at its bytes are therefore between characters, so that the tokens can be replaced by
any texts (`Filled`), and by their own literals they give the template back (`tokens_exact`).
-/

namespace CommandBot.Template

/-- A placeholder with this word lies between two bytes of the text. -/
def Stands (text word : String) (start stop : Nat) : Prop :=
  MatchesNamePattern word ∧ Text.IsSlice text start stop ("&" ++ word ++ "&")

/-- The tokens of a text from a byte on: placeholders that stand where they say, under their words
in lowercase, one after the other. No placeholder of the text starts outside of them. -/
structure AreTokens (text : String) (last : Nat) (ts : List Token) : Prop where
  stands : ∀ t ∈ ts, ∃ word, Stands text word t.start t.stop ∧ t.literal = "&" ++ word ++ "&" ∧
    t.name = word.toLower
  after : ∀ t ∈ ts, last ≤ t.start
  ordered : ts.Pairwise fun s t => s.stop ≤ t.start
  complete : ∀ word start stop, last ≤ start → Stands text word start stop →
    ∃ t ∈ ts, t.start ≤ start ∧ start < t.stop

variable {text word word' : String} {last start stop stop' : Nat} {t : Token} {ts ts' : List Token}

/-! ### Placeholders by their bytes -/

theorem isWord_of_matchesNamePattern (h : MatchesNamePattern word) : IsWord word.toList :=
  (isWord_toList_iff word).2 h

theorem toList_between_ampersands (word rest : String) :
    ("&" ++ word ++ "&" ++ rest).toList = '&' :: word.toList ++ '&' :: rest.toList := by
  rw [String.toList_append, toList_ampersands, List.append_assoc, List.singleton_append]

theorem Stands.start_lt_stop (h : Stands text word start stop) : start < stop := by
  have hstop := h.2.stop_eq
  have hopening : ("&" : String).utf8ByteSize = 1 := rfl
  rw [String.utf8ByteSize_append, hopening] at hstop
  omega

theorem Stands.start_le_stop (h : Stands text word start stop) : start ≤ stop :=
  Nat.le_of_lt h.start_lt_stop

/-- No two placeholders start at one byte. -/
theorem Stands.unique (h : Stands text word start stop) (h' : Stands text word' start stop') :
    word = word' ∧ stop = stop' := by
  obtain ⟨before, after, htext, hbefore, hstop⟩ := Text.isSlice_iff_exists_append.1 h.2
  obtain ⟨before', after', htext', hbefore', hstop'⟩ := Text.isSlice_iff_exists_append.1 h'.2
  rw [String.append_assoc] at htext htext'
  obtain ⟨-, hrest⟩ := Text.append_inj_of_utf8ByteSize (htext.symm.trans htext')
    (hbefore.trans hbefore'.symm)
  have hchars := congrArg String.toList hrest
  rw [toList_between_ampersands, toList_between_ampersands] at hchars
  obtain ⟨hword, -⟩ := append_cons_inj_of_isNameChar (isWord_of_matchesNamePattern h.1).2
    not_isNameChar_ampersand (isWord_of_matchesNamePattern h'.1).2 not_isNameChar_ampersand
    (List.cons.inj hchars).2
  obtain rfl := String.toList_inj.1 hword
  exact ⟨rfl, hstop.symm.trans hstop'⟩

theorem byteLength_eq (cs : List Char) : byteLength cs = (String.ofList cs).utf8ByteSize := by
  induction cs with
  | nil => rfl
  | cons c cs ih =>
      rw [String.ofList_cons, String.utf8ByteSize_append, String.utf8ByteSize_singleton, ← ih]
      rfl

theorem IsFree.of_append {gap gap' rest : List Char} (h : IsFree (gap ++ gap') rest) :
    IsFree gap' rest := by
  induction gap with
  | nil => exact h
  | cons c gap ih => exact ih h.2

/-- No placeholder starts between the bytes of a free gap. -/
theorem not_stands_of_isFree {before : String} {gap rest : List Char} (hfree : IsFree gap rest)
    (htext : text = before ++ String.ofList (gap ++ rest)) (hstart : before.utf8ByteSize ≤ start)
    (hlt : start < before.utf8ByteSize + byteLength gap) : ¬ Stands text word start stop := by
  rintro ⟨hword, hslice⟩
  obtain ⟨front, after, htext', rfl, -⟩ := Text.isSlice_iff_exists_append.1 hslice
  rw [String.append_assoc] at htext'
  obtain ⟨between, rfl, hrest⟩ :=
    Text.exists_append_of_utf8ByteSize_le (htext.symm.trans htext') hstart
  rw [String.utf8ByteSize_append] at hlt
  have hchars := congrArg String.toList hrest
  rw [String.toList_ofList, String.toList_append, toList_between_ampersands,
    List.append_eq_append_iff] at hchars
  rcases hchars with ⟨more, hbetween, -⟩ | ⟨more, rfl, hmore⟩
  · -- then the gap would be no longer than the text that stands before the placeholder
    have hsize := congrArg byteLength hbetween
    rw [byteLength_eq, String.ofList_toList] at hsize
    rw [byteLength_eq, String.ofList_append, String.utf8ByteSize_append] at hsize
    rw [byteLength_eq] at hlt
    omega
  · cases more with
    | nil =>
        rw [List.append_nil, byteLength_eq, String.ofList_toList] at hlt
        omega
    | cons c more =>
        refine hfree.of_append.1 ⟨word.toList, after.toList, isWord_of_matchesNamePattern hword, ?_⟩
        rw [← hmore]

/-! ### The scanner gives the tokens -/

theorem tokensFrom_map_char_append (offset : Nat) (gap : List Char) (pieces : List Piece) :
    tokensFrom offset (gap.map .char ++ pieces) = tokensFrom (offset + byteLength gap) pieces := by
  induction gap generalizing offset with
  | nil => rfl
  | cons c gap ih =>
      rw [List.map_cons, List.cons_append, tokensFrom, ih, Nat.add_assoc]
      rfl

theorem tokenName_eq_toLower {word : List Char} (h : IsWord word) :
    tokenName word = (String.ofList word).toLower := by
  rw [← String.toList_inj, tokenName, Text.toList_lower, String.toList_ofList,
    Text.lowerFrom_eq_map_of_isNameChar [] h.2]
  change _ = ((String.ofList word).map Char.toLower).toList
  rw [String.toList_map, String.toList_ofList]

theorem areTokens_nil (h : ∀ word start stop, last ≤ start → ¬ Stands text word start stop) :
    AreTokens text last [] where
  stands := fun _ ht => absurd ht List.not_mem_nil
  after := fun _ ht => absurd ht List.not_mem_nil
  ordered := .nil
  complete := fun word start stop hstart hstands => absurd hstands (h word start stop hstart)

theorem AreTokens.cons (h : AreTokens text t.stop ts) (hstands : Stands text word t.start t.stop)
    (hliteral : t.literal = "&" ++ word ++ "&") (hname : t.name = word.toLower)
    (hlast : last ≤ t.start)
    (hgap : ∀ word start stop, last ≤ start → start < t.start → ¬ Stands text word start stop) :
    AreTokens text last (t :: ts) where
  stands := List.forall_mem_cons.2 ⟨⟨word, hstands, hliteral, hname⟩, h.stands⟩
  after := List.forall_mem_cons.2 ⟨hlast, fun s hs =>
    Nat.le_trans hlast (Nat.le_trans hstands.start_le_stop (h.after s hs))⟩
  ordered := List.pairwise_cons.2 ⟨h.after, h.ordered⟩
  complete := by
    intro other start stop hstart hother
    by_cases hbefore : start < t.start
    · exact absurd hother (hgap other start stop hstart hbefore)
    by_cases hafter : t.stop ≤ start
    · obtain ⟨s, hs, hs'⟩ := h.complete other start stop hafter hother
      exact ⟨s, List.mem_cons_of_mem _ hs, hs'⟩
    · exact ⟨t, List.mem_cons_self, Nat.not_lt.1 hbefore, Nat.not_le.1 hafter⟩

/-- A text that is cut at its leftmost placeholders has these as its tokens. -/
theorem areTokens_of_cut {cs : List Char} {pieces : List Piece} (h : Cut cs pieces)
    {before : String} (htext : text = before ++ String.ofList cs) :
    AreTokens text before.utf8ByteSize (tokensFrom before.utf8ByteSize pieces) := by
  induction h generalizing before with
  | @plain gap hfree =>
      have hpieces := tokensFrom_map_char_append before.utf8ByteSize gap []
      rw [List.append_nil] at hpieces
      rw [hpieces]
      refine areTokens_nil fun word start stop hstart hstands => ?_
      refine not_stands_of_isFree hfree (by rwa [List.append_nil]) hstart ?_ hstands
      have hstop : stop ≤ text.utf8ByteSize := hstands.2.isValid_stop.le_rawEndPos
      rw [htext, String.utf8ByteSize_append, ← byteLength_eq] at hstop
      exact Nat.lt_of_lt_of_le hstands.start_lt_stop hstop
  | @token gap word rest pieces hword hfree hrest ih =>
      have hchars : String.ofList ('&' :: word ++ '&' :: rest) =
          "&" ++ String.ofList word ++ "&" ++ String.ofList rest := by
        rw [← String.toList_inj, toList_between_ampersands]
        simp only [String.toList_ofList]
      have hliteral : String.ofList (Piece.token word).text =
          "&" ++ String.ofList word ++ "&" := by
        rw [← String.toList_inj, toList_ampersands, String.toList_ofList, String.toList_ofList]
        rfl
      have hsplit : text = (before ++ String.ofList gap) ++ ("&" ++ String.ofList word ++ "&") ++
          String.ofList rest := by
        rw [htext, String.ofList_append, hchars]
        simp only [String.append_assoc]
      have hstop :
          (before ++ String.ofList gap ++ ("&" ++ String.ofList word ++ "&")).utf8ByteSize =
            before.utf8ByteSize + byteLength gap + byteLength (Piece.token word).text := by
        rw [String.utf8ByteSize_append, String.utf8ByteSize_append, byteLength_eq, byteLength_eq,
          hliteral]
      have hnext := ih hsplit
      rw [hstop] at hnext
      rw [tokensFrom_map_char_append, tokensFrom]
      have hstands : Stands text (String.ofList word) (before.utf8ByteSize + byteLength gap)
          (before.utf8ByteSize + byteLength gap + byteLength (Piece.token word).text) := by
        refine ⟨?_, Text.isSlice_of_append hsplit ?_ ?_⟩
        · rwa [← isWord_toList_iff, String.toList_ofList]
        · rw [String.utf8ByteSize_append, byteLength_eq]
        · rw [← hliteral, ← byteLength_eq]
      exact hnext.cons (t := ⟨_, _, _, _⟩) hstands hliteral (tokenName_eq_toLower hword)
        (Nat.le_add_right _ _) fun other start stop hstart hlt =>
          not_stands_of_isFree hfree htext hstart hlt

theorem areTokens_tokens (text : String) : AreTokens text 0 (tokens text) := by
  have htext : text = "" ++ String.ofList text.toList := by
    rw [String.empty_append, String.ofList_toList]
  exact areTokens_of_cut (cut_scan text.toList) htext

/-! ### There is one list of tokens -/

theorem AreTokens.tail (h : AreTokens text last (t :: ts)) : AreTokens text t.stop ts where
  stands := (List.forall_mem_cons.1 h.stands).2
  after := (List.pairwise_cons.1 h.ordered).1
  ordered := (List.pairwise_cons.1 h.ordered).2
  complete := by
    intro word start stop hstart hstands
    obtain ⟨other, hother, -⟩ := h.stands t List.mem_cons_self
    have hlast := Nat.le_trans (h.after t List.mem_cons_self)
      (Nat.le_trans hother.start_le_stop hstart)
    obtain ⟨s, hs, hs'⟩ := h.complete word start stop hlast hstands
    rcases List.mem_cons.1 hs with rfl | hs
    · exact absurd hs'.2 (Nat.not_lt.2 hstart)
    · exact ⟨s, hs, hs'⟩

/-- No placeholder starts before the first token. -/
theorem AreTokens.start_le (h : AreTokens text last (t :: ts)) (hstart : last ≤ start)
    (hstands : Stands text word start stop) : t.start ≤ start := by
  obtain ⟨s, hs, hle, -⟩ := h.complete word start stop hstart hstands
  rcases List.mem_cons.1 hs with rfl | hs
  · exact hle
  · obtain ⟨other, hother, -⟩ := h.stands t List.mem_cons_self
    have hnext := (List.pairwise_cons.1 h.ordered).1 s hs
    exact Nat.le_trans hother.start_le_stop (Nat.le_trans hnext hle)

theorem AreTokens.unique (h : AreTokens text last ts) (h' : AreTokens text last ts') :
    ts = ts' := by
  induction ts generalizing last ts' with
  | nil =>
      cases ts' with
      | nil => rfl
      | cons t' ts' =>
          obtain ⟨word, hword, -⟩ := h'.stands t' List.mem_cons_self
          obtain ⟨s, hs, -⟩ := h.complete _ _ _ (h'.after t' List.mem_cons_self) hword
          cases hs
  | cons t ts ih =>
      obtain ⟨word, hword, hliteral, hname⟩ := h.stands t List.mem_cons_self
      have hlast := h.after t List.mem_cons_self
      cases ts' with
      | nil =>
          obtain ⟨s, hs, -⟩ := h'.complete _ _ _ hlast hword
          cases hs
      | cons t' ts' =>
          obtain ⟨word', hword', hliteral', hname'⟩ := h'.stands t' List.mem_cons_self
          have hstart : t.start = t'.start := Nat.le_antisymm
            (h.start_le (h'.after t' List.mem_cons_self) hword') (h'.start_le hlast hword)
          obtain ⟨rfl, hstop⟩ := hword.unique (hstart ▸ hword')
          have htoken : t = t' := by
            cases t
            cases t'
            simp_all
          subst htoken
          rw [ih h.tail h'.tail]

/-! ### Replacing the tokens -/

/-- The rest of a text from a byte on in which every token is replaced by the text beside it, and
all else is kept. -/
inductive Filled (text : String) : Nat → List (Token × String) → String → Prop where
  | rest {last : Nat} {tail : String} (htail : Text.IsSlice text last text.utf8ByteSize tail) :
      Filled text last [] tail
  | token {last : Nat} {gap value out : String} {t : Token} {rest : List (Token × String)}
      (hgap : Text.IsSlice text last t.start gap) (hrest : Filled text t.stop rest out) :
      Filled text last ((t, value) :: rest) (gap ++ value ++ out)

theorem Filled.unique {replaced : List (Token × String)} {out out' : String}
    (h : Filled text last replaced out) (h' : Filled text last replaced out') : out = out' := by
  induction h generalizing out' with
  | rest htail =>
      cases h' with
      | rest htail' => exact htail.unique htail'
  | token hgap _ ih =>
      cases h' with
      | token hgap' hrest' => rw [hgap.unique hgap', ih hrest']

/-- Whatever the tokens are replaced by, all cuts are between characters. -/
theorem AreTokens.exists_filled (h : AreTokens text last ts)
    (hlast : String.Pos.Raw.IsValid text ⟨last⟩) (value : Token → String) :
    ∃ out, Filled text last (ts.map fun t => (t, value t)) out := by
  induction ts generalizing last with
  | nil =>
      obtain ⟨tail, htail⟩ := Text.exists_isSlice hlast String.Pos.Raw.isValid_rawEndPos
        hlast.le_rawEndPos
      exact ⟨tail, .rest htail⟩
  | cons t ts ih =>
      obtain ⟨word, hword, -⟩ := h.stands t List.mem_cons_self
      obtain ⟨gap, hgap⟩ := Text.exists_isSlice hlast hword.2.isValid_start
        (h.after t List.mem_cons_self)
      obtain ⟨out, hout⟩ := ih h.tail hword.2.isValid_stop
      exact ⟨gap ++ value t ++ out, .token hgap hout⟩

theorem AreTokens.isSlice_literal (h : AreTokens text last ts) (ht : t ∈ ts) :
    Text.IsSlice text t.start t.stop t.literal := by
  obtain ⟨word, hword, hliteral, -⟩ := h.stands t ht
  exact hliteral ▸ hword.2

/-- Tokens that are replaced by their own literals leave the text as it is. -/
theorem AreTokens.isSlice_of_filled (h : AreTokens text last ts) {out : String}
    (hout : Filled text last (ts.map fun t => (t, t.literal)) out) :
    Text.IsSlice text last text.utf8ByteSize out := by
  induction ts generalizing last out with
  | nil =>
      cases hout with
      | rest htail => exact htail
  | cons t ts ih =>
      cases hout with
      | token hgap hrest =>
          exact (hgap.append (h.isSlice_literal List.mem_cons_self)).append (ih h.tail hrest)

/-- The tokens of a text are the placeholders that stand in it one after the other such that none
starts outside of them, and no other list is of this kind. They can be replaced by any texts, all of
the text around them being kept, and put in themselves they give the text back. -/
theorem tokens_exact (text : String) :
    (∀ ts, ts = tokens text ↔ AreTokens text 0 ts) ∧
      (∀ t ∈ tokens text, t.start < t.stop ∧ Text.IsSlice text t.start t.stop t.literal) ∧
      (∀ value : Token → String,
        ∃ out, Filled text 0 ((tokens text).map fun t => (t, value t)) out) ∧
      Filled text 0 ((tokens text).map fun t => (t, t.literal)) text := by
  have htokens := areTokens_tokens text
  have hzero : String.Pos.Raw.IsValid text ⟨0⟩ := String.Pos.Raw.isValid_zero
  refine ⟨fun ts => ⟨fun h => h ▸ htokens, fun h => h.unique htokens⟩, fun t ht => ⟨?_, ?_⟩,
    htokens.exists_filled hzero, ?_⟩
  · obtain ⟨word, hword, -⟩ := htokens.stands t ht
    exact hword.start_lt_stop
  · exact htokens.isSlice_literal ht
  · obtain ⟨out, hout⟩ := htokens.exists_filled hzero Token.literal
    obtain rfl := Text.isSlice_whole_iff.1 (htokens.isSlice_of_filled hout)
    exact hout

/-- An ampersand that closes a token opens no other one, and bytes are counted. -/
example : tokens "é&a&b&C&" = [⟨"a", "&a&", 2, 5⟩, ⟨"c", "&C&", 6, 9⟩] := by
  decide +kernel

end CommandBot.Template
