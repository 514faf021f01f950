import CommandBot.Proofs.Template.Turns

/-!
# Filling in a template piece by piece

`fillFrom` goes through the pieces of a template and puts a text in the place of each token. This
gives the one text in which the tokens are replaced and all else is kept (`filled_tokens_iff`).

The letter case of a template does not matter to the scanner: it cuts a template in other letter
case at the same places (`scan_map_toLower`). So tokens that are spelled anew in other letter case
are the tokens of the new template (`scan_fillFrom_of_respells`).
-/

namespace CommandBot.Template

/-- The token of a placeholder that starts at a byte. -/
def tokenAt (offset : Nat) (word : List Char) : Token :=
  ⟨tokenName word, String.ofList (Piece.token word).text, offset,
    offset + byteLength (Piece.token word).text⟩

/-- The text of pieces that start at a byte, with a text in the place of each token. -/
def fillFrom (value : Token → String) : (offset : Nat) → List Piece → List Char
  | _, [] => []
  | offset, .char c :: rest => c :: fillFrom value (offset + c.utf8Size) rest
  | offset, .token word :: rest =>
      (value (tokenAt offset word)).toList ++ fillFrom value (tokenAt offset word).stop rest

theorem tokensFrom_token (offset : Nat) (word : List Char) (rest : List Piece) :
    tokensFrom offset (.token word :: rest) =
      tokenAt offset word :: tokensFrom (tokenAt offset word).stop rest := rfl

theorem filled_fillFrom (value : Token → String) {text before : String} {pieces : List Piece}
    (htext : text = before ++ String.ofList (pieces.flatMap Piece.text)) :
    Filled text before.utf8ByteSize
      ((tokensFrom before.utf8ByteSize pieces).map fun t => (t, value t))
      (String.ofList (fillFrom value before.utf8ByteSize pieces)) := by
  induction pieces generalizing before with
  | nil =>
      rw [List.flatMap_nil, String.ofList_nil, String.append_empty] at htext
      subst htext
      exact .rest (Text.isSlice_self String.Pos.Raw.isValid_rawEndPos)
  | cons piece rest ih =>
      have hpiece : text = before ++ String.ofList piece.text ++
          String.ofList (rest.flatMap Piece.text) := by
        rw [htext, List.flatMap_cons, String.ofList_append, String.append_assoc]
      have hsize : (before ++ String.ofList piece.text).utf8ByteSize =
          before.utf8ByteSize + byteLength piece.text := by
        rw [String.utf8ByteSize_append, byteLength_eq]
      have hslice : Text.IsSlice text before.utf8ByteSize
          (before.utf8ByteSize + byteLength piece.text) (String.ofList piece.text) :=
        Text.isSlice_of_append hpiece rfl (by rw [byteLength_eq])
      have hrest := ih hpiece
      rw [hsize] at hrest
      cases piece with
      | char c =>
          have hmore := hrest.append hslice
          rw [← String.ofList_append] at hmore
          exact hmore
      | token word =>
          let t := tokenAt before.utf8ByteSize word
          have hmore : Filled text before.utf8ByteSize ((t, value t) :: _) _ :=
            .token (Text.isSlice_self hslice.isValid_start) hrest
          rw [tokensFrom_token, fillFrom, String.ofList_append, String.ofList_toList]
          rwa [String.empty_append] at hmore

/-- The text in which the tokens are replaced is put together piece by piece. -/
theorem filled_tokens_iff (text : String) (value : Token → String) (out : String) :
    Filled text 0 ((tokens text).map fun t => (t, value t)) out ↔
      out = String.ofList (fillFrom value 0 (Piece.scan text.toList)) := by
  have htext : text = "" ++ String.ofList ((Piece.scan text.toList).flatMap Piece.text) := by
    rw [Piece.flatMap_text_scan, String.empty_append, String.ofList_toList]
  have hfilled := filled_fillFrom value htext
  exact ⟨fun h => h.unique hfilled, fun h => h ▸ hfilled⟩

/-! ### Letter case -/

theorem isNameChar_toLower_eq (c : Char) : Text.isNameChar c.toLower = Text.isNameChar c :=
  Bool.eq_iff_iff.2 ⟨Text.isNameChar_of_toLower, Text.isNameChar_toLower⟩

/-- No letter becomes an ampersand when it is lowered. -/
theorem toLower_eq_ampersand_iff (c : Char) : c.toLower = '&' ↔ c = '&' := by
  constructor
  · intro h
    have hname : ¬ Text.isNameChar c = true := by
      rw [← isNameChar_toLower_eq, h]
      exact not_isNameChar_ampersand
    unfold Char.toLower at h
    split at h
    · rename_i hupper
      exact absurd ((Text.isNameChar_iff_ranges c).2 (.inl hupper)) hname
    · exact h
  · rintro rfl
    rfl

/-- A piece with its ASCII letters in lowercase. -/
def Piece.lower : Piece → Piece
  | .char c => .char c.toLower
  | .token word => .token (word.map Char.toLower)

theorem Piece.text_lower (piece : Piece) : piece.lower.text = piece.text.map Char.toLower := by
  cases piece with
  | char c => rfl
  | token word => simp [Piece.lower, Piece.text]

theorem flatMap_text_map_lower (pieces : List Piece) :
    (pieces.map Piece.lower).flatMap Piece.text =
      (pieces.flatMap Piece.text).map Char.toLower := by
  rw [List.flatMap_map, List.map_flatMap]
  exact congrArg (List.flatMap · pieces) (funext Piece.text_lower)

theorem map_lower_map_char (cs : List Char) :
    (cs.map Piece.char).map Piece.lower = (cs.map Char.toLower).map Piece.char := by
  rw [List.map_map, List.map_map]
  rfl

theorem scanFrom_map_toLower (opened : Option (List Char)) (cs : List Char) :
    Piece.scanFrom (opened.map (·.map Char.toLower)) (cs.map Char.toLower) =
      (Piece.scanFrom opened cs).map Piece.lower := by
  induction cs generalizing opened with
  | nil =>
      cases opened with
      | none => rfl
      | some word =>
          simp only [List.map_nil, Option.map_some, Piece.scanFrom, List.map_cons,
            map_lower_map_char]
          rfl
  | cons c rest ih =>
      have hnone := ih none
      cases opened with
      | none =>
          simp only [List.map_cons, Option.map_none, Piece.scanFrom, toLower_eq_ampersand_iff]
          split
          · exact ih (some [])
          · exact congrArg (_ :: ·) hnone
      | some word =>
          simp only [List.map_cons, Option.map_some, Piece.scanFrom, toLower_eq_ampersand_iff,
            isNameChar_toLower_eq, List.map_eq_nil_iff]
          split
          · split
            · exact congrArg (_ :: ·) (ih (some []))
            · exact congrArg (_ :: ·) hnone
          · split
            · have hmore := ih (some (word ++ [c]))
              rw [Option.map_some, List.map_append] at hmore
              exact hmore
            · simp only [List.map_cons, List.map_append, map_lower_map_char, List.cons_append]
              exact congrArg (fun pieces => _ :: (_ ++ _ :: pieces)) hnone

/-- A template in lowercase is cut at the same places. -/
theorem scan_map_toLower (cs : List Char) :
    Piece.scan (cs.map Char.toLower) = (Piece.scan cs).map Piece.lower :=
  scanFrom_map_toLower none cs

theorem Piece.eq_of_lower_eq {piece piece' : Piece} (hlower : piece.lower = piece'.lower)
    (htext : piece.text = piece'.text) : piece = piece' := by
  cases piece with
  | char c =>
      cases piece' with
      | char c' => rw [(List.cons.inj htext).1]
      | token word' => simp [lower] at hlower
  | token word =>
      cases piece' with
      | char c' => simp [lower] at hlower
      | token word' => rw [List.append_cancel_right (List.cons.inj htext).2]

/-- Pieces of the same text that are the same in lowercase are the same. -/
theorem eq_of_map_lower_eq {pieces pieces' : List Piece}
    (hlower : pieces.map Piece.lower = pieces'.map Piece.lower)
    (htext : pieces.flatMap Piece.text = pieces'.flatMap Piece.text) : pieces = pieces' := by
  induction pieces generalizing pieces' with
  | nil =>
      cases pieces' with
      | nil => rfl
      | cons piece' pieces' => cases hlower
  | cons piece pieces ih =>
      cases pieces' with
      | nil => cases hlower
      | cons piece' pieces' =>
          obtain ⟨hpiece, hrest⟩ := List.cons.inj hlower
          have hlength : piece.text.length = piece'.text.length := by
            rw [← List.length_map Char.toLower, ← Piece.text_lower, hpiece, Piece.text_lower,
              List.length_map]
          rw [List.flatMap_cons, List.flatMap_cons] at htext
          obtain ⟨hsame, htext⟩ := List.append_inj htext hlength
          rw [Piece.eq_of_lower_eq hpiece hsame, ih hrest htext]

/-- Pieces that differ from those of a template in letter case are those of their own text. -/
theorem scan_flatMap_text_of_map_lower_eq {cs : List Char} {pieces : List Piece}
    (h : pieces.map Piece.lower = (Piece.scan cs).map Piece.lower) :
    Piece.scan (pieces.flatMap Piece.text) = pieces := by
  refine eq_of_map_lower_eq ?_ (Piece.flatMap_text_scan _)
  calc (Piece.scan (pieces.flatMap Piece.text)).map Piece.lower
      = Piece.scan ((pieces.map Piece.lower).flatMap Piece.text) := by
        rw [← scan_map_toLower, flatMap_text_map_lower]
    _ = Piece.scan (cs.map Char.toLower) := by
        rw [h, flatMap_text_map_lower, Piece.flatMap_text_scan]
    _ = pieces.map Piece.lower := by rw [scan_map_toLower, h]

/-! ### Tokens that are spelled anew -/

/-- Pieces that start at a byte, with the words of the tokens spelled anew. -/
def respellFrom (spelling : Token → String) : (offset : Nat) → List Piece → List Piece
  | _, [] => []
  | offset, .char c :: rest => .char c :: respellFrom spelling (offset + c.utf8Size) rest
  | offset, .token word :: rest =>
      .token (spelling (tokenAt offset word)).toList ::
        respellFrom spelling (tokenAt offset word).stop rest

theorem fillFrom_between_ampersands (spelling : Token → String) (offset : Nat)
    (pieces : List Piece) :
    fillFrom (fun t => "&" ++ spelling t ++ "&") offset pieces =
      (respellFrom spelling offset pieces).flatMap Piece.text := by
  induction pieces generalizing offset with
  | nil => rfl
  | cons piece rest ih =>
      cases piece with
      | char c => exact congrArg (c :: ·) (ih _)
      | token word =>
          rw [fillFrom, respellFrom, List.flatMap_cons, toList_ampersands, ih]
          rfl

theorem Cut.isWord_of_mem {cs : List Char} {pieces : List Piece} (h : Cut cs pieces)
    {word : List Char} (hmem : .token word ∈ pieces) : IsWord word := by
  have hchar : ∀ gap : List Char, Piece.token word ∉ gap.map .char := by
    intro gap hgap
    obtain ⟨c, -, hc⟩ := List.mem_map.1 hgap
    cases hc
  induction h with
  | plain hfree => exact absurd hmem (hchar _)
  | token hword hfree hrest ih =>
      rcases List.mem_append.1 hmem with hgap | hmem
      · exact absurd hgap (hchar _)
      · rcases List.mem_cons.1 hmem with heq | hmem
        · exact Piece.token.inj heq ▸ hword
        · exact ih hmem

theorem toList_toLower (s : String) : s.toLower.toList = s.toList.map Char.toLower :=
  String.toList_map

/-- In other letter case a word is the name of the same token. -/
theorem tokenName_of_toLower_eq {word : List Char} {spelled : String} (hword : IsWord word)
    (h : spelled.toLower = tokenName word) : tokenName spelled.toList = tokenName word := by
  have hvalid : isValidName (tokenName word) = true := by
    refine isValidName_lower ((isValidName_iff _).2 ?_)
    rwa [String.toList_ofList]
  have hchars : spelled.toList.map Char.toLower = (tokenName word).toList := by
    rw [← toList_toLower, h]
  rw [tokenName, String.ofList_toList, (isValidName_of_map_toLower hvalid hchars).2]

theorem map_lower_respellFrom {spelling : Token → String} {offset : Nat} {pieces : List Piece}
    (hpieces : ∀ word, .token word ∈ pieces → IsWord word)
    (h : ∀ t ∈ tokensFrom offset pieces, (spelling t).toLower = t.name) :
    (respellFrom spelling offset pieces).map Piece.lower = pieces.map Piece.lower := by
  induction pieces generalizing offset with
  | nil => rfl
  | cons piece rest ih =>
      have hrest := fun word hword => hpieces word (List.mem_cons_of_mem _ hword)
      cases piece with
      | char c => exact congrArg (_ :: ·) (ih hrest h)
      | token word =>
          rw [tokensFrom_token, List.forall_mem_cons] at h
          have hname : (spelling (tokenAt offset word)).toLower = (String.ofList word).toLower :=
            h.1.trans (tokenName_eq_toLower (hpieces word List.mem_cons_self))
          have hword : (spelling (tokenAt offset word)).toList.map Char.toLower =
              word.map Char.toLower := by
            rw [← toList_toLower, hname, toList_toLower, String.toList_ofList]
          rw [respellFrom, List.map_cons, List.map_cons, ih hrest h.2, Piece.lower, hword]
          rfl

/-- A template whose tokens are spelled anew in other letter case has these as its tokens. -/
theorem scan_fillFrom_of_respells {text : String} {spelling : Token → String}
    (h : ∀ t ∈ tokens text, (spelling t).toLower = t.name) :
    Piece.scan (fillFrom (fun t => "&" ++ spelling t ++ "&") 0 (Piece.scan text.toList)) =
      respellFrom spelling 0 (Piece.scan text.toList) := by
  rw [fillFrom_between_ampersands]
  exact scan_flatMap_text_of_map_lower_eq
    (map_lower_respellFrom (fun word => (cut_scan _).isWord_of_mem) h)

end CommandBot.Template
