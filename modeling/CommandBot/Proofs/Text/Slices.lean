/-!
# Parts of a text by their bytes

A part of a text is given by the bytes between which it lies, and both of them have to be boundaries
of characters (`IsSlice`). That is the same as cutting the text into three parts of the right sizes
(`isSlice_iff_exists_append`), which is how slices are found and put together.
-/

namespace CommandBot.Text

/-- Both bytes are boundaries of characters of the text, in order, and `part` is what lies between
them. -/
structure IsSlice (text : String) (start stop : Nat) (part : String) : Prop where
  isValid_start : String.Pos.Raw.IsValid text ⟨start⟩
  isValid_stop : String.Pos.Raw.IsValid text ⟨stop⟩
  start_le_stop : start ≤ stop
  bytes : text.toByteArray.extract start stop = part.toByteArray

variable {text part other : String} {start middle stop : Nat}

theorem isValid_iff_exists_append (n : Nat) :
    String.Pos.Raw.IsValid text ⟨n⟩ ↔
      ∃ before after, text = before ++ after ∧ before.utf8ByteSize = n := by
  rw [String.Pos.Raw.isValid_iff_exists_append]
  refine exists₂_congr fun before after => and_congr_right fun _ => ?_
  rw [String.Pos.Raw.ext_iff, String.byteIdx_rawEndPos]
  exact eq_comm

/-- Texts that start with parts of the same size start with the same part. -/
theorem append_inj_of_utf8ByteSize {before before' after after' : String}
    (h : before ++ after = before' ++ after')
    (hsize : before.utf8ByteSize = before'.utf8ByteSize) : before = before' ∧ after = after' := by
  have hbytes := congrArg String.toByteArray h
  rw [String.toByteArray_append, String.toByteArray_append] at hbytes
  have hbefore := String.toByteArray_inj.1 (ByteArray.append_inj_left hbytes hsize)
  subst hbefore
  exact ⟨rfl, String.toByteArray_inj.1 ((ByteArray.append_right_inj _).1 hbytes)⟩

/-- Of two starts of a text the larger goes on from the smaller. -/
theorem exists_append_of_utf8ByteSize_le {before before' after after' : String}
    (h : before ++ after = before' ++ after')
    (hsize : before.utf8ByteSize ≤ before'.utf8ByteSize) :
    ∃ between, before' = before ++ between ∧ after = between ++ after' := by
  have hlists := congrArg String.toList h
  rw [String.toList_append, String.toList_append, List.append_eq_append_iff] at hlists
  rcases hlists with ⟨between, hbefore', hafter⟩ | ⟨between, hbefore, hafter'⟩
  · refine ⟨String.ofList between, ?_, ?_⟩
    · rw [← String.toList_inj, hbefore', String.toList_append, String.toList_ofList]
    · rw [← String.toList_inj, hafter, String.toList_append, String.toList_ofList]
  · have hsplit : before = before' ++ String.ofList between := by
      rw [← String.toList_inj, hbefore, String.toList_append, String.toList_ofList]
    have hempty : (String.ofList between).utf8ByteSize = 0 := by
      rw [hsplit, String.utf8ByteSize_append] at hsize
      omega
    rw [String.utf8ByteSize_eq_zero_iff.1 hempty, String.append_empty] at hsplit
    subst hsplit
    exact ⟨"", by rw [String.append_empty], by
      rw [String.empty_append]
      exact (append_inj_of_utf8ByteSize h rfl).2⟩

theorem isSlice_of_append {before after : String} (h : text = before ++ part ++ after)
    (hstart : before.utf8ByteSize = start) (hstop : start + part.utf8ByteSize = stop) :
    IsSlice text start stop part where
  isValid_start := by
    refine (isValid_iff_exists_append start).2 ⟨before, part ++ after, ?_, hstart⟩
    rw [h, String.append_assoc]
  isValid_stop := by
    refine (isValid_iff_exists_append stop).2 ⟨before ++ part, after, h, ?_⟩
    rw [String.utf8ByteSize_append, hstart, hstop]
  start_le_stop := by omega
  bytes := by
    subst hstart hstop
    rw [h, String.append_assoc, String.toByteArray_append, String.toByteArray_append]
    have hmiddle := ByteArray.extract_append_size_add (a := before.toByteArray)
      (b := part.toByteArray ++ after.toByteArray) (i := 0) (j := part.toByteArray.size)
    rwa [Nat.add_zero, ByteArray.extract_append_eq_left rfl] at hmiddle

/-- Between two boundaries of characters there is a part. -/
theorem exists_isSlice (hstart : String.Pos.Raw.IsValid text ⟨start⟩)
    (hstop : String.Pos.Raw.IsValid text ⟨stop⟩) (hle : start ≤ stop) :
    ∃ part, IsSlice text start stop part := by
  obtain ⟨before, rest, htext, rfl⟩ := (isValid_iff_exists_append start).1 hstart
  obtain ⟨front, after, htext', rfl⟩ := (isValid_iff_exists_append stop).1 hstop
  obtain ⟨between, rfl, rfl⟩ := exists_append_of_utf8ByteSize_le (htext.symm.trans htext') hle
  exact ⟨between, isSlice_of_append htext' rfl (String.utf8ByteSize_append ..).symm⟩

theorem IsSlice.unique (h : IsSlice text start stop part) (h' : IsSlice text start stop other) :
    part = other :=
  String.toByteArray_inj.1 (h.bytes.symm.trans h'.bytes)

/-- A part lies between two bytes just when the text can be cut there. -/
theorem isSlice_iff_exists_append :
    IsSlice text start stop part ↔ ∃ before after, text = before ++ part ++ after ∧
      before.utf8ByteSize = start ∧ start + part.utf8ByteSize = stop := by
  constructor
  · intro h
    obtain ⟨before, rest, htext, hstart⟩ := (isValid_iff_exists_append start).1 h.isValid_start
    obtain ⟨front, after, htext', hstop⟩ := (isValid_iff_exists_append stop).1 h.isValid_stop
    obtain ⟨between, rfl, rfl⟩ := exists_append_of_utf8ByteSize_le (htext.symm.trans htext')
      (by rw [hstart, hstop]; exact h.start_le_stop)
    have hsize : start + between.utf8ByteSize = stop := by
      rw [← hstop, String.utf8ByteSize_append, hstart]
    obtain rfl := h.unique (isSlice_of_append htext' hstart hsize)
    exact ⟨before, after, htext', hstart, hsize⟩
  · rintro ⟨before, after, htext, hstart, hstop⟩
    exact isSlice_of_append htext hstart hstop

theorem IsSlice.stop_eq (h : IsSlice text start stop part) :
    start + part.utf8ByteSize = stop := by
  obtain ⟨-, -, -, -, hstop⟩ := isSlice_iff_exists_append.1 h
  exact hstop

theorem isSlice_self (hvalid : String.Pos.Raw.IsValid text ⟨start⟩) :
    IsSlice text start start "" := by
  obtain ⟨before, after, htext, hstart⟩ := (isValid_iff_exists_append start).1 hvalid
  have hempty : text = before ++ "" ++ after := by rw [String.append_empty, htext]
  exact isSlice_of_append hempty hstart rfl

theorem IsSlice.append (h : IsSlice text start middle part)
    (h' : IsSlice text middle stop other) : IsSlice text start stop (part ++ other) where
  isValid_start := h.isValid_start
  isValid_stop := h'.isValid_stop
  start_le_stop := Nat.le_trans h.start_le_stop h'.start_le_stop
  bytes := by
    rw [String.toByteArray_append, ← h.bytes, ← h'.bytes]
    exact ByteArray.extract_eq_extract_append_extract _ h.start_le_stop h'.start_le_stop

/-- The part between the ends of a text is the text. -/
theorem isSlice_whole_iff : IsSlice text 0 text.utf8ByteSize part ↔ part = text := by
  have hempty : text = "" ++ text ++ "" := by rw [String.empty_append, String.append_empty]
  have hwhole : IsSlice text 0 text.utf8ByteSize text :=
    isSlice_of_append hempty rfl (Nat.zero_add _)
  exact ⟨fun h => h.unique hwhole, fun h => h ▸ hwhole⟩

end CommandBot.Text
