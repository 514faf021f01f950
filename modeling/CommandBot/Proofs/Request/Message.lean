import CommandBot.Proofs.Number.Digits
import CommandBot.Proofs.Request.Lines
import CommandBot.Request.Message
import CommandBot.Request.Mods

/-!
# What may stand in the message of a request

The numbers, names of roles and modifiers that a placeholder stands for are single lines whatever
the service and the requester say. All else is put in as it was received: the name of the requester
and the texts of the beatmap. So the message of a format that is a single line is one exactly if
what its placeholders stand for is (`isSingleLine_formatMessage_iff`).
-/

namespace CommandBot.Request

theorem isSingleLine_digits (n : Nat) : IsSingleLine (toString n) := by
  have htext : toString n = String.ofList (Nat.toDigits 10 n) := rfl
  rw [htext]
  refine isSingleLine_ofList fun c hc => ?_
  have hdigit := Number.isDigit_of_mem_toDigits hc
  constructor <;> rintro rfl <;> cases hdigit

theorem isSingleLine_twoDigits (n : Nat) : IsSingleLine (Number.twoDigits n) := by
  unfold Number.twoDigits
  split
  · exact isSingleLine_append.2 ⟨by decide, isSingleLine_digits n⟩
  · exact isSingleLine_digits n

theorem isSingleLine_lengthOf (text : String) : IsSingleLine (lengthOf text) :=
  isSingleLine_append.2 ⟨isSingleLine_append.2 ⟨isSingleLine_digits _, by decide⟩,
    isSingleLine_twoDigits _⟩

theorem isSingleLine_signText (x : Binary64) : IsSingleLine x.signText := by
  unfold Binary64.signText
  split <;> decide

theorem isSingleLine_fixedTwo (x : Binary64) : IsSingleLine x.fixedTwo := by
  unfold Binary64.fixedTwo
  split
  · decide
  split
  · exact isSingleLine_append.2 ⟨isSingleLine_signText x, by decide⟩
  · simp only [isSingleLine_append]
    exact ⟨⟨⟨isSingleLine_signText x, isSingleLine_digits _⟩, by decide⟩, isSingleLine_twoDigits _⟩

theorem mem_of_mem_dropTrailing {c d : Char} {text : List Char} (h : d ∈ dropTrailing c text) :
    d ∈ text :=
  List.mem_reverse.1 ((List.dropWhile_sublist _).subset (List.mem_reverse.1 h))

theorem isSingleLine_shortNumber (text : String) : IsSingleLine (shortNumber text) := by
  have hplaces := isSingleLine_fixedTwo ((Binary64.read? text).getD .zero)
  rw [shortNumber, IsSingleLine, String.toList_ofList]
  exact ⟨fun h => hplaces.1 (mem_of_mem_dropTrailing (mem_of_mem_dropTrailing h)),
    fun h => hplaces.2 (mem_of_mem_dropTrailing (mem_of_mem_dropTrailing h))⟩

theorem isSingleLine_approvalText (approved : String) : IsSingleLine (approvalText approved) := by
  unfold approvalText
  split <;> decide

theorem isSingleLine_modeText (mode : String) : IsSingleLine (modeText mode) := by
  unfold modeText
  repeat' split
  all_goals decide

theorem isSingleLine_status (author : Author) : IsSingleLine author.status := by
  unfold Author.status
  repeat' split
  all_goals decide

theorem isSingleLine_modsText (text : String) : IsSingleLine (modsText text) := by
  have hknown : ∀ m ∈ knownMods, IsSingleLine m := by decide
  have hmods : ∀ m ∈ modsOf text, IsSingleLine m := fun m hm => by
    have hmem := (List.mem_filter.1 (List.mem_eraseDups.1 hm)).2
    exact hknown m (List.contains_iff_mem.1 hmem)
  unfold modsText
  split
  · decide
  · exact isSingleLine_append.2 ⟨by decide, isSingleLine_intercalate (by decide) hmods⟩

/-- The texts of a beatmap that are put into a message as they were received. -/
def Beatmap.wording (map : Beatmap) : List String :=
  [map.id, map.setId, map.creator, map.creatorId, map.circleSize, map.overallDifficulty,
    map.approachRate, map.drainRate, map.artist, map.artistUnicode.getD map.artist, map.title,
    map.titleUnicode.getD map.title, map.source, map.version]

section Values

variable {map : Beatmap} {mods : String} {author : Author}

theorem isSingleLine_of_ite {key name text : String} {others : Option String}
    (htext : IsSingleLine text) (hothers : ∀ value ∈ others, IsSingleLine value) :
    ∀ value ∈ if key = name then some text else others, IsSingleLine value := by
  intro value hvalue
  split at hvalue
  · obtain rfl := Option.some.inj hvalue
    exact htext
  · exact hothers value hvalue

theorem isSingleLine_of_fieldValue? (hname : IsSingleLine author.name)
    (hmap : ∀ text ∈ map.wording, IsSingleLine text) (hmods : IsSingleLine mods) (key : String) :
    ∀ value ∈ fieldValue? key map mods author, IsSingleLine value := by
  simp only [Beatmap.wording, List.forall_mem_cons] at hmap
  obtain ⟨hid, hset, hcreator, hcreatorId, hcircle, hoverall, happroach, hdrain, hartist,
    hartistUnicode, htitle, htitleUnicode, hsource, hversion, -⟩ := hmap
  have hsong : IsSingleLine (map.artist ++ " - " ++ map.title) :=
    isSingleLine_append.2 ⟨isSingleLine_append.2 ⟨hartist, by decide⟩, htitle⟩
  have hlink : IsSingleLine ("[https://osu.ppy.sh/b/" ++ map.id ++ " " ++ map.artist ++ " - "
      ++ map.title ++ " [" ++ map.version ++ "]]") := by
    simp only [isSingleLine_append, hid, hartist, htitle, hversion, and_true]
    decide
  have hcreatorLink : IsSingleLine ("[https://osu.ppy.sh/users/" ++ map.creatorId ++ " "
      ++ map.creator ++ "]") := by
    simp only [isSingleLine_append, hcreatorId, hcreator, and_true]
    decide
  exact isSingleLine_of_ite hlink <| isSingleLine_of_ite hid <| isSingleLine_of_ite hset <|
    isSingleLine_of_ite (isSingleLine_approvalText _) <| isSingleLine_of_ite hcreatorLink <|
    isSingleLine_of_ite hcreatorId <| isSingleLine_of_ite hcreator <|
    isSingleLine_of_ite (isSingleLine_lengthOf _) <|
    isSingleLine_of_ite (isSingleLine_shortNumber _) <|
    isSingleLine_of_ite (isSingleLine_shortNumber _) <| isSingleLine_of_ite hcircle <|
    isSingleLine_of_ite hoverall <| isSingleLine_of_ite happroach <| isSingleLine_of_ite hdrain <|
    isSingleLine_of_ite (isSingleLine_modeText _) <| isSingleLine_of_ite hsong <|
    isSingleLine_of_ite hartist <| isSingleLine_of_ite hartistUnicode <|
    isSingleLine_of_ite htitle <| isSingleLine_of_ite htitleUnicode <|
    isSingleLine_of_ite hsource <| isSingleLine_of_ite hname <|
    isSingleLine_of_ite (isSingleLine_status _) <| isSingleLine_of_ite hmods <|
    fun _ hnone => nomatch hnone

open Template (Piece tokenName)

/-- A character that does not stand in the format stands in the message only if it stands in what
one of the placeholders stands for. -/
theorem not_mem_formatMessage_iff {format : String} {c : Char} (hformat : c ∉ format.toList) :
    c ∉ (formatMessage format map mods author).toList ↔
      ∀ word, .token word ∈ Piece.scan format.toList →
        ∀ value ∈ fieldValue? (tokenName word) map mods author, c ∉ value.toList := by
  have htext : ∀ piece ∈ Piece.scan format.toList, c ∉ piece.text := fun piece hpiece hc =>
    hformat (Piece.flatMap_text_scan format.toList ▸ List.mem_flatMap.2 ⟨piece, hpiece, hc⟩)
  rw [formatMessage, String.toList_ofList, List.mem_flatMap]
  constructor
  · intro h word hword value hvalue hc
    refine h ⟨.token word, hword, ?_⟩
    rw [pieceText, Option.mem_def.1 hvalue]
    exact hc
  · rintro h ⟨piece, hpiece, hc⟩
    cases piece with
    | char d => exact htext _ hpiece hc
    | token word =>
        rw [pieceText] at hc
        split at hc
        · rename_i value hvalue
          exact h word hpiece value hvalue hc
        · exact htext _ hpiece hc

/-- The message of a format that is a single line is one exactly if what the placeholders of the
format stand for is. -/
theorem isSingleLine_formatMessage_iff {format : String} (hformat : IsSingleLine format) :
    IsSingleLine (formatMessage format map mods author) ↔
      ∀ word, .token word ∈ Piece.scan format.toList →
        ∀ value ∈ fieldValue? (tokenName word) map mods author, IsSingleLine value := by
  rw [IsSingleLine, not_mem_formatMessage_iff hformat.1, not_mem_formatMessage_iff hformat.2]
  exact ⟨fun h word hword value hvalue =>
      ⟨h.1 word hword value hvalue, h.2 word hword value hvalue⟩,
    fun h => ⟨fun word hword value hvalue => (h word hword value hvalue).1,
      fun word hword value hvalue => (h word hword value hvalue).2⟩⟩

end Values

end CommandBot.Request
