import CommandBot.Module.Builtin
import CommandBot.Proofs.Template.Fill
import CommandBot.Request.Message

/-!
# How a message follows from its format

The message is the format with each token replaced by what its key stands for, or by the token
itself if the key stands for nothing (`shown`); that is the one text in which the tokens of the
format are filled in so, and what is put in has no tokens of its own (`filled_shown_iff`). The
letter case in which a key is written makes no difference to what it stands for
(`filled_shown_of_isRecased`), and where no key stands for anything the format comes out as it would
of the resolver of templates (`formatMessage_exact`).
-/

namespace CommandBot.Request

open Template

/-- The keys that stand for something in a message. -/
def messageKeys : List String :=
  ["map", "mapid", "mapsetid", "mapstatus", "creator", "creatorid", "creatorname", "length", "bpm",
    "stars", "cs", "od", "ar", "hp", "gamemode", "song", "songartist", "songartistunicode",
    "songtitle", "songtitleunicode", "songsource", "requester", "requesterstatus", "mods"]

/-- What takes the place of a token with this key, when it is written so. -/
def shown (map : Beatmap) (mods : String) (author : Author) (key literal : String) : String :=
  (fieldValue? key map mods author).getD literal

/-- A format whose tokens are spelled anew, each with the same key in any letter case. -/
structure IsRecased (format : String) (spelling : Token → String) (recased : String) : Prop where
  sameKey : ∀ t ∈ tokens format, (spelling t).toLower = t.name
  filled : Filled format 0 ((tokens format).map fun t => (t, "&" ++ spelling t ++ "&")) recased

section Message

variable (map : Beatmap) (mods : String) (author : Author)

theorem fieldValue?_eq_none_iff (key : String) :
    fieldValue? key map mods author = none ↔ key ∉ messageKeys := by
  constructor
  · intro hnone hkey
    simp only [messageKeys, List.mem_cons, List.not_mem_nil, or_false] at hkey
    repeat' rcases hkey with rfl | hkey
    all_goals cases hnone
  · intro hkey
    simp only [messageKeys, List.mem_cons, List.not_mem_nil, or_false, not_or] at hkey
    simp only [fieldValue?, hkey, if_false]

theorem shown_of_not_mem {key : String} (h : key ∉ messageKeys) (literal : String) :
    shown map mods author key literal = literal := by
  rw [shown, (fieldValue?_eq_none_iff map mods author key).2 h, Option.getD_none]

/-- A key that stands for something does so however its token is written. -/
theorem shown_of_mem {key : String} (h : key ∈ messageKeys) (literal literal' : String) :
    shown map mods author key literal = shown map mods author key literal' := by
  have hsome := mt (fieldValue?_eq_none_iff map mods author key).1 (not_not_intro h)
  obtain ⟨value, hvalue⟩ := Option.ne_none_iff_exists'.1 hsome
  rw [shown, shown, hvalue, Option.getD_some, Option.getD_some]

theorem pieceText_token (word : List Char) :
    pieceText map mods author (.token word) =
      (shown map mods author (tokenName word) (String.ofList (Piece.token word).text)).toList := by
  rw [pieceText, shown]
  split
  · rename_i value hvalue
    rw [hvalue, Option.getD_some]
  · rename_i hnone
    rw [hnone, Option.getD_none, String.toList_ofList]

/-! ### One pass over the tokens -/

theorem flatMap_pieceText (offset : Nat) (pieces : List Piece) :
    pieces.flatMap (pieceText map mods author) =
      fillFrom (fun t => shown map mods author t.name t.literal) offset pieces := by
  induction pieces generalizing offset with
  | nil => rfl
  | cons piece rest ih =>
      cases piece with
      | char c => exact congrArg (c :: ·) (ih _)
      | token word =>
          rw [List.flatMap_cons, pieceText_token, fillFrom, ih]
          rfl

/-- The message is the one text in which the tokens of the format are filled in. -/
theorem filled_shown_iff (format out : String) :
    Filled format 0 ((tokens format).map fun t => (t, shown map mods author t.name t.literal)) out ↔
      out = formatMessage format map mods author := by
  rw [filled_tokens_iff format fun t => shown map mods author t.name t.literal, formatMessage,
    flatMap_pieceText map mods author 0]

/-- A format without a key that stands for something is its own message. -/
theorem formatMessage_of_unknown {format : String}
    (h : ∀ t ∈ tokens format, t.name ∉ messageKeys) :
    formatMessage format map mods author = format := by
  have hpiece : ∀ piece ∈ Piece.scan format.toList,
      pieceText map mods author piece = piece.text := by
    intro piece hpiece
    cases piece with
    | char c => rfl
    | token word =>
        obtain ⟨t, ht, hname⟩ := exists_mem_tokens hpiece
        rw [pieceText_token, shown_of_not_mem map mods author (hname ▸ h t ht),
          String.toList_ofList]
  rw [formatMessage, List.flatMap_def, List.map_congr_left hpiece, ← List.flatMap_def,
    Piece.flatMap_text_scan, String.ofList_toList]

/-! ### Letter case -/

theorem flatMap_pieceText_respellFrom {spelling : Token → String} {offset : Nat}
    {pieces : List Piece} (hpieces : ∀ word, .token word ∈ pieces → IsWord word)
    (h : ∀ t ∈ tokensFrom offset pieces, (spelling t).toLower = t.name) :
    (respellFrom spelling offset pieces).flatMap (pieceText map mods author) =
      fillFrom (fun t => shown map mods author t.name ("&" ++ spelling t ++ "&")) offset
        pieces := by
  induction pieces generalizing offset with
  | nil => rfl
  | cons piece rest ih =>
      have hrest := fun word hword => hpieces word (List.mem_cons_of_mem _ hword)
      cases piece with
      | char c => exact congrArg (c :: ·) (ih hrest h)
      | token word =>
          rw [tokensFrom_token, List.forall_mem_cons] at h
          have hname : tokenName (spelling (tokenAt offset word)).toList =
              (tokenAt offset word).name :=
            tokenName_of_toLower_eq (hpieces word List.mem_cons_self) h.1
          have hliteral : String.ofList (Piece.token (spelling (tokenAt offset word)).toList).text =
              "&" ++ spelling (tokenAt offset word) ++ "&" := by
            rw [← String.toList_inj, String.toList_ofList, toList_ampersands]
            rfl
          rw [respellFrom, List.flatMap_cons, ih hrest h.2, pieceText_token, hname, hliteral,
            fillFrom]

/-- In the message of a recased format each key stands for the same, and a token whose key stands
for nothing is as it is written now. -/
theorem filled_shown_of_isRecased {format recased : String} {spelling : Token → String}
    (h : IsRecased format spelling recased) :
    Filled format 0
      ((tokens format).map fun t => (t, shown map mods author t.name ("&" ++ spelling t ++ "&")))
      (formatMessage recased map mods author) := by
  have hrecased := (filled_tokens_iff _ _ _).1 h.filled
  have hword : ∀ word, .token word ∈ Piece.scan format.toList → IsWord word :=
    fun word => (cut_scan _).isWord_of_mem
  rw [filled_tokens_iff format fun t => shown map mods author t.name ("&" ++ spelling t ++ "&"),
    formatMessage, hrecased, String.toList_ofList, scan_fillFrom_of_respells h.sameKey,
    flatMap_pieceText_respellFrom map mods author hword h.sameKey]

end Message

/-! ### A format that stands for nothing, and the resolver -/

section Resolver

variable {ι : Type} [Callable ι] (network : Network) (request : Template.Request) (alone : Bool)
  (args : List String) {scene : Scene ι}

theorem expand_of_unknown {word : List Char} (hscene : scene.modules = .empty)
    (h : tokenName word ∉ knownNames) :
    expand network request alone word args scene =
      ⟨.unknown (.unknownPlaceholder (tokenName word)), args, none, scene⟩ := by
  have hknown := (builtin?_eq_none_iff (tokenName word) request.author scene).2 h
  simp only [expand, hknown, hscene, Modules.lookup, Modules.empty, KeyMap.get?_empty]

/-- Without modules, placeholders that the bot does not know stay as they are and are reported. -/
theorem resolvePieces_of_unknown (hscene : scene.modules = .empty) (pieces : List Piece)
    (h : ∀ word, .token word ∈ pieces → tokenName word ∉ knownNames) :
    resolvePieces network request alone pieces args scene =
      ⟨.ok ⟨.text (pieces.flatMap Piece.text),
        (pieces.filterMap Piece.word?).map fun word => .unknownPlaceholder (tokenName word)⟩,
        args, [], scene⟩ := by
  induction pieces with
  | nil => rfl
  | cons piece rest ih =>
      have hrest := ih fun word hword => h word (List.mem_cons_of_mem _ hword)
      cases piece with
      | char c =>
          rw [resolvePieces, hrest]
          rfl
      | token word =>
          have hexpand := expand_of_unknown network request alone args hscene
            (h word List.mem_cons_self)
          simp only [resolvePieces, hexpand, hrest]
          rfl

theorem resolve_of_unknown {template : String} (hscene : scene.modules = .empty)
    (h : ∀ t ∈ tokens template, t.name ∉ knownNames) :
    resolve network request template args scene =
      ⟨.ok ⟨.text template.toList, (tokens template).map fun t => .unknownPlaceholder t.name⟩,
        args, [], scene⟩ := by
  have hword : ∀ word, .token word ∈ Piece.scan template.toList → tokenName word ∉ knownNames := by
    intro word hword
    obtain ⟨t, ht, hname⟩ := exists_mem_tokens hword
    exact hname ▸ h t ht
  have hnames : (tokens template).map (fun t => Fault.unknownPlaceholder t.name) =
      ((Piece.scan template.toList).filterMap Piece.word?).map fun word =>
        .unknownPlaceholder (tokenName word) := by
    have hmap := congrArg (List.map Fault.unknownPlaceholder)
      (map_name_tokensFrom 0 (Piece.scan template.toList))
    rwa [List.map_map, List.map_map] at hmap
  rw [resolve, resolvePieces_of_unknown network request _ args hscene _ hword,
    Piece.flatMap_text_scan, hnames]

end Resolver

/-- The message is the format with each token replaced by what its key in lowercase stands for, or
by itself if that is nothing, and it is the only such text. So a format whose keys all stand for
nothing is its own message; in other letter case the keys stand for the same, and only tokens that
stand for nothing show it; and where the bot knows none of the names either, the resolver without
modules gives the same text. -/
theorem formatMessage_exact {ι : Type} [Callable ι] (format : String) (map : Beatmap)
    (mods : String) (author : Author) :
    AreTokens format 0 (tokens format) ∧
    (∀ key, fieldValue? key map mods author = none ↔ key ∉ messageKeys) ∧
    (∀ out, Filled format 0
        ((tokens format).map fun t =>
          (t, (fieldValue? t.name map mods author).getD t.literal)) out ↔
      out = formatMessage format map mods author) ∧
    ((∀ t ∈ tokens format, t.name ∉ messageKeys) →
      formatMessage format map mods author = format) ∧
    (∀ spelling recased, IsRecased format spelling recased →
      Filled format 0
        ((tokens format).map fun t =>
          (t, (fieldValue? t.name map mods author).getD ("&" ++ spelling t ++ "&")))
        (formatMessage recased map mods author) ∧
      ((∀ t ∈ tokens format, t.name ∉ messageKeys → "&" ++ spelling t ++ "&" = t.literal) →
        formatMessage recased map mods author = formatMessage format map mods author)) ∧
    (∀ (network : Network) (request : Template.Request) (args : List String) (scene : Scene ι),
      scene.modules = .empty →
      (∀ t ∈ tokens format, t.name ∉ messageKeys ∧ t.name ∉ knownNames) →
        resolve network request format args scene =
          ⟨.ok ⟨.text (formatMessage format map mods author).toList,
            (tokens format).map fun t => .unknownPlaceholder t.name⟩, args, [], scene⟩) := by
  refine ⟨areTokens_tokens format, fieldValue?_eq_none_iff map mods author,
    filled_shown_iff map mods author format, formatMessage_of_unknown map mods author,
    fun spelling recased hrecased => ?_, fun network request args scene hscene hunknown => ?_⟩
  · have hfilled := filled_shown_of_isRecased map mods author hrecased
    refine ⟨hfilled, fun hsame => (filled_shown_iff map mods author format _).1 ?_⟩
    have hshown : (tokens format).map (fun t =>
          (t, shown map mods author t.name ("&" ++ spelling t ++ "&"))) =
        (tokens format).map fun t => (t, shown map mods author t.name t.literal) := by
      refine List.map_congr_left fun t ht => ?_
      by_cases hkey : t.name ∈ messageKeys
      · rw [shown_of_mem map mods author hkey _ t.literal]
      · rw [hsame t ht hkey]
    rwa [← hshown]
  · rw [formatMessage_of_unknown map mods author fun t ht => (hunknown t ht).1]
    exact resolve_of_unknown network request args hscene fun t ht => (hunknown t ht).2

/-- A key in other letter case, a value that looks like a token, and a token that stands for
nothing. -/
theorem formatMessage_exact_recased :
    let map : Beatmap := default
    let ann : Author := ⟨"1", "ann", false, false, false⟩
    let scene : Scene Builtin := ⟨.start "room" "!" .empty 0, .empty, 0, []⟩
    formatMessage "é&mODS&&x&" map "+&bpm&" ann = formatMessage "é&Mods&&x&" map "+&bpm&" ann ∧
      (resolve .down ⟨ann, 0⟩ "é&x&" [] scene).result =
        .ok ⟨.text (formatMessage "é&x&" map "+&bpm&" ann).toList, [.unknownPlaceholder "x"]⟩ := by
  intro map ann scene
  let spelling (t : Token) : String := if t.name = "mods" then "mODS" else "x"
  have hrecased : IsRecased "é&Mods&&x&" spelling "é&mODS&&x&" := by
    refine ⟨?_, (filled_tokens_iff _ _ _).2 (by decide +kernel)⟩
    decide +kernel
  obtain ⟨-, -, -, -, hcase, -⟩ := @formatMessage_exact Builtin _ "é&Mods&&x&" map "+&bpm&" ann
  obtain ⟨-, -, -, -, -, hresolve⟩ := @formatMessage_exact Builtin _ "é&x&" map "+&bpm&" ann
  refine ⟨(hcase spelling _ hrecased).2 (by decide +kernel), ?_⟩
  rw [hresolve .down ⟨ann, 0⟩ [] scene rfl (by decide +kernel)]
  rfl

end CommandBot.Request
