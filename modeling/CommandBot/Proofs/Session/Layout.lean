import CommandBot.Proofs.Session.Sigil

/-!
# How a line is laid out

A text is cut into the words that it lays out, and into no others (`words_eq_iff`), so that nothing
of the white space in it is left after the cut. What a line comes to is settled by the words after
the sigil alone, and of the first of them by its lowercase alone (`dispatch_eq_of_sayAlike`): two
lines that say the same have the same outcome and leave the same session, with all that their calls
have stored (`handle_eq_of_sayAlike`).
-/

namespace CommandBot

namespace Text

/-- The ways to lay out words: white space of any kind may stand around them and has to stand
between them. -/
inductive LaysOut : List (List Char) → List Char → Prop
  | blank {gap : List Char} (hgap : ∀ c ∈ gap, isBlank c = true) : LaysOut [] gap
  | word {gap w rest : List Char} {ws : List (List Char)} (hgap : ∀ c ∈ gap, isBlank c = true)
      (hne : w ≠ []) (hw : ∀ c ∈ w, isBlank c = false)
      (hbreak : ∀ c ∈ rest.head?, isBlank c = true) (hrest : LaysOut ws rest) :
      LaysOut (w :: ws) (gap ++ (w ++ rest))

theorem LaysOut.word_at_start {w rest : List Char} {ws : List (List Char)} (hne : w ≠ [])
    (hw : ∀ c ∈ w, isBlank c = false) (hbreak : ∀ c ∈ rest.head?, isBlank c = true)
    (hrest : LaysOut ws rest) : LaysOut (w :: ws) (w ++ rest) :=
  .word (List.forall_mem_nil _) hne hw hbreak hrest

theorem words_append_of_blank {gap : List Char} (hgap : ∀ c ∈ gap, isBlank c = true)
    (rest : List Char) : words (gap ++ rest) = words rest := by
  induction gap with
  | nil => rfl
  | cons c gap ih =>
      rw [List.cons_append, words_cons_of_blank (hgap c List.mem_cons_self)]
      exact ih fun d hd => hgap d (List.mem_cons_of_mem _ hd)

theorem LaysOut.words_eq {ws : List (List Char)} {text : List Char} (h : LaysOut ws text) :
    words text = ws := by
  induction h with
  | @blank gap hgap =>
      have hwords := words_append_of_blank hgap []
      rwa [List.append_nil] at hwords
  | word hgap hne hw hbreak _ ih =>
      rw [words_append_of_blank hgap, words_append hne hw hbreak, ih]

/-- One more character of white space before a layout. -/
theorem LaysOut.cons_blank {c : Char} (hc : isBlank c = true) {ws : List (List Char)}
    {text : List Char} (h : LaysOut ws text) : LaysOut ws (c :: text) := by
  have hcons : ∀ {gap : List Char}, (∀ d ∈ gap, isBlank d = true) →
      ∀ d ∈ c :: gap, isBlank d = true :=
    fun hgap => List.forall_mem_cons.2 ⟨hc, hgap⟩
  cases h with
  | blank hgap => exact .blank (hcons hgap)
  | word hgap hne hw hbreak hrest =>
      rw [← List.cons_append]
      exact .word (hcons hgap) hne hw hbreak hrest

/-- One more character at the start of the first word of a layout. -/
theorem LaysOut.cons_word {c d : Char} (hc : isBlank c = false) (hd : isBlank d = false)
    {w rest : List Char} {ws : List (List Char)} (h : LaysOut (w :: ws) (d :: rest)) :
    LaysOut ((c :: w) :: ws) (c :: d :: rest) := by
  generalize htext : d :: rest = text at h
  cases h with
  | @word gap _ after _ hgap hne hw hbreak hrest =>
      cases gap with
      | nil =>
          exact LaysOut.word_at_start (List.cons_ne_nil c w) (List.forall_mem_cons.2 ⟨hc, hw⟩)
            hbreak hrest
      | cons e gap =>
          obtain ⟨rfl, -⟩ := List.cons.inj htext
          rw [hgap d List.mem_cons_self] at hd
          cases hd

theorem laysOut_words (text : List Char) : LaysOut (words text) text := by
  induction text with
  | nil => exact .blank (by simp)
  | cons c rest ih =>
      by_cases hc : isBlank c = true
      · rw [words_cons_of_blank hc]
        exact ih.cons_blank hc
      have hword : isBlank c = false := by simpa using hc
      by_cases hbreak : ∀ d ∈ rest.head?, isBlank d = true
      · rw [words_cons_before_blank hword hbreak]
        exact LaysOut.word_at_start (List.cons_ne_nil c []) (by simp [hword]) hbreak ih
      · cases rest with
        | nil => exact absurd (by simp) hbreak
        | cons d rest =>
            have hd : isBlank d = false := by simpa using hbreak
            cases hwords : words (d :: rest) with
            | nil =>
                rw [hwords] at ih
                cases ih with
                | blank hgap => rw [hgap d List.mem_cons_self] at hd; cases hd
            | cons w ws =>
                rw [hwords] at ih
                rw [words_cons_of_words hword hd hwords]
                exact ih.cons_word hword hd

/-- The words of a text are the ones that it lays out. -/
theorem words_eq_iff (ws : List (List Char)) (text : List Char) :
    words text = ws ↔ LaysOut ws text := by
  constructor
  · rintro rfl
    exact laysOut_words text
  · exact LaysOut.words_eq

theorem words_trimStart (text : List Char) : words (trimStart text) = words text := by
  obtain ⟨gap, hgap, htext⟩ := exists_append_trimStart text
  have hwords := words_append_of_blank hgap (trimStart text)
  rw [← htext] at hwords
  exact hwords.symm

/-- As many words, the first ones the same in lower case and the others the same. -/
inductive SayAlike : List (List Char) → List (List Char) → Prop
  | nothing : SayAlike [] []
  | command {name name' : List Char} (h : lower (String.ofList name) = lower (String.ofList name'))
      (args : List (List Char)) : SayAlike (name :: args) (name' :: args)

end Text

open Text

namespace Dispatch

theorem commandWords?_of_trimStart {sigil line : String} {rest : List Char}
    (h : trimStart line.toList = sigil.toList ++ rest) :
    commandWords? sigil line = some ((words rest).map String.ofList) := by
  rw [commandWords?, (dropLead?_eq_some_iff _ _ _).2 h, Option.map_some]

/-- White space before the sigil does not matter, unless the sigil itself starts with some. -/
theorem commandWords?_layout (sigil : String) {gap : List Char} (text : List Char)
    (hgap : ∀ c ∈ gap, isBlank c = true) :
    commandWords? sigil (String.ofList (gap ++ (sigil.toList ++ text))) =
      if startsBlank sigil.toList then none else some ((words text).map String.ofList) := by
  have htrim : trimStart (String.ofList (gap ++ (sigil.toList ++ text))).toList =
      trimStart (sigil.toList ++ text) := by
    rw [String.toList_ofList, trimStart_append_of_blank hgap]
  cases hsigil : startsBlank sigil.toList with
  | true =>
      rw [if_pos rfl, commandWords?, dropLead?_trimStart_of_startsBlank hsigil, Option.map_none]
  | false =>
      rw [if_neg Bool.false_ne_true]
      by_cases hne : sigil.toList = []
      · -- The empty sigil stands before whatever is left of the text when it has been trimmed.
        have hrest : trimStart (sigil.toList ++ text) = sigil.toList ++ trimStart text := by
          rw [hne, List.nil_append, List.nil_append]
        rw [commandWords?_of_trimStart (htrim.trans hrest), words_trimStart]
      · rw [trimStart_append hsigil hne] at htrim
        exact commandWords?_of_trimStart htrim

variable {ι : Type} [Callable ι]

theorem dispatch_eq_of_commandWords? (network : Network) (request : Template.Request)
    {line line' : String} {scene : Scene ι}
    (h : commandWords? scene.channel.sigil line = commandWords? scene.channel.sigil line') :
    dispatch network request line scene = dispatch network request line' scene := by
  rw [dispatch, dispatch, h]

/-- The words of a line settle what it comes to, and of the first one its lowercase does. -/
theorem dispatch_eq_of_sayAlike (network : Network) (request : Template.Request)
    {line line' : String} {scene : Scene ι} {ws ws' : List (List Char)}
    (hline : commandWords? scene.channel.sigil line = some (ws.map String.ofList))
    (hline' : commandWords? scene.channel.sigil line' = some (ws'.map String.ofList))
    (h : SayAlike ws ws') :
    dispatch network request line scene = dispatch network request line' scene := by
  cases h with
  | nothing => exact dispatch_eq_of_commandWords? network request (hline.trans hline'.symm)
  | command hlower args =>
      rw [dispatch, dispatch, hline, hline']
      simp only [List.map_cons, List.headD_cons, List.tail_cons, hlower]

end Dispatch

namespace Session

open Dispatch

variable {ι : Type} [Callable ι]

/-- Two lines that start with the sigil, white space before it aside, and then say the same words,
the first one in any letter case, have the same outcome and leave the same session. So it is with
any two layouts of such words, whatever white space stands before the sigil, before the words,
between them and after them. -/
theorem handle_eq_of_sayAlike (s : Session ι) (network : Network) (patience : Duration)
    (author : Author) :
    let sigil := s.scene.channel.sigil.toList
    (∀ (line line' : String) (rest rest' : List Char),
      trimStart line.toList = sigil ++ rest → trimStart line'.toList = sigil ++ rest' →
      SayAlike (words rest) (words rest') →
      s.handle network patience author line = s.handle network patience author line') ∧
    (∀ (ws ws' : List (List Char)) (gap gap' text text' : List Char), SayAlike ws ws' →
      (∀ c ∈ gap, isBlank c = true) → (∀ c ∈ gap', isBlank c = true) →
      LaysOut ws text → LaysOut ws' text' →
      s.handle network patience author (String.ofList (gap ++ (sigil ++ text))) =
        s.handle network patience author (String.ofList (gap' ++ (sigil ++ text')))) := by
  intro sigil
  constructor
  · intro line line' rest rest' hline hline' halike
    rw [handle, handle, dispatch_eq_of_sayAlike network ⟨author, patience⟩
      (commandWords?_of_trimStart hline) (commandWords?_of_trimStart hline') halike]
  · intro ws ws' gap gap' text text' halike hgap hgap' htext htext'
    have hwords := commandWords?_layout s.scene.channel.sigil text hgap
    have hwords' := commandWords?_layout s.scene.channel.sigil text' hgap'
    rw [htext.words_eq] at hwords
    rw [htext'.words_eq] at hwords'
    rw [handle, handle]
    cases hsigil : startsBlank s.scene.channel.sigil.toList with
    | true =>
        rw [hsigil, if_pos rfl] at hwords hwords'
        rw [dispatch_eq_of_commandWords? network ⟨author, patience⟩ (hwords.trans hwords'.symm)]
    | false =>
        rw [hsigil, if_neg Bool.false_ne_true] at hwords hwords'
        rw [dispatch_eq_of_sayAlike network ⟨author, patience⟩ hwords hwords' halike]

/-- A moderator adds a command in a plain line, in one with white space of several kinds and in one
whose command is written in capitals. -/
theorem handle_eq_of_sayAlike_added :
    let moderator : Author := ⟨"1", "mod", true, false, false⟩
    ∃ s, start Builtin.catalogue .down 0 [] "room" .initial = .ok s ∧
      let plain := s.handle .down 0 moderator "r!cmdadd x 5 hi there"
      s.handle .down 0 moderator "\t r! CMDADD\u2003x  5\nhi  there\u00A0" = plain ∧
      s.handle .down 0 moderator "\u3000r!CmdAdd x 5 hi there" = plain ∧
      (plain.2.scene.channel.commands.lookup "x").map Command.response = some "hi there" := by
  intro moderator
  have hrun : ((start Builtin.catalogue .down 0 [] "room" .initial).toOption.map fun s =>
      (s.scene.channel.sigil, ((s.handle .down 0 moderator
        "r!cmdadd x 5 hi there").2.scene.channel.commands.lookup "x").map Command.response)) =
      some ("r!", some "hi there") := by
    decide +kernel
  obtain ⟨s, hstart, hrun⟩ := exists_of_toOption_map_eq_some hrun
  obtain ⟨hsigil, hstored⟩ := Prod.mk.inj hrun
  have hsame := handle_eq_of_sayAlike s .down 0 moderator
  rw [hsigil] at hsame
  have hplain : words "cmdadd x 5 hi there".toList =
      "cmdadd".toList :: ["x", "5", "hi", "there"].map String.toList := by
    decide
  refine ⟨s, hstart, ?_, ?_, hstored⟩
  · have hspaced : words " CMDADD\u2003x  5\nhi  there\u00A0".toList =
        "CMDADD".toList :: ["x", "5", "hi", "there"].map String.toList := by
      decide
    refine hsame.1 _ _ " CMDADD\u2003x  5\nhi  there\u00A0".toList "cmdadd x 5 hi there".toList
      (by decide) (by decide) ?_
    rw [hspaced, hplain]
    exact .command (by decide +kernel) _
  · have hcapitals : words "CmdAdd x 5 hi there".toList =
        "CmdAdd".toList :: ["x", "5", "hi", "there"].map String.toList := by
      decide
    have hgap : "\u3000".toList.all isBlank = true := by decide
    exact hsame.2 _ _ "\u3000".toList [] _ _ (.command (by decide +kernel) _)
      (List.all_eq_true.1 hgap) (List.forall_mem_nil _) ((words_eq_iff _ _).1 hcapitals)
      ((words_eq_iff _ _).1 hplain)

end Session

end CommandBot
