import CommandBot.Proofs.CommandAdd.Grammar
import CommandBot.Proofs.Module.Loading

/-!
# A number after the name

A whole number that follows the name of a command is meant as its cooldown: the command is to be
stored with that cooldown, or refused (`CountsAsCooldown`). It is so for the numbers of 64 bits. Any
other is read as no number at all, and then it is the first word of the response, so that the
command gets the default cooldown; only a negative default, with which nothing can be stored, stands
in the way (`call_commandAdd_number`).
-/

namespace CommandBot

namespace Number

theorem Denotes.unique {text : List Char} {n m : Int} (hn : Denotes text n) (hm : Denotes text m) :
    n = m :=
  Option.some.inj ((integer?_eq_some_iff.2 hn).symm.trans (integer?_eq_some_iff.2 hm))

theorem isSigned_iff_of_denotes {bits : Nat} {word : String} {n m : Int}
    (h : Denotes word.toList n) :
    IsSigned bits word m ↔ m = n ∧ fitsSigned bits n = true := by
  rw [fitsSigned_iff]
  constructor
  · rintro ⟨hword, hfits⟩
    obtain rfl := h.unique hword
    exact ⟨rfl, hfits⟩
  · rintro ⟨rfl, hfits⟩
    exact ⟨h, hfits⟩

end Number

namespace CommandAdd

/-- What is said to a command with this entry, and the channel after that. -/
def answerFor (channel : Channel) (name : String) (entry : StoredCommand) : String × Channel :=
  if entry.cooldown < 0 then (Wording.negativeCooldown, channel)
  else (Wording.commandAdded (Text.lower name),
    { channel with
      commands := ⟨channel.commands.byName.insert (Text.lower name)
        (Commands.ofStored name entry)⟩
      unsaved := true })

/-- The number is the cooldown with which the command is stored, or the command is refused and
nothing changes. A negative number is refused as such. -/
inductive CountsAsCooldown (channel : Channel) (name : String) (n : Int) :
    String × Channel → Prop where
  | stored {modOnly hidden : Bool} {response : String} (hn : 0 ≤ n) :
      CountsAsCooldown channel name n
        (Wording.commandAdded (Text.lower name),
          { channel with
            commands := ⟨channel.commands.byName.insert (Text.lower name)
              ⟨Text.lower name, n.toNat, modOnly, hidden, response⟩⟩
            unsaved := true })
  | refused {text : String} (hn : 0 ≤ n) (htext : text ≠ Wording.commandAdded (Text.lower name)) :
      CountsAsCooldown channel name n (text, channel)
  | negative (hn : n < 0) :
      CountsAsCooldown channel name n (Wording.negativeCooldown, channel)

variable {settings : Settings} {channel : Channel} {name word : String} {n : Int}
  {flags response : List String} {entry : StoredCommand}

theorem answerFor_of_negative (channel : Channel) (name : String) (h : entry.cooldown < 0) :
    answerFor channel name entry = (Wording.negativeCooldown, channel) := if_pos h

theorem call_of_asks (network : Network) {call : Invocation} {words : List String}
    (hargs : call.args = name :: words) (hname : MatchesNamePattern name)
    (h : Asks settings words entry) :
    Callable.call network (Builtin.commandAdd settings) call =
      Builtin.say (.commandAdd settings) call (answerFor call.channel name entry) := by
  refine call_of_answers network ?_
  rw [hargs]
  by_cases hnegative : entry.cooldown < 0
  · rw [answerFor_of_negative _ _ hnegative]
    exact .negative h hname.lower hnegative
  · rw [answerFor, if_neg hnegative]
    exact .stored h hname.lower (Int.not_lt.1 hnegative)

/-! ### Numbers of 64 bits -/

theorem asks_of_fits {modOnly hidden : Bool} (hword : Number.Denotes word.toList n)
    (hfits : Number.fitsSigned 64 n = true) (hcut : IsCut settings flags response)
    (hresponse : response ≠ []) (hflagged : Flagged settings flags modOnly hidden) :
    Asks settings (word :: (flags ++ response))
      ⟨n, modOnly, hidden, " ".intercalate response⟩ :=
  ⟨flags, response, .given ((Number.isSigned_iff_of_denotes hword).2 ⟨rfl, hfits⟩) hcut, hresponse,
    hflagged, rfl⟩

theorem countsAsCooldown_answerFor (h : entry.cooldown = n) :
    CountsAsCooldown channel name n (answerFor channel name entry) := by
  subst h
  by_cases hnegative : entry.cooldown < 0
  · rw [answerFor_of_negative _ _ hnegative]
    exact .negative hnegative
  · rw [answerFor, if_neg hnegative]
    exact .stored (Int.not_lt.1 hnegative)

/-! ### Numbers beyond -/

theorem isCut_nil (hmodOnly : ¬ IsModOnlyFlag settings word)
    (hhidden : ¬ IsHiddenFlag settings word) (rest : List String) :
    IsCut settings [] (word :: rest) := by
  refine ⟨fun flag hflag => absurd hflag List.not_mem_nil, fun first hfirst => ?_⟩
  obtain rfl := Option.some.inj hfirst
  exact ⟨hmodOnly, hhidden⟩

theorem flagged_nil (settings : Settings) : Flagged settings [] false false :=
  ⟨by simp, by simp⟩

/-- A number out of the range is read as the other words are: as a flag, if a flag is spelled so,
and else as the start of the response. -/
theorem asks_of_not_fits (hword : Number.Denotes word.toList n)
    (hfits : ¬ Number.fitsSigned 64 n = true) {modOnly hidden : Bool}
    {flags' response' : List String} (hwords : word :: (flags ++ response) = flags' ++ response')
    (hcut : IsCut settings flags' response') (hresponse : response' ≠ [])
    (hflagged : Flagged settings flags' modOnly hidden) :
    Asks settings (word :: (flags ++ response))
      ⟨settings.defaultCooldown, modOnly, hidden, " ".intercalate response'⟩ := by
  refine ⟨flags', response', ?_, hresponse, hflagged, rfl⟩
  rw [hwords]
  refine .default (fun first hfirst m hm => ?_) hcut
  rw [← hwords] at hfirst
  obtain rfl := Option.some.inj hfirst
  exact hfits ((Number.isSigned_iff_of_denotes hword).1 hm).2

theorem exists_asks_of_not_fits (hword : Number.Denotes word.toList n)
    (hfits : ¬ Number.fitsSigned 64 n = true) (hcut : IsCut settings flags response)
    (hresponse : response ≠ []) :
    ∃ entry, entry.cooldown = settings.defaultCooldown ∧
      Asks settings (word :: (flags ++ response)) entry := by
  by_cases hflag : IsModOnlyFlag settings word ∨ IsHiddenFlag settings word
  · obtain ⟨modOnly, hidden, hflagged⟩ := exists_flagged settings (word :: flags)
    exact ⟨_, rfl, asks_of_not_fits hword hfits rfl
      ⟨List.forall_mem_cons.2 ⟨hflag, hcut.flags⟩, hcut.response⟩ hresponse hflagged⟩
  · obtain ⟨hmodOnly, hhidden⟩ := not_or.1 hflag
    exact ⟨_, rfl, asks_of_not_fits hword hfits rfl (isCut_nil hmodOnly hhidden _)
      (List.cons_ne_nil _ _) (flagged_nil settings)⟩

theorem negativeCooldown_ne_commandAdded (name : String) :
    Wording.negativeCooldown ≠ Wording.commandAdded name := by
  intro h
  have hsuffix : " added successfully.".toList <:+ (Wording.commandAdded name).toList := by
    refine ⟨"Command ".toList ++ name.toList, ?_⟩
    rw [← String.toList_append, ← String.toList_append]
    rfl
  rw [← h] at hsuffix
  exact absurd hsuffix (by decide)

/-- A command that is stored with another cooldown is neither stored with the number nor refused. -/
theorem not_countsAsCooldown_answerFor (hcooldown : entry.cooldown ≠ n)
    (hstored : 0 ≤ entry.cooldown) :
    ¬ CountsAsCooldown channel name n (answerFor channel name entry) := by
  intro h
  generalize hanswer : answerFor channel name entry = answer at h
  rw [answerFor, if_neg (Int.not_lt.2 hstored)] at hanswer
  cases h with
  | stored hn =>
      have hcommand := congrArg (·.commands.byName.get? (Text.lower name)) (Prod.mk.inj hanswer).2
      simp only [KeyMap.get?_insert, if_true, Option.some.injEq] at hcommand
      have hsame : entry.cooldown.toNat = n.toNat := congrArg Command.cooldown hcommand
      omega
  | refused hn htext => exact htext (Prod.mk.inj hanswer).1.symm
  | negative hn => exact negativeCooldown_ne_commandAdded _ (Prod.mk.inj hanswer).1.symm

theorem countsAsCooldown_of_negative (h : entry.cooldown < 0) :
    CountsAsCooldown channel name n (answerFor channel name entry) := by
  rw [answerFor_of_negative _ _ h]
  by_cases hn : n < 0
  · exact .negative hn
  · exact .refused (Int.not_lt.1 hn) (negativeCooldown_ne_commandAdded _)

theorem say_injective {body : Builtin} {call : Invocation} {answer answer' : String × Channel}
    (h : Builtin.say body call answer = Builtin.say body call answer') : answer = answer' := by
  have hchannel := congrArg (·.effects.channel) h
  have htext := congrArg (·.result) h
  exact Prod.ext (Reply.text.inj (Except.ok.inj htext)) hchannel

/-- What becomes of a whole number between a valid name and a response. A number of 64 bits is the
cooldown of the command, which is stored with it, or refused if it is negative. One out of that
range is no number: unless a flag is spelled so it is the first word of the response, with the
flags after it, and the command gets the default cooldown. So the number counts as the cooldown just
if it is one of 64 bits, or if the default is negative and nothing can be stored with it. -/
theorem call_commandAdd_number (network : Network) {options : Json.Options} {settings : Settings}
    (hsettings : readSettings options = .ok settings) {call : Invocation} {name word : String}
    {n : Int} {flags response : List String} {modOnly hidden : Bool}
    (hargs : call.args = name :: word :: (flags ++ response)) (hname : MatchesNamePattern name)
    (hword : Number.Denotes word.toList n) (hcut : IsCut settings flags response)
    (hresponse : response ≠ []) (hflagged : Flagged settings flags modOnly hidden) :
    let run := Callable.call network (Builtin.commandAdd settings) call
    let answered := Builtin.say (.commandAdd settings) call
    (Number.fitsSigned 64 n = true →
      run = answered (answerFor call.channel name
        ⟨n, modOnly, hidden, " ".intercalate response⟩)) ∧
    (¬ Number.fitsSigned 64 n = true →
      ¬ IsModOnlyFlag settings word → ¬ IsHiddenFlag settings word →
      run = answered (answerFor call.channel name
        ⟨settings.defaultCooldown, false, false, " ".intercalate (word :: (flags ++ response))⟩)) ∧
    ((∃ answer, CountsAsCooldown call.channel name n answer ∧ run = answered answer) ↔
      Number.fitsSigned 64 n = true ∨ settings.defaultCooldown < 0) := by
  intro run answered
  have hrun : ∀ {entry}, Asks settings (word :: (flags ++ response)) entry →
      run = answered (answerFor call.channel name entry) :=
    fun hasks => call_of_asks network hargs hname hasks
  refine ⟨fun hfits => ?_, fun hfits hmodOnly hhidden => ?_, fun ⟨answer, hcounts, hanswer⟩ => ?_,
    fun h => ?_⟩
  · exact hrun (asks_of_fits hword hfits hcut hresponse hflagged)
  · exact hrun (asks_of_not_fits hword hfits rfl (isCut_nil hmodOnly hhidden _)
      (List.cons_ne_nil _ _) (flagged_nil settings))
  · refine Decidable.byContradiction fun hneither => ?_
    obtain ⟨hfits, hdefault⟩ := not_or.1 hneither
    obtain ⟨entry, hentry, hasks⟩ := exists_asks_of_not_fits hword hfits hcut hresponse
    have hother : entry.cooldown ≠ n := by
      rw [hentry]
      rintro rfl
      exact hfits (Builtin.fits_of_readSettings hsettings)
    rw [hrun hasks] at hanswer
    rw [← say_injective hanswer] at hcounts
    exact not_countsAsCooldown_answerFor hother (hentry ▸ Int.not_lt.1 hdefault) hcounts
  · by_cases hfits : Number.fitsSigned 64 n = true
    · exact ⟨_, countsAsCooldown_answerFor rfl,
        hrun (asks_of_fits hword hfits hcut hresponse hflagged)⟩
    · obtain ⟨entry, hentry, hasks⟩ := exists_asks_of_not_fits hword hfits hcut hresponse
      exact ⟨_, countsAsCooldown_of_negative (hentry ▸ h.resolve_left hfits), hrun hasks⟩

/-- A number of 64 bits is the cooldown however it is written, and the flags and numbers after it
are read on. The next number up starts the response. -/
theorem call_commandAdd_number_ends :
    let settings : Settings := ⟨"-modonly", "-hidden", 5⟩
    let call := fun word => (⟨["Hi", word, "-HIDDEN", "8", "x"],
      ⟨"1", "ann", true, false, false⟩, 0, .empty, Channel.start "room" "r!" .empty 0, []⟩ :
      Invocation)
    let run := fun word => Callable.call .down (Builtin.commandAdd settings) (call word)
    let answered := fun word => Builtin.say (.commandAdd settings) (call word)
    run "+009223372036854775807" = answered "+009223372036854775807"
        (answerFor (call "").channel "Hi" ⟨9223372036854775807, false, true, "8 x"⟩) ∧
      run "9223372036854775808" = answered "9223372036854775808"
        (answerFor (call "").channel "Hi"
          ⟨5, false, false, "9223372036854775808 -HIDDEN 8 x"⟩) ∧
      ∃ answer, CountsAsCooldown (call "").channel "Hi" (-7) answer ∧
        run "-7" = answered "-7" answer := by
  intro settings call run answered
  have hsettings : readSettings defaults = .ok settings := rfl
  have hcut : IsCut settings ["-HIDDEN"] ["8", "x"] := ⟨by decide +kernel, by decide +kernel⟩
  have hflagged : Flagged settings ["-HIDDEN"] false true :=
    ⟨by decide +kernel, by decide +kernel⟩
  have hnumber : ∀ word : String, ∀ n : Int, Number.integer? true word.toList = some n → _ :=
    fun word n hword => call_commandAdd_number .down hsettings (show (call word).args = _ from rfl)
      (by decide) (Number.integer?_eq_some_iff.1 hword) hcut (by decide) hflagged
  have hlast := hnumber "+009223372036854775807" 9223372036854775807 (by decide +kernel)
  have hnext := hnumber "9223372036854775808" 9223372036854775808 (by decide +kernel)
  have hbelow := hnumber "-7" (-7) (by decide +kernel)
  exact ⟨hlast.1 (by decide +kernel),
    hnext.2.1 (by decide +kernel) (by decide +kernel) (by decide +kernel),
    hbelow.2.2.2 (.inl (by decide +kernel))⟩

/-- A negative number of more than 64 bits is not refused: it starts the response of the command,
which is stored with the default cooldown. -/
theorem negative_number_stored_as_text :
    let settings : Settings := ⟨"-modonly", "-hidden", 5⟩
    let channel := Channel.start "room" "r!" .empty 0
    let call : Invocation := ⟨["hi", "-9223372036854775809", "hello"],
      ⟨"1", "ann", true, false, false⟩, 0, .empty, channel, []⟩
    let run := Callable.call .down (Builtin.commandAdd settings) call
    Number.Denotes "-9223372036854775809".toList (-9223372036854775809) ∧
      run.result = .ok (.text "Command hi added successfully.") ∧
      run.effects.channel.commands.lookup "hi" =
        some ⟨"hi", 5, false, false, "-9223372036854775809 hello"⟩ ∧
      ¬ ∃ answer, CountsAsCooldown channel "hi" (-9223372036854775809) answer ∧
        run = Builtin.say (.commandAdd settings) call answer := by
  intro settings channel call run
  have hreply : run.result.toOption.map id = some (.text "Command hi added successfully.") := by
    decide +kernel
  obtain ⟨_, hresult, rfl⟩ := exists_of_toOption_map_eq_some hreply
  refine ⟨Number.integer?_eq_some_iff.1 (by decide +kernel), hresult, by decide +kernel, ?_⟩
  rintro ⟨answer, hcounts, hanswer⟩
  cases hcounts with
  | stored hn => exact absurd hn (by decide)
  | refused hn htext => exact absurd hn (by decide)
  | negative hn =>
      rw [hanswer] at hresult
      exact absurd (Reply.text.inj (Except.ok.inj hresult)) (by decide)

end CommandAdd

end CommandBot
