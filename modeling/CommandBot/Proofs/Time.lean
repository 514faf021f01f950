import CommandBot.Proofs.Number.Integer
import CommandBot.Request.Message

/-!
# Times as they are shown

The whole seconds of a span are shown as `H:MM:SS`, and the length of a song as `M:SS`: a count
without zeros in front and then, after a colon each, counts below sixty with two digits (`Shows`).
Each count is worth sixty of the next, so that the text can be read back (`readClock?_of_shows`),
and what is read is the number of seconds, up to the longest span that is shown and for every length
of 64 bits (`times_read_back`). The counts of a span are worked out in words of 64 bits with a sign,
which hold them up to that longest span (`wordCounts_ofNat`).
-/

namespace CommandBot

namespace Duration

/-- Digits without a zero in front, unless that is the only digit. -/
structure IsUnpadded (text : List Char) (n : Nat) : Prop where
  areDigits : Number.AreDigits text n
  eq_zero_of_head? : text.head? = some '0' → text = ['0']

/-- Two digits of a number below sixty. -/
structure IsSixtieth (text : List Char) (n : Nat) : Prop where
  areDigits : Number.AreDigits text n
  length_eq : text.length = 2
  lt_sixty : n < 60

/-- The text shows these counts with a colon between any two: the first without padding, the others
with two digits. -/
inductive Shows : (text : List Char) → (counts : List Nat) → Prop
  | first {digits : List Char} {n : Nat} (h : IsUnpadded digits n) : Shows digits [n]
  | next {text digits : List Char} {counts : List Nat} {n : Nat} (h : Shows text counts)
      (hdigits : IsSixtieth digits n) : Shows (text ++ ':' :: digits) (counts ++ [n])

/-- Reads counts with colons between them, of which each is worth sixty of the next. -/
def readClock? (text : List Char) : Option Nat :=
  (text.splitOn ':').foldlM (fun total digits => (Number.digits? digits).map (60 * total + ·)) 0

/-- The counts of hours, minutes and seconds as words of 64 bits with a sign give them. -/
def wordCounts (seconds : Int64) : List Int :=
  [(seconds / 3600).toInt, (seconds / 60 % 60).toInt, (seconds % 60).toInt]

/-! ### Reading -/

theorem colon_not_mem_of_areDigits {digits : List Char} {n : Nat}
    (h : Number.AreDigits digits n) : ':' ∉ digits :=
  fun hcolon => absurd (h.2.1 ':' hcolon) (by decide)

theorem readClock?_of_areDigits {digits : List Char} {n : Nat} (h : Number.AreDigits digits n) :
    readClock? digits = some n := by
  rw [readClock?, List.splitOn_eq_singleton (colon_not_mem_of_areDigits h), List.foldlM_cons,
    Number.digits?_eq_some_iff.2 h]
  simp

theorem readClock?_append {text digits : List Char} {total n : Nat}
    (h : readClock? text = some total) (hdigits : Number.AreDigits digits n) :
    readClock? (text ++ ':' :: digits) = some (60 * total + n) := by
  rw [readClock?] at h
  rw [readClock?, List.splitOn_append_cons_self,
    List.splitOn_eq_singleton (colon_not_mem_of_areDigits hdigits), List.foldlM_append, h,
    Option.bind_eq_bind, Option.bind_some, List.foldlM_cons, Number.digits?_eq_some_iff.2 hdigits]
  simp

/-- Of a text that shows counts their total is read. -/
theorem readClock?_of_shows {text : List Char} {counts : List Nat} (h : Shows text counts) :
    readClock? text = some (counts.foldl (fun total n => 60 * total + n) 0) := by
  induction h with
  | first h => simpa using readClock?_of_areDigits h.areDigits
  | next _ hdigits ih =>
      -- the count after the last colon is the last that the total takes in
      rw [List.foldl_append]
      exact readClock?_append ih hdigits.areDigits

/-! ### Showing -/

theorem isUnpadded_toString (n : Nat) : IsUnpadded (toString n).toList n := by
  rw [Nat.toString_eq_ofList_toDigits, String.toList_ofList]
  refine ⟨Number.areDigits_toDigits n, fun hzero => ?_⟩
  rcases Nat.eq_zero_or_pos n with rfl | hpos
  · rfl
  · exact absurd hzero (Number.head?_toDigits_ne_zero hpos)

theorem isSixtieth_twoDigits (n : Nat) :
    IsSixtieth (Number.twoDigits (n % 60)).toList (n % 60) := by
  have hlt : n % 60 < 60 := Nat.mod_lt _ (by decide)
  have htwo : n % 60 < 100 := Nat.lt_trans hlt (by decide)
  exact ⟨Number.areDigits_twoDigits htwo, Number.length_twoDigits htwo, hlt⟩

theorem shows_lengthText (seconds : Nat) :
    Shows (lengthText seconds).toList [seconds / 60, seconds % 60] := by
  have htext : (lengthText seconds).toList =
      (toString (seconds / 60)).toList ++ ':' :: (Number.twoDigits (seconds % 60)).toList := by
    simp [lengthText]
  rw [htext]
  exact .next (.first (isUnpadded_toString _)) (isSixtieth_twoDigits _)

theorem shows_clockText (seconds : Nat) :
    Shows (clockText seconds).toList [seconds / 3600, seconds / 60 % 60, seconds % 60] := by
  have htext : (clockText seconds).toList =
      ((toString (seconds / 3600)).toList ++ ':' :: (Number.twoDigits (seconds / 60 % 60)).toList)
        ++ ':' :: (Number.twoDigits (seconds % 60)).toList := by
    simp [clockText]
  rw [htext]
  exact .next (.next (.first (isUnpadded_toString _)) (isSixtieth_twoDigits _))
    (isSixtieth_twoDigits _)

/-! ### The longest span -/

theorem wordCounts_ofNat {seconds : Nat} (h : seconds < Number.twoPow 63) :
    wordCounts (Int64.ofNat seconds) =
      [((seconds / 3600 : Nat) : Int), ((seconds / 60 % 60 : Nat) : Int),
        ((seconds % 60 : Nat) : Int)] := by
  have hword : (Int64.ofNat seconds).toInt = seconds := Int64.toInt_ofNat_of_lt h
  rw [wordCounts, Int64.toInt_mod, Int64.toInt_mod, Int64.toInt_div_of_ne_right _ _ (by decide),
    Int64.toInt_div_of_ne_right _ _ (by decide), hword]
  rfl

theorem inSeconds_lt_of_le {d : Duration} (h : d ≤ milliseconds (Number.twoPow 63 - 1)) :
    d.inSeconds < Number.twoPow 63 := by
  have hlongest : milliseconds (Number.twoPow 63 - 1) < 1000000000 * Number.twoPow 63 := by decide
  exact Nat.div_lt_of_lt_mul (Nat.lt_of_le_of_lt h hlongest)

theorem uptimeText_of_le {d : Duration} (h : d ≤ milliseconds (Number.twoPow 63 - 1)) :
    uptimeText d = clockText d.inSeconds := by
  rw [uptimeText, longestUptime, if_pos h]

theorem readClock?_clockText (seconds : Nat) :
    readClock? (clockText seconds).toList = some seconds := by
  rw [readClock?_of_shows (shows_clockText seconds)]
  simp only [List.foldl_cons, List.foldl_nil, Option.some.injEq]
  omega

theorem readClock?_lengthText (seconds : Nat) :
    readClock? (lengthText seconds).toList = some seconds := by
  rw [readClock?_of_shows (shows_lengthText seconds)]
  simp only [List.foldl_cons, List.foldl_nil, Option.some.injEq]
  omega

/-- What is read back is written in one way for each number. -/
theorem injective_of_readClock? {write : Nat → String}
    (h : ∀ n, readClock? (write n).toList = some n) : Function.Injective write := by
  intro n m heq
  have hread := h n
  rw [heq, h m] at hread
  exact (Option.some.inj hread).symm

end Duration

namespace Request

theorem lengthOf_of_isUnsigned {text : String} {n : Nat} (h : Number.IsUnsigned 64 text n) :
    lengthOf text = Duration.lengthText n := by
  rw [lengthOf, Number.readUnsigned?_eq_some_iff.2 h, Option.getD_some]

theorem lengthOf_of_forall_not {text : String} (h : ∀ n, ¬ Number.IsUnsigned 64 text n) :
    lengthOf text = "0:00" := by
  rw [lengthOf, Number.readUnsigned?_eq_none_iff.2 h]
  rfl

end Request

/-- A span of at most as many milliseconds as fit in 63 bits is shown as `H:MM:SS`, where the hours,
minutes and seconds make up its whole seconds and are what words of 64 bits give for them; the text
is read back as these seconds, so that spans are shown alike just when they have the same number of
them. A longer span is shown as none. A text that is a number of 64 bits is shown as `M:SS` in the
same way, and one that is none as no length. -/
theorem times_read_back :
    (∀ d : Duration, d ≤ Duration.milliseconds (Number.twoPow 63 - 1) →
      ∃ hours minutes seconds : Nat,
        Duration.Shows d.uptimeText.toList [hours, minutes, seconds] ∧
          3600 * hours + 60 * minutes + seconds = d.inSeconds ∧
          Duration.wordCounts (Int64.ofNat d.inSeconds) =
            [(hours : Int), (minutes : Int), (seconds : Int)] ∧
          Duration.readClock? d.uptimeText.toList = some d.inSeconds) ∧
    (∀ d other : Duration, d ≤ Duration.milliseconds (Number.twoPow 63 - 1) →
      other ≤ Duration.milliseconds (Number.twoPow 63 - 1) →
        (d.uptimeText = other.uptimeText ↔ d.inSeconds = other.inSeconds)) ∧
    (∀ d : Duration, Duration.milliseconds (Number.twoPow 63 - 1) < d →
      d.uptimeText = "0:00:00") ∧
    (∀ (text : String) (n : Nat), Number.IsUnsigned 64 text n →
      ∃ minutes seconds : Nat,
        Duration.Shows (Request.lengthOf text).toList [minutes, seconds] ∧
          60 * minutes + seconds = n ∧
          Duration.readClock? (Request.lengthOf text).toList = some n) ∧
    (∀ (text other : String) (n m : Nat), Number.IsUnsigned 64 text n →
      Number.IsUnsigned 64 other m →
        (Request.lengthOf text = Request.lengthOf other ↔ n = m)) ∧
    ∀ text : String, (∀ n, ¬ Number.IsUnsigned 64 text n) → Request.lengthOf text = "0:00" := by
  refine ⟨fun d h => ?_, fun d other h hother => ?_, fun d h => ?_, fun text n h => ?_,
    fun text other n m h hother => ?_, fun text => Request.lengthOf_of_forall_not⟩
  · rw [Duration.uptimeText_of_le h]
    exact ⟨_, _, _, Duration.shows_clockText _, by omega,
      Duration.wordCounts_ofNat (Duration.inSeconds_lt_of_le h), Duration.readClock?_clockText _⟩
  · rw [Duration.uptimeText_of_le h, Duration.uptimeText_of_le hother,
      (Duration.injective_of_readClock? Duration.readClock?_clockText).eq_iff]
  · rw [Duration.uptimeText, Duration.longestUptime, if_neg (Nat.not_le.2 h)]
    rfl
  · rw [Request.lengthOf_of_isUnsigned h]
    exact ⟨_, _, Duration.shows_lengthText n, Nat.div_add_mod n 60,
      Duration.readClock?_lengthText n⟩
  · rw [Request.lengthOf_of_isUnsigned h, Request.lengthOf_of_isUnsigned hother,
      (Duration.injective_of_readClock? Duration.readClock?_lengthText).eq_iff]

/-- The longest span that is shown and the one a nanosecond longer, and lengths with a plus and
zeros in front, with a minus, and one above the range. -/
theorem times_read_back_longest :
    let longest : Duration := Duration.milliseconds (Number.twoPow 63 - 1)
    (∃ hours minutes seconds : Nat,
      Duration.Shows longest.uptimeText.toList [hours, minutes, seconds] ∧
        3600 * hours + 60 * minutes + seconds = 9223372036854775 ∧
        Duration.wordCounts (Int64.ofNat 9223372036854775) =
          [(hours : Int), (minutes : Int), (seconds : Int)] ∧
        Duration.readClock? longest.uptimeText.toList = some 9223372036854775) ∧
      (longest - Duration.milliseconds 807).uptimeText = longest.uptimeText ∧
      (longest - Duration.milliseconds 808).uptimeText ≠ longest.uptimeText ∧
      Duration.uptimeText (longest + 1) = "0:00:00" ∧
      Duration.readClock? (Request.lengthOf "+0125").toList = some 125 ∧
      Request.lengthOf "+0125" = Request.lengthOf "125" ∧
      Request.lengthOf "-0" = "0:00" ∧
      Request.lengthOf "18446744073709551616" = "0:00" := by
  intro longest
  obtain ⟨hshown, hsame, hlonger, hlength, hsameLength, hnone⟩ := times_read_back
  have hplus : Number.IsUnsigned 64 "+0125" 125 :=
    Number.readUnsigned?_eq_some_iff.1 (by decide)
  have hplain : Number.IsUnsigned 64 "125" 125 :=
    Number.readUnsigned?_eq_some_iff.1 (by decide)
  obtain ⟨-, -, -, -, hread⟩ := hlength "+0125" 125 hplus
  have hfirst := hshown longest (Nat.le_refl _)
  have hseconds : longest.inSeconds = 9223372036854775 := by decide
  rw [hseconds] at hfirst
  refine ⟨hfirst, ?_, ?_, ?_, hread, ?_, ?_, ?_⟩
  · exact (hsame _ longest (Nat.sub_le _ _) (Nat.le_refl _)).2 (by decide)
  · exact mt (hsame _ longest (Nat.sub_le _ _) (Nat.le_refl _)).1 (by decide)
  · exact hlonger (longest + 1) (Nat.lt_succ_self _)
  · exact (hsameLength "+0125" "125" 125 125 hplus hplain).2 rfl
  · exact hnone "-0" (Number.readUnsigned?_eq_none_iff.1 (by decide))
  · exact hnone "18446744073709551616" (Number.readUnsigned?_eq_none_iff.1 (by decide))

end CommandBot
