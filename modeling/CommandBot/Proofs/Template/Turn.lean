import CommandBot.Proofs.Template.Resolve
import CommandBot.Proofs.Template.Scan
import CommandBot.Proofs.Text.Words

/-!
# The turn of a token

What becomes of one token of a template, with the arguments and in the scene that it finds (`Turn`).
Each of the ways in which a turn may go is one rule, and none of them speaks of the resolver, whose
`expand` goes through the cases one after the other instead. The two agree (`turn_iff`).
-/

namespace CommandBot.Template

/-- The names that the bot knows itself. -/
def knownNames : List String := ["caller", "callerid", "channel", "uptime"]

/-- A template that is one placeholder and the white space around it. -/
def IsWhole (template : String) : Prop :=
  ∃ left word right : String, template = left ++ ("&" ++ word ++ "&") ++ right ∧
    MatchesNamePattern word ∧ Text.isBlankText left = true ∧ Text.isBlankText right = true

/-- How many of the available arguments a module is given: all of them if it has no limit or is the
whole template, and otherwise no more than its limit. -/
inductive IsShare (arity : Arity) (whole : Prop) (available : Nat) : Nat → Prop where
  | all (hall : arity.limit = none ∨ whole) : IsShare arity whole available available
  | limited {limit : Nat} (hlimit : arity.limit = some limit) (hwhole : ¬ whole) :
      IsShare arity whole available (min limit available)

/-- What becomes of a placeholder whose module has answered. -/
def Expansion.ofAnswer : Except Fault Reply → Expansion
  | .ok (.text text) => .value text.toList
  | .ok .veto => .veto
  | .error fault => .failed fault

section Turn

variable {ι : Type}

/-- What a name stands for that the bot knows itself, for this author and at this moment. -/
inductive IsKnown (author : Author) (scene : Scene ι) : (name value : String) → Prop where
  | caller : IsKnown author scene "caller" author.name
  | callerid : IsKnown author scene "callerid" author.id
  | channel : IsKnown author scene "channel" scene.channel.name
  | uptime : IsKnown author scene "uptime"
      (Duration.uptimeText (scene.now - scene.channel.startedAt))

/-- A scene after a call of the module that stands under a name. The module is still there, with
the body that the call has left, and under every other name stands what stood there before. -/
structure IsAfterCall (scene : Scene ι) (name : String) (m : Module ι) (elapsed : Duration)
    (effects : Effects ι) (later : Scene ι) : Prop where
  channel : later.channel = effects.channel
  modules : later.modules = scene.modules.setBody name m effects.body
  place : ∀ key, later.modules.slots.get? key =
    if key = Text.lower name then some (.loaded { m with body := effects.body })
    else scene.modules.slots.get? key
  now : later.now = scene.now + elapsed
  exchanges : later.exchanges = effects.exchanges

theorem isAfterCall_iff {scene later : Scene ι} {name : String} {m : Module ι} {elapsed : Duration}
    {effects : Effects ι} :
    IsAfterCall scene name m elapsed effects later ↔
      later = ⟨effects.channel, scene.modules.setBody name m effects.body, scene.now + elapsed,
        effects.exchanges⟩ := by
  constructor
  · intro h
    obtain ⟨channel, modules, now, exchanges⟩ := later
    rw [← h.channel, ← h.modules, ← h.now, ← h.exchanges]
  · rintro rfl
    exact ⟨rfl, rfl, Modules.get?_setBody scene.modules name m effects.body, rfl, rfl⟩

variable [Callable ι]

/-- How a call of a module comes out. In time it is the run itself that answers. Otherwise the run
is cut off in the pause that takes it beyond the patience, and the module counts as unavailable;
what it has done until then stays. -/
inductive Answers (network : Network) (request : Request) (name : String) (m : Module ι)
    (args : List String) (scene : Scene ι) : Except Fault Reply → Scene ι → Prop where
  | inTime {run : Run ι} {later : Scene ι}
      (hrun : Callable.call network m.body (invocation request args scene) = run)
      (hduration : run.duration ≤ request.patience)
      (hlater : IsAfterCall scene name m run.duration run.effects later) :
      Answers network request name m args scene run.result later
  | cutOff {run : Run ι} {pause : Pause ι} {later : Scene ι}
      (hrun : Callable.call network m.body (invocation request args scene) = run)
      (hcut : run.IsCutAt request.patience pause)
      (hlater : IsAfterCall scene name m request.patience pause.effects later) :
      Answers network request name m args scene
        (.error (.moduleUnavailable m.name (timedOut request.patience))) later

/-- The turn of one token. A name that the bot knows itself comes before a module of that name, and
a name that stands for nothing is only reported. A module that could not be loaded or has too few
arguments is not called. -/
inductive Turn (network : Network) (request : Request) (whole : Prop) (t : Token)
    (args : List String) (scene : Scene ι) : Expanded ι → Prop where
  | known {value : String} (hvalue : IsKnown request.author scene t.name value) :
      Turn network request whole t args scene ⟨.value value.toList, args, none, scene⟩
  | unknown (hname : t.name ∉ knownNames) (hplace : scene.modules.slots.get? t.name = none) :
      Turn network request whole t args scene
        ⟨.unknown (.unknownPlaceholder t.name), args, none, scene⟩
  | unavailable {reason : String} (hname : t.name ∉ knownNames)
      (hplace : scene.modules.slots.get? t.name = some (.unavailable reason)) :
      Turn network request whole t args scene
        ⟨.failed (.moduleUnavailable t.name reason), args, none, scene⟩
  | refused {m : Module ι} (hname : t.name ∉ knownNames)
      (hplace : scene.modules.slots.get? t.name = some (.loaded m))
      (hfew : args.length < m.arity.required) :
      Turn network request whole t args scene
        ⟨.failed (.insufficientArguments m.name m.arity.required args.length), args, none, scene⟩
  | called {m : Module ι} {n : Nat} {answer : Except Fault Reply} {later : Scene ι}
      (hname : t.name ∉ knownNames) (hplace : scene.modules.slots.get? t.name = some (.loaded m))
      (henough : m.arity.required ≤ args.length) (hshare : IsShare m.arity whole args.length n)
      (hanswer : Answers network request t.name m (args.take n) scene answer later) :
      Turn network request whole t args scene
        ⟨.ofAnswer answer, args.drop n, some ⟨m.name, args.take n⟩, later⟩

/-! ### The cases of the resolver -/

omit [Callable ι] in
theorem builtin?_eq_some_iff (name : String) (author : Author) (scene : Scene ι) (value : String) :
    builtin? name author scene = some value ↔ IsKnown author scene name value := by
  constructor
  · intro h
    unfold builtin? at h
    repeat' split at h
    all_goals cases h
    · rename_i hname
      exact hname ▸ .caller
    · rename_i hname
      exact hname ▸ .callerid
    · rename_i hname
      exact hname ▸ .channel
    · rename_i hname
      exact hname ▸ .uptime
  · intro h
    cases h <;> rfl

omit [Callable ι] in
theorem builtin?_eq_none_iff (name : String) (author : Author) (scene : Scene ι) :
    builtin? name author scene = none ↔ name ∉ knownNames := by
  simp only [builtin?, knownNames, List.mem_cons, List.not_mem_nil, or_false, not_or]
  repeat' split
  all_goals simp_all

omit [Callable ι] in
theorem isShare_iff {arity : Arity} {alone : Bool} {whole : Prop} (halone : alone = true ↔ whole)
    (available n : Nat) : IsShare arity whole available n ↔ takes arity alone available = n := by
  constructor
  · rintro (hall | ⟨hlimit, hwhole⟩)
    · unfold takes
      split
      · rename_i limit hlimit
        have hwhole := hall.resolve_left (by rw [hlimit]; exact Option.some_ne_none limit)
        rw [if_pos (halone.2 hwhole)]
      · rfl
    · rw [takes, hlimit]
      exact if_neg fun h => hwhole (halone.1 h)
  · rintro rfl
    unfold takes
    split
    · rename_i limit hlimit
      split
      · rename_i h
        exact .all (.inr (halone.1 h))
      · rename_i h
        exact .limited hlimit fun hwhole => h (halone.2 hwhole)
    · rename_i hlimit
      exact .all (.inl hlimit)

theorem answers_iff {network : Network} {request : Request} {name : String} {m : Module ι}
    {args : List String} {scene later : Scene ι} {answer : Except Fault Reply} :
    Answers network request name m args scene answer later ↔
      callModule network request name m args scene = (answer, later) := by
  constructor
  · rintro (⟨rfl, hduration, hlater⟩ | ⟨rfl, hcut, hlater⟩)
    · have hwithin := Run.within_of_duration_le hduration
      rw [invocation] at hwithin
      rw [callModule, hwithin, isAfterCall_iff.1 hlater]
      rfl
    · have hwithin := Run.within_of_isCutAt hcut
      rw [invocation] at hwithin
      rw [callModule, hwithin, isAfterCall_iff.1 hlater]
      rfl
  · intro h
    rw [callModule, ← invocation] at h
    rcases Nat.lt_or_ge request.patience
      (Callable.call network m.body (invocation request args scene)).duration with hlate | htime
    · obtain ⟨pause, hcut⟩ := Run.exists_isCutAt hlate
      rw [Run.within_of_isCutAt hcut] at h
      cases h
      exact .cutOff rfl hcut (isAfterCall_iff.2 rfl)
    · rw [Run.within_of_duration_le htime] at h
      cases h
      exact .inTime rfl htime (isAfterCall_iff.2 rfl)

theorem expandModule_of_callModule {network : Network} {request : Request} {alone : Bool}
    {name : String} {m : Module ι} {args : List String} {scene later : Scene ι} {n : Nat}
    {answer : Except Fault Reply} (henough : m.arity.required ≤ args.length)
    (hshare : takes m.arity alone args.length = n)
    (hcall : callModule network request name m (args.take n) scene = (answer, later)) :
    expandModule network request alone name m args scene =
      ⟨.ofAnswer answer, args.drop n, some ⟨m.name, args.take n⟩, later⟩ := by
  subst hshare
  simp only [expandModule, if_neg (Nat.not_lt.2 henough), hcall]
  rfl

/-- A turn is what the resolver makes of the placeholder. -/
theorem turn_iff {network : Network} {request : Request} {alone : Bool} {whole : Prop}
    (halone : alone = true ↔ whole) {t : Token} {word : List Char} (hword : t.name = tokenName word)
    {args : List String} {scene : Scene ι} {e : Expanded ι} :
    Turn network request whole t args scene e ↔
      expand network request alone word args scene = e := by
  have hlower : Text.lower t.name = t.name := by rw [hword, lower_tokenName]
  have hknown : ∀ {value}, IsKnown request.author scene t.name value →
      builtin? t.name request.author scene = some value :=
    fun hvalue => (builtin?_eq_some_iff ..).2 hvalue
  have hunknown : t.name ∉ knownNames → builtin? t.name request.author scene = none :=
    fun hname => (builtin?_eq_none_iff ..).2 hname
  simp only [expand, ← hword, Modules.lookup, hlower]
  constructor
  · intro h
    cases h with
    | known hvalue => rw [hknown hvalue]
    | unknown hname hplace => rw [hunknown hname, hplace]
    | unavailable hname hplace => rw [hunknown hname, hplace]
    | refused hname hplace hfew =>
        rw [hunknown hname, hplace]
        exact if_pos hfew
    | called hname hplace henough hshare hanswer =>
        rw [hunknown hname, hplace]
        exact expandModule_of_callModule henough ((isShare_iff halone ..).1 hshare)
          (answers_iff.1 hanswer)
  · rintro rfl
    split
    · rename_i value hvalue
      exact .known ((builtin?_eq_some_iff ..).1 hvalue)
    · rename_i hnone
      have hname := (builtin?_eq_none_iff ..).1 hnone
      cases hplace : scene.modules.slots.get? t.name with
      | none => exact .unknown hname hplace
      | some slot =>
          cases slot with
          | unavailable reason => exact .unavailable hname hplace
          | loaded m =>
              by_cases hfew : args.length < m.arity.required
              · simp only [expandModule, if_pos hfew]
                exact .refused hname hplace hfew
              · have henough := Nat.not_lt.1 hfew
                simp only [expandModule_of_callModule henough rfl rfl]
                exact .called hname hplace henough ((isShare_iff halone ..).2 rfl)
                  (answers_iff.2 rfl)

end Turn

/-! ### A template that is one placeholder -/

theorem isAlone_iff_isWhole (template : String) :
    isAlone template.toList = true ↔ IsWhole template := by
  have hscan : isAlone template.toList = true ↔
      ∃ word, Piece.scan (Text.trim template.toList) = [.token word] := by
    unfold isAlone
    split
    · rename_i word hword
      exact ⟨fun _ => ⟨word, hword⟩, fun _ => rfl⟩
    · rename_i hother
      exact ⟨fun h => (nomatch h), fun ⟨word, hword⟩ => absurd hword (hother word)⟩
  rw [hscan]
  constructor
  · rintro ⟨word, hword⟩
    obtain ⟨hmatches, htrim⟩ := (scan_eq_singleton_iff _ _).1 hword
    obtain ⟨left, right, hleft, hright, htext⟩ := Text.exists_append_trim template.toList
    refine ⟨String.ofList left, String.ofList word, String.ofList right, ?_, ?_, ?_, ?_⟩
    · rw [← String.toList_inj, String.toList_append, String.toList_append, toList_ampersands,
        String.toList_ofList, String.toList_ofList, String.toList_ofList, ← htrim]
      exact htext
    · rwa [← isWord_toList_iff, String.toList_ofList]
    · rw [Text.isBlankText, String.toList_ofList]
      exact List.all_eq_true.2 hleft
    · rw [Text.isBlankText, String.toList_ofList]
      exact List.all_eq_true.2 hright
  · rintro ⟨left, word, right, htext, hmatches, hleft, hright⟩
    refine ⟨word.toList, (scan_eq_singleton_iff _ _).2 ⟨(isWord_toList_iff word).2 hmatches, ?_⟩⟩
    have hampersand : Text.isBlank '&' = false := by decide +kernel
    rw [htext, String.toList_append, String.toList_append, toList_ampersands]
    refine Text.trim_append (List.all_eq_true.1 hleft) (List.all_eq_true.1 hright)
      (List.cons_ne_nil _ _) hampersand ?_
    rw [List.reverse_append]
    exact hampersand

end CommandBot.Template
