import CommandBot.Module.Canned
import CommandBot.Proofs.Dispatch
import CommandBot.Proofs.Module.Named
import CommandBot.Proofs.Template.Reached

/-!
# Too few arguments

A line runs short when the resolution of its response reaches a token whose module requires more
arguments than are left (`RunsShort`). The reply is then the usage of that module. It is looked up
once more for the reply, under the name that it carries, and found, because modules stand under
their own names (`usage_of_runsShort`). So the reply without a usage is only ever given to a module
that complains of too few arguments itself, in the name of a module that is not there
(`AnswersFault`).
-/

namespace CommandBot

namespace Dispatch

variable {ι : Type}

/-- The line names a command with these arguments, its author may use it, and it is not used too
early. -/
structure IsAdmitted (request : Template.Request) (line : String) (scene : Scene ι)
    (command : Command) (args : List String) : Prop where
  named : named? scene.channel line = some (command, args)
  permitted : command.modOnly = true → request.author.isModerator = true
  late : ∀ last, scene.channel.cooldowns.lastUse.get? command.name = some last →
    Duration.seconds command.cooldown ≤ scene.now - last

variable [Callable ι]

/-- The line is admitted, and the resolution of its response reaches a token, with these arguments
left and in this scene. -/
structure ReachesToken (network : Network) (request : Template.Request) (line : String)
    (scene : Scene ι) (command : Command) (args : List String) (t : Template.Token)
    (left : List String) (found : Scene ι) : Prop where
  admitted : IsAdmitted request line scene command args
  reaches : Template.Reaches network request (Template.IsWhole command.response)
    (Template.tokens command.response) args (charged command scene) t left found

/-- The line reaches a token whose module requires more arguments than are left. -/
structure RunsShort (network : Network) (request : Template.Request) (line : String)
    (scene : Scene ι) (command : Command) (args : List String) (m : Module ι)
    (left : List String) (found : Scene ι) : Prop where
  reached : ∃ t, ReachesToken network request line scene command args t left found ∧
    t.name ∉ Template.knownNames ∧ found.modules.slots.get? t.name = some (.loaded m)
  short : left.length < m.arity.required

/-- The line reaches a token whose module has enough arguments, and fails with this itself. -/
structure AnswersFault (network : Network) (request : Template.Request) (line : String)
    (scene : Scene ι) (m : Module ι) (fault : Fault) : Prop where
  answers : ∃ command args t left found n,
    ReachesToken network request line scene command args t left found ∧
      found.modules.slots.get? t.name = some (.loaded m) ∧ m.arity.required ≤ left.length ∧
      (Callable.call network m.body
        (Template.invocation request (left.take n) found)).result = .error fault

variable {network : Network} {request : Template.Request} {line : String} {scene found : Scene ι}
  {command : Command} {args left : List String} {m : Module ι} {fault : Fault}

theorem dispatch_of_isAdmitted (network : Network)
    (h : IsAdmitted request line scene command args) :
    dispatch network request line scene =
      respond network request command args (charged command scene) := by
  rw [dispatch_of_permitted h.named h.permitted]
  rcases tryUse_cases network request command args scene with ⟨last, hlast, hearly, -⟩ | ⟨-, huse⟩
  · exact absurd (h.late last hlast) (Nat.not_le.2 hearly)
  · exact huse

/-- A line that fails was admitted, and fails with what its resolution fails with. -/
theorem exists_isAdmitted_of_errored {reply : Option String}
    (h : (dispatch network request line scene).1 = .errored fault reply) :
    ∃ command args, IsAdmitted request line scene command args ∧
      (Template.resolve network request command.response args (charged command scene)).result =
        .error fault ∧
      reply = faultReply (dispatch network request line scene).2.modules fault := by
  cases hnamed : named? scene.channel line with
  | none =>
      obtain ⟨why, hdispatch, -⟩ := dispatch_of_named?_none network request hnamed
      rw [hdispatch] at h
      cases h
  | some pair =>
      obtain ⟨command, args⟩ := pair
      by_cases hpermitted : command.modOnly = true → request.author.isModerator = true
      · rw [dispatch_of_permitted hnamed hpermitted] at h ⊢
        rcases tryUse_cases network request command args scene with
          ⟨last, -, -, huse⟩ | ⟨hlate, huse⟩
        · rw [huse] at h
          cases h
        · refine ⟨command, args, ⟨hnamed, hpermitted, hlate⟩, ?_⟩
          rw [huse] at h ⊢
          simp only [respond] at h ⊢
          generalize Template.resolve network request command.response args
            (charged command scene) = resolved at h ⊢
          cases hresult : resolved.result with
          | ok resolution =>
              rw [hresult] at h
              obtain ⟨rendered, unresolved⟩ := resolution
              cases rendered with
              | text chars =>
                  simp only [outcomeOf] at h
                  split at h
                  · cases h
                  · cases h
              | suppressed => cases h
          | error other =>
              rw [hresult] at h
              obtain ⟨rfl, rfl⟩ := Outcome.errored.inj h
              exact ⟨rfl, rfl⟩
      · obtain ⟨hmod, hauthor⟩ := Classical.not_imp.1 hpermitted
        rw [dispatch_of_denied hnamed hmod (Bool.eq_false_iff.2 hauthor)] at h
        cases h

/-! ### A module with too few arguments -/

theorem expansion_of_runsShort
    (h : RunsShort network request line scene command args m left found) :
    ∃ t, ReachesToken network request line scene command args t left found ∧
      found.modules.slots.get? t.name = some (.loaded m) ∧
      Template.Turn network request (Template.IsWhole command.response) t left found
        ⟨.failed (.insufficientArguments m.name m.arity.required left.length), left, none,
          found⟩ := by
  obtain ⟨t, hreached, hname, hplace⟩ := h.reached
  exact ⟨t, hreached, hplace, .refused hname hplace h.short⟩

theorem left_of_runsShort (h : RunsShort network request line scene command args m left found) :
    (Template.resolve network request command.response args (charged command scene)).left =
      left := by
  obtain ⟨t, hreached, -, hturn⟩ := expansion_of_runsShort h
  exact (Template.left_resolve_of_reaches hreached.reaches hturn rfl).1

theorem lookup_of_runsShort (h : RunsShort network request line scene command args m left found)
    (hnamed : found.modules.IsNamed) : found.modules.lookup m.name = .ok m := by
  obtain ⟨t, -, hplace, -⟩ := expansion_of_runsShort h
  exact hnamed.lookup_name hplace

theorem scene_of_runsShort (h : RunsShort network request line scene command args m left found) :
    (dispatch network request line scene).2 = found := by
  obtain ⟨t, hreached, -, hturn⟩ := expansion_of_runsShort h
  rw [dispatch_of_isAdmitted network hreached.admitted]
  exact (Template.left_resolve_of_reaches hreached.reaches hturn rfl).2

theorem usage_eq (help : String) : Wording.usage help = "Not enough arguments. " ++ help := rfl

theorem dispatch_of_runsShort (h : RunsShort network request line scene command args m left found)
    (hnamed : found.modules.IsNamed) :
    dispatch network request line scene =
      (.errored (.insufficientArguments m.name m.arity.required left.length)
        (some (Wording.usage m.help)), found) := by
  have hscene := scene_of_runsShort h
  obtain ⟨t, hreached, -, hturn⟩ := expansion_of_runsShort h
  have hresult := (Template.result_eq_error_iff network request command.response args
    (charged command scene) _).2 ⟨t, left, found, _, hreached.reaches, hturn, rfl⟩
  rw [dispatch_of_isAdmitted network hreached.admitted] at hscene ⊢
  refine Prod.ext ?_ hscene
  simp only [respond] at hscene ⊢
  rw [hresult, hscene, outcomeOf, faultReply, lookup_of_runsShort h hnamed]

/-! ### The reply without a usage -/

omit [Callable ι] in
theorem usage_ne_missingArguments (help : String) :
    Wording.usage help ≠ Wording.missingArguments := by
  intro h
  have hlength := congrArg String.length h
  rw [usage_eq, String.length_append] at hlength
  have htext : Wording.missingArguments.length < "Not enough arguments. ".length := by decide
  omega

omit [Callable ι] in
/-- The reply without a usage is given only where the module of the fault is not there. -/
theorem lookup_of_faultReply {modules : Modules ι}
    (h : faultReply modules fault = some Wording.missingArguments) :
    ∃ name required available e, fault = .insufficientArguments name required available ∧
      modules.lookup name = .error e := by
  unfold faultReply at h
  split at h
  · rename_i name required available
    split at h
    · exact absurd (Option.some.inj h) (usage_ne_missingArguments _)
    · rename_i e hlookup
      exact ⟨name, required, available, e, rfl, hlookup⟩
  · exact absurd (Option.some.inj h) (by decide)
  · exact absurd (Option.some.inj h) (by decide)
  · exact absurd (Option.some.inj h) (by decide)
  · cases h

/-- A line that ends with too few arguments has run short, or a module has said so itself. -/
theorem exists_of_insufficientArguments {name : String} {required available : Nat}
    {reply : Option String}
    (h : (dispatch network request line scene).1 =
      .errored (.insufficientArguments name required available) reply) :
    (∃ command args m left found,
      RunsShort network request line scene command args m left found) ∨
    ∃ m, AnswersFault network request line scene m
      (.insufficientArguments name required available) := by
  obtain ⟨command, args, hadmitted, hresult, -⟩ := exists_isAdmitted_of_errored h
  obtain ⟨t, left, found, e, hreaches, hturn, hfault⟩ :=
    (Template.result_eq_error_iff ..).1 hresult
  have hreached : ReachesToken network request line scene command args t left found :=
    ⟨hadmitted, hreaches⟩
  cases hturn with
  | known hvalue => cases hfault
  | unknown hname hplace => cases hfault
  | unavailable hname hplace => cases hfault
  | refused hname hplace hfew =>
      exact .inl ⟨command, args, _, left, found, ⟨t, hreached, hname, hplace⟩, hfew⟩
  | @called m n _ _ _ hplace henough _ hanswer =>
      cases hanswer with
      | @inTime run _ hrun _ _ =>
          refine .inr ⟨m, command, args, t, left, found, n, hreached, hplace, henough, ?_⟩
          rw [hrun]
          cases hresult : run.result with
          | ok reply =>
              rw [hresult] at hfault
              cases reply with
              | text text => cases hfault
              | veto => cases hfault
          | error other =>
              rw [hresult] at hfault
              rw [Template.Expansion.failed.inj hfault]
      | cutOff hrun hcut hlater => cases hfault

end Dispatch

namespace Session

variable {ι : Type} [Callable ι]

theorem isNamed_of_runsShort {s : Session ι} (hnamed : s.scene.modules.IsNamed)
    {network : Network} {request : Template.Request} {line : String} {command : Command}
    {args left : List String} {m : Module ι} {found : Scene ι}
    (h : Dispatch.RunsShort network request line s.scene command args m left found) :
    found.modules.IsNamed := by
  rw [← Dispatch.scene_of_runsShort h]
  exact Dispatch.isNamed_dispatch network request line hnamed

/-- However the modules of a session were placed, and whatever happened in it: a line whose
resolution reaches a token of a module that requires more arguments than are left is answered with
the usage of this module, its fault names the number that is required and the number that is left,
and neither the scene nor the arguments change any more. The reply without a usage is never given
for a fault of the resolution, but only to a module that was called and has failed so itself. -/
theorem usage_of_runsShort {s : Session ι} {placings : List (Modules.Placing ι)}
    (hmodules : s.scene.modules = Modules.build placings) (network : Network) (patience : Duration)
    (turns : List Turn) (author : Author) (line : String) :
    let current := s.play network patience turns
    (∀ command args m left found,
      Dispatch.RunsShort network ⟨author, patience⟩ line current.scene command args m left found →
      current.handle network patience author line =
          (.errored (.insufficientArguments m.name m.arity.required left.length)
            (some ("Not enough arguments. " ++ m.help)), { current with scene := found }) ∧
        found.modules.lookup m.name = .ok m ∧
        (Template.resolve network ⟨author, patience⟩ command.response args
          (Dispatch.charged command current.scene)).left = left) ∧
    (∀ fault, (current.handle network patience author line).1 =
        .errored fault (some Wording.missingArguments) →
      ∃ m, Dispatch.AnswersFault network ⟨author, patience⟩ line current.scene m fault) := by
  intro current
  have hnamed : current.scene.modules.IsNamed :=
    isNamed_play network patience (hmodules ▸ Modules.isNamed_build placings) turns
  constructor
  · intro command args m left found hshort
    have hfound := isNamed_of_runsShort hnamed hshort
    refine ⟨?_, Dispatch.lookup_of_runsShort hshort hfound, Dispatch.left_of_runsShort hshort⟩
    rw [handle, Dispatch.dispatch_of_runsShort hshort hfound]
    rfl
  · intro fault herrored
    rw [outcome_handle] at herrored
    obtain ⟨-, -, -, -, hreply⟩ := Dispatch.exists_isAdmitted_of_errored herrored
    obtain ⟨name, required, available, -, rfl, -⟩ := Dispatch.lookup_of_faultReply hreply.symm
    rcases Dispatch.exists_of_insufficientArguments herrored with
      ⟨command, args, m, left, found, hshort⟩ | hanswers
    · rw [Dispatch.dispatch_of_runsShort hshort (isNamed_of_runsShort hnamed hshort)] at herrored
      exact absurd (Option.some.inj (Outcome.errored.inj herrored).2)
        (Dispatch.usage_ne_missingArguments _)
    · exact hanswers

/-- `pair` takes two arguments, and was placed twice, with a mark of one that could not be loaded in
between. The first of two tokens is given both its arguments, and the second finds one. -/
theorem usage_of_runsShort_pair :
    let pair (name : String) (calls : Nat) : Module Canned :=
      ⟨name, "Usage: pair <a> <b>", ⟨2, some 2⟩, .count calls⟩
    let placings : List (Modules.Placing Canned) :=
      [.loaded (pair "PAIR" 7), .unavailable "pair" "gone", .loaded (pair "PaIr" 0)]
    let commands : Commands := ⟨.ofList [("p", ⟨"p", 0, false, false, "&pair& &Pair&"⟩)]⟩
    let s : Session Canned :=
      ⟨⟨Channel.start "room" "!" commands 0, Modules.build placings, 0, []⟩, []⟩
    ∃ found, s.handle .down 0 ⟨"1", "ann", false, false, false⟩ "!p a b c" =
        (.errored (.insufficientArguments "PaIr" 2 1)
          (some "Not enough arguments. Usage: pair <a> <b>"), { s with scene := found }) ∧
      found.modules.lookup "PaIr" = .ok (pair "PaIr" 1) := by
  intro pair placings commands s
  let request : Template.Request := ⟨⟨"1", "ann", false, false, false⟩, 0⟩
  let command : Command := ⟨"p", 0, false, false, "&pair& &Pair&"⟩
  let scene := Dispatch.charged command s.scene
  let first := Template.expand .down request (Template.isAlone command.response.toList)
    "pair".toList ["a", "b", "c"] scene
  have htokens : Template.tokens command.response =
      [⟨"pair", "&pair&", 0, 6⟩, ⟨"pair", "&Pair&", 7, 13⟩] := by decide +kernel
  have hadmitted : Dispatch.IsAdmitted request "!p a b c" s.scene command ["a", "b", "c"] :=
    ⟨by decide +kernel, by decide, by decide +kernel⟩
  have hturn : Template.Turn .down request (Template.IsWhole command.response)
      ⟨"pair", "&pair&", 0, 6⟩ ["a", "b", "c"] scene first :=
    (Template.turn_iff (Template.isAlone_iff_isWhole _) (by decide +kernel)).2 rfl
  have hvalue : first.expansion.replacement? "&pair&" = some "1" := by decide +kernel
  have hleft : first.left = ["c"] := by decide +kernel
  have hreaches : Template.Reaches .down request (Template.IsWhole command.response)
      (Template.tokens command.response) ["a", "b", "c"] scene ⟨"pair", "&Pair&", 7, 13⟩
      first.left first.scene := by
    rw [htokens]
    exact .later hturn hvalue .here
  rw [hleft] at hreaches
  have hplace : first.scene.modules.slots.get? "pair" = some (.loaded (pair "PaIr" 1)) := by
    decide +kernel
  have hshort : Dispatch.RunsShort .down request "!p a b c" s.scene command ["a", "b", "c"]
      (pair "PaIr" 1) ["c"] first.scene :=
    ⟨⟨_, ⟨hadmitted, hreaches⟩, by decide, hplace⟩, by decide⟩
  obtain ⟨hhandle, hlookup, -⟩ := (usage_of_runsShort (s := s) rfl .down 0 [] request.author
    "!p a b c").1 _ _ _ _ _ hshort
  exact ⟨first.scene, hhandle, hlookup⟩

end Session

end CommandBot
