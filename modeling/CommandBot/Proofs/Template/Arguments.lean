import CommandBot.Proofs.Template.Turns

/-!
# Where the arguments of a line go

The arguments that the modules of a template are handed, in the order of their calls, and those that
are left over, are together the arguments of the line (`resolve_conserves_args`). A token takes its
arguments from the front of what the tokens before it have left (`Handed`). What a module may take
is settled before the first call, as no call changes the arity of a module (`outline_of_turn`).
-/

namespace CommandBot.Template

variable {ι : Type}

/-- What a token of this name is handed of the available arguments. The bot gives nothing to a name
that it knows itself, that has no module, or whose module could not be loaded or needs more than
there is; any other module is called with its share, from the front. -/
inductive Handed (modules : Modules Unit) (whole : Prop) (name : String) (available : List String) :
    Option Call → Prop where
  | known (hname : name ∈ knownNames) : Handed modules whole name available none
  | unknown (hname : name ∉ knownNames) (hplace : modules.slots.get? name = none) :
      Handed modules whole name available none
  | unavailable {reason : String} (hname : name ∉ knownNames)
      (hplace : modules.slots.get? name = some (.unavailable reason)) :
      Handed modules whole name available none
  | refused {m : Module Unit} (hname : name ∉ knownNames)
      (hplace : modules.slots.get? name = some (.loaded m))
      (hfew : available.length < m.arity.required) : Handed modules whole name available none
  | called {m : Module Unit} {n : Nat} (hname : name ∉ knownNames)
      (hplace : modules.slots.get? name = some (.loaded m))
      (henough : m.arity.required ≤ available.length)
      (hshare : IsShare m.arity whole available.length n) (hn : n ≤ available.length) :
      Handed modules whole name available (some ⟨m.name, available.take n⟩)

/-- The arguments that have been taken in some turns, in order. -/
def taken (turns : List (Expanded ι)) : List String :=
  (turns.filterMap (·.call)).flatMap (·.args)

theorem taken_cons (e : Expanded ι) (turns : List (Expanded ι)) :
    taken (e :: turns) = taken [e] ++ taken turns := by
  rw [taken, taken, taken, filterMap_cons_eq_append, filterMap_cons_eq_append, List.filterMap_nil,
    List.append_nil, List.flatMap_append]

theorem IsShare.le {arity : Arity} {whole : Prop} {available n : Nat}
    (h : IsShare arity whole available n) : n ≤ available := by
  cases h with
  | all _ => exact Nat.le_refl _
  | limited _ _ => exact Nat.min_le_right ..

theorem IsKnown.mem_knownNames {author : Author} {scene : Scene ι} {name value : String}
    (h : IsKnown author scene name value) : name ∈ knownNames := by
  cases h <;> decide

theorem get?_outline (modules : Modules ι) (name : String) :
    modules.outline.slots.get? name =
      (modules.slots.get? name).map (Slot.map fun _ => ()) :=
  KeyMap.get?_map ..

/-- A new body does not show from outside. -/
theorem outline_setBody {modules : Modules ι} {name : String} {m : Module ι}
    (hlower : Text.lower name = name) (h : modules.slots.get? name = some (.loaded m)) (body : ι) :
    (modules.setBody name m body).outline = modules.outline := by
  have hplace : (modules.slots.map (Slot.map fun _ => ())).get? name =
      some ((Slot.loaded { m with body := body }).map fun _ => ()) := by
    rw [KeyMap.get?_map, h]
    rfl
  rw [Modules.setBody, hlower, Modules.outline, Modules.map, KeyMap.map_insert,
    KeyMap.insert_of_get? hplace]
  rfl

section Turns

variable [Callable ι] {network : Network} {request : Request} {whole : Prop}

theorem Answers.exists_setBody {name : String} {m : Module ι} {args : List String}
    {scene later : Scene ι} {answer : Except Fault Reply}
    (h : Answers network request name m args scene answer later) :
    ∃ body, later.modules = scene.modules.setBody name m body := by
  cases h with
  | inTime hrun hduration hlater => exact ⟨_, hlater.modules⟩
  | cutOff hrun hcut hlater => exact ⟨_, hlater.modules⟩

/-- No turn changes which modules there are and how many arguments they take. -/
theorem outline_of_turn {t : Token} (hlower : Text.lower t.name = t.name) {args : List String}
    {scene : Scene ι} {e : Expanded ι} (h : Turn network request whole t args scene e) :
    e.scene.modules.outline = scene.modules.outline := by
  cases h with
  | known hvalue => rfl
  | unknown hname hplace => rfl
  | unavailable hname hplace => rfl
  | refused hname hplace hfew => rfl
  | called hname hplace henough hshare hanswer =>
      obtain ⟨body, hbody⟩ := hanswer.exists_setBody
      rw [hbody, outline_setBody hlower hplace]

/-- In a turn the token is handed what it takes from the front of the arguments. -/
theorem handed_of_turn {t : Token} {args : List String} {scene : Scene ι} {e : Expanded ι}
    (h : Turn network request whole t args scene e) :
    Handed scene.modules.outline whole t.name args e.call ∧ taken [e] ++ e.left = args := by
  have hplace : ∀ slot, scene.modules.slots.get? t.name = slot →
      scene.modules.outline.slots.get? t.name = slot.map (Slot.map fun _ => ()) :=
    fun slot hslot => by rw [get?_outline, hslot]
  cases h with
  | known hvalue => exact ⟨.known hvalue.mem_knownNames, rfl⟩
  | unknown hname hnone => exact ⟨.unknown hname (hplace _ hnone), rfl⟩
  | unavailable hname hslot => exact ⟨.unavailable hname (hplace _ hslot), rfl⟩
  | refused hname hslot hfew => exact ⟨.refused hname (hplace _ hslot) hfew, rfl⟩
  | @called m n _ _ hname hslot henough hshare hanswer =>
      refine ⟨.called hname (hplace _ hslot) henough hshare hshare.le, ?_⟩
      change (args.take n ++ []) ++ args.drop n = args
      rw [List.append_nil, List.take_append_drop]

theorem Turns.taken_append_left {ts : List Token} {args left : List String}
    {scene later : Scene ι} {turns : List (Expanded ι)}
    (h : Turns network request whole ts args scene turns left later) :
    taken turns ++ left = args := by
  induction h with
  | done => rfl
  | ends hturn hends => exact (handed_of_turn hturn).2
  | next hturn hvalue hrest ih =>
      rw [taken_cons, List.append_assoc, ih]
      exact (handed_of_turn hturn).2

/-- Every turn finds what the turns before have left, and its token is handed its part of that. -/
theorem Turns.exists_handed {ts : List Token} (hlower : ∀ t ∈ ts, Text.lower t.name = t.name)
    {args left : List String} {scene later : Scene ι} {turns before after : List (Expanded ι)}
    {e : Expanded ι} (h : Turns network request whole ts args scene turns left later)
    (hturns : turns = before ++ e :: after) :
    ∃ t available, ts[before.length]? = some t ∧ taken before ++ available = args ∧
      Handed scene.modules.outline whole t.name available e.call ∧
      taken [e] ++ e.left = available ∧
      (e.expansion.replacement? t.literal = none → after = []) := by
  induction h generalizing before with
  | done => cases before <;> cases hturns
  | @ends t ts args scene first hturn hends =>
      cases before with
      | nil =>
          cases hturns
          obtain ⟨hhanded, hleft⟩ := handed_of_turn hturn
          exact ⟨t, args, rfl, rfl, hhanded, hleft, fun _ => rfl⟩
      | cons other before => cases before <;> cases hturns
  | @next t ts args left scene later first turns value hturn hvalue hrest ih =>
      cases before with
      | nil =>
          cases hturns
          obtain ⟨hhanded, hleft⟩ := handed_of_turn hturn
          refine ⟨t, args, rfl, rfl, hhanded, hleft, fun h => ?_⟩
          rw [hvalue] at h
          cases h
      | cons other before =>
          obtain ⟨rfl, htail⟩ := List.cons.inj hturns
          obtain ⟨s, available, hs, hbefore, hhanded, hleft, hends⟩ :=
            ih (fun s hs => hlower s (List.mem_cons_of_mem _ hs)) htail
          refine ⟨s, available, hs, ?_, ?_, hleft, hends⟩
          · rw [taken_cons, List.append_assoc, hbefore]
            exact (handed_of_turn hturn).2
          · rwa [outline_of_turn (hlower t List.mem_cons_self) hturn] at hhanded

end Turns

/-- Whatever way a template ends, the arguments that its modules have been handed and those that are
left are the arguments of the line, in order. Every token has found what the ones before it have
left, was handed no more and no less than it is due, and nothing was handed out after the response
ended. -/
theorem resolve_conserves_args [Callable ι] (network : Network) (request : Request)
    (template : String) (args : List String) (scene : Scene ι) :
    let r := resolve network request template args scene
    r.calls.flatMap (·.args) ++ r.left = args ∧
      ∃ turns,
        Turns network request (IsWhole template) (tokens template) args scene turns r.left r.scene ∧
          r.calls = turns.filterMap (·.call) ∧
          ∀ before e after, turns = before ++ e :: after →
            ∃ t available, (tokens template)[before.length]? = some t ∧
              taken before ++ available = args ∧
              Handed scene.modules.outline (IsWhole template) t.name available e.call ∧
              taken [e] ++ e.left = available ∧
              (e.expansion.replacement? t.literal = none → after = []) := by
  obtain ⟨turns, hturns, hcalls, -⟩ := exists_turns_of_resolve network request template args scene
  have hlower : ∀ t ∈ tokens template, Text.lower t.name = t.name := by
    intro t ht
    obtain ⟨word, hword⟩ := exists_tokenName_of_mem_tokens ht
    rw [hword, lower_tokenName]
  refine ⟨?_, turns, hturns, hcalls, fun before e after => hturns.exists_handed hlower⟩
  rw [hcalls]
  exact hturns.taken_append_left

end CommandBot.Template
