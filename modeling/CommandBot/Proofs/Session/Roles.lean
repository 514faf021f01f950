import CommandBot.Proofs.Module.Core

/-!
# What roles count for

Where there are only core modules, the roles of an author are looked at in one place: whether a
moderator sends a line whose command is for moderators. Past that gate a line comes to the same for
all authors of one id and name (`dispatch_of_author`).
-/

namespace CommandBot

variable {network : Network} {patience : Duration} {author other : Author}

namespace Template

theorem builtin?_of_author (hid : other.id = author.id) (hname : other.name = author.name)
    {ι : Type} (name : String) (scene : Scene ι) :
    builtin? name other scene = builtin? name author scene := by
  unfold builtin?
  rw [hid, hname]

variable {scene : Scene Builtin}

theorem callModule_of_author (hcore : scene.modules.Every Builtin.IsCore)
    (hname : other.name = author.name) {name : String} {m : Module Builtin}
    (hlookup : scene.modules.lookup name = .ok m) (args : List String) :
    callModule network ⟨other, patience⟩ name m args scene =
      callModule network ⟨author, patience⟩ name m args scene := by
  have hcall : Callable.call network m.body (invocation ⟨other, patience⟩ args scene) =
      Callable.call network m.body (invocation ⟨author, patience⟩ args scene) :=
    (hcore.of_lookup hlookup).call_of_author network (invocation ⟨author, patience⟩ args scene)
      hname
  rw [invocation, invocation] at hcall
  rw [callModule, callModule, hcall]

theorem modules_expand (hcore : scene.modules.Every Builtin.IsCore) (request : Request)
    (alone : Bool) (word : List Char) (args : List String) :
    (expand network request alone word args scene).scene.modules = scene.modules := by
  rcases scene_expand network request alone word args scene with
    hsame | ⟨m, taken, hlookup, -, hscene⟩
  · rw [hsame]
  · rw [hscene, modules_callModule hcore hlookup]

theorem expand_of_author (hcore : scene.modules.Every Builtin.IsCore) (hid : other.id = author.id)
    (hname : other.name = author.name) (alone : Bool) (word : List Char) (args : List String) :
    expand network ⟨other, patience⟩ alone word args scene =
      expand network ⟨author, patience⟩ alone word args scene := by
  unfold expand
  simp only [builtin?_of_author hid hname]
  cases builtin? (tokenName word) author scene with
  | some value => rfl
  | none =>
      cases hlookup : scene.modules.lookup (tokenName word) with
      | error fault =>
          cases fault with
          | _ => rfl
      | ok m =>
          simp only [expandModule, callModule_of_author hcore hname hlookup]

theorem resolvePieces_of_author (hcore : scene.modules.Every Builtin.IsCore)
    (hid : other.id = author.id) (hname : other.name = author.name) (alone : Bool)
    (pieces : List Piece) (args : List String) :
    resolvePieces network ⟨other, patience⟩ alone pieces args scene =
      resolvePieces network ⟨author, patience⟩ alone pieces args scene := by
  induction pieces generalizing args scene with
  | nil => rfl
  | cons piece rest ih =>
      cases piece with
      | char c => rw [resolvePieces, resolvePieces, ih hcore]
      | token word =>
          have hafter : (expand network ⟨author, patience⟩ alone word args
              scene).scene.modules.Every Builtin.IsCore := by
            rw [modules_expand hcore]
            exact hcore
          rw [resolvePieces, resolvePieces, expand_of_author hcore hid hname]
          simp only [ih hafter]

end Template

namespace Dispatch

variable {scene : Scene Builtin}

theorem tryUse_of_author (hcore : scene.modules.Every Builtin.IsCore) (hid : other.id = author.id)
    (hname : other.name = author.name) (command : Command) (args : List String) :
    tryUse network ⟨other, patience⟩ command args scene =
      tryUse network ⟨author, patience⟩ command args scene := by
  have hrespond : ∀ scene : Scene Builtin, scene.modules.Every Builtin.IsCore →
      respond network ⟨other, patience⟩ command args scene =
        respond network ⟨author, patience⟩ command args scene := by
    intro scene hcore
    rw [respond, respond, Template.resolve, Template.resolve,
      Template.resolvePieces_of_author hcore hid hname]
  unfold tryUse
  split
  · rfl
  · exact hrespond _ hcore

/-- A line comes to the same for all authors of one id and name that may use its command alike. -/
theorem dispatch_of_author (hcore : scene.modules.Every Builtin.IsCore)
    (hid : other.id = author.id) (hname : other.name = author.name) {line : String}
    (hgate : ∀ command args, named? scene.channel line = some (command, args) →
      command.modOnly = false ∨ other.isModerator = author.isModerator) :
    dispatch network ⟨other, patience⟩ line scene =
      dispatch network ⟨author, patience⟩ line scene := by
  cases hnamed : named? scene.channel line with
  | none =>
      unfold dispatch
      cases hwords : commandWords? scene.channel.sigil line with
      | none => rfl
      | some words =>
          rw [named?, hwords, Option.bind_some, Option.map_eq_none_iff] at hnamed
          simp only [hnamed]
  | some found =>
      obtain ⟨command, args⟩ := found
      rw [dispatch_of_named? hnamed, dispatch_of_named? hnamed, tryUse_of_author hcore hid hname]
      rcases hgate command args hnamed with hall | hmoderator
      · rw [hall]
        rfl
      · rw [hmoderator]

end Dispatch

namespace Session

/-- Where there are only core modules, two authors of one id and name get the same outcome and leave
the same session with the same line, whatever their other roles are, unless its command is for
moderators and one of them is no moderator. That one is denied, and nothing changes. -/
theorem handle_eq_of_admitted_alike {s : Session Builtin}
    (hcore : s.scene.modules.Every Builtin.IsCore) (network : Network) (patience : Duration)
    {author other : Author} (hid : other.id = author.id) (hname : other.name = author.name)
    (line : String) :
    ((∀ command args, Dispatch.named? s.scene.channel line = some (command, args) →
        command.modOnly = false ∨ other.isModerator = author.isModerator) →
      s.handle network patience other line = s.handle network patience author line) ∧
    ∀ command args, Dispatch.named? s.scene.channel line = some (command, args) →
      command.modOnly = true → author.isModerator = false →
        s.handle network patience author line = (.ignored (.denied command.name), s) := by
  refine ⟨fun hgate => ?_, fun command args hnamed hmod hauthor => ?_⟩
  · rw [handle, handle, Dispatch.dispatch_of_author hcore hid hname hgate]
  · rw [handle, Dispatch.dispatch_of_denied hnamed hmod hauthor]

/-- In a new channel a moderator and a subscribed VIP get the same help. The VIP may not add a
command. -/
theorem handle_eq_of_admitted_alike_moderator_and_vip :
    let ann : Author := ⟨"1", "ann", true, false, false⟩
    let vip : Author := ⟨"1", "ann", false, true, true⟩
    ∃ s, start Builtin.catalogue .down 0 [] "room" .initial = .ok s ∧
      s.handle .down 0 vip "r!help" = s.handle .down 0 ann "r!help" ∧
      s.handle .down 0 vip "r!cmdadd hi Hello" = (.ignored (.denied "cmdadd"), s) := by
  intro ann vip
  have hrun : ((start Builtin.catalogue .down 0 [] "room" .initial).toOption.map fun s =>
      (Dispatch.named? s.scene.channel "r!help",
        Dispatch.named? s.scene.channel "r!cmdadd hi Hello")) =
      some (some (⟨"help", 10, false, false, "@&caller& > &help&"⟩, []),
        some (⟨"cmdadd", 0, true, false, "@&caller& > &cmdadd&"⟩, ["hi", "Hello"])) := by
    decide +kernel
  obtain ⟨s, hstart, hrun⟩ := exists_of_toOption_map_eq_some hrun
  obtain ⟨hhelp, hadd⟩ := Prod.mk.inj hrun
  have hcore := isCore_of_start hstart fun asked hasked => absurd hasked List.not_mem_nil
  refine ⟨s, hstart, ?_, ?_⟩
  · have hid : vip.id = ann.id := rfl
    refine (handle_eq_of_admitted_alike hcore .down 0 hid rfl "r!help").1
      fun command args hnamed => ?_
    obtain rfl := (Prod.mk.inj (Option.some.inj (hhelp.symm.trans hnamed))).1
    exact .inl rfl
  · have hid : ann.id = vip.id := rfl
    exact (handle_eq_of_admitted_alike hcore .down 0 hid rfl "r!cmdadd hi Hello").2
      _ _ hadd rfl rfl

end Session

end CommandBot
