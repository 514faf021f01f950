import CommandBot.Proofs.Cooldown
import CommandBot.Proofs.Module.Core
import CommandBot.Proofs.Session.Guarded

/-!
# Lines that commute

Where there are only core modules, the response of a command that calls none of those which change
the commands or the sigil leaves the scene as it is, and the last uses of the commands do not show
in it (`resolvePieces_withCooldowns`). All that such a line does to the scene is to mark the use of
its command, and all that another line sees of this is the cooldown of that command
(`dispatch_charged`). Lines for different commands may therefore change places (`handle_comm`).
-/

namespace CommandBot

/-- The scene with other last uses of the commands. -/
def Scene.withCooldowns {ι : Type} (scene : Scene ι) (cooldowns : CommandCooldowns) : Scene ι :=
  { scene with channel := { scene.channel with cooldowns := cooldowns } }

namespace Builtin

/-- A core module that changes neither the commands nor the sigil only speaks. -/
theorem exists_says? {key : String} {body : Builtin} (h : IsCore key body)
    (hkey : key ∉ adminNames) (call : Invocation) : ∃ text, says? body call = some text := by
  have hhome : body.home ∉ adminNames := h.home ▸ hkey
  cases body with
  | help => exact ⟨_, rfl⟩
  | commandAdd settings => exact absurd (by simp [home, adminNames]) hhome
  | commandRemove => exact absurd (by simp [home, adminNames]) hhome
  | sigil => exact absurd (by simp [home, adminNames]) hhome
  | target => exact ⟨_, rfl⟩
  | request state => exact absurd rfl (h.ne_request state)

/-- What is said does not depend on the last uses of the commands. -/
theorem says?_withCooldowns (body : Builtin) (request : Template.Request) (args : List String)
    (scene : Scene Builtin) (cooldowns : CommandCooldowns) :
    says? body (Template.invocation request args (scene.withCooldowns cooldowns)) =
      says? body (Template.invocation request args scene) := by
  cases body with
  | _ => rfl

end Builtin

/-! ### Responses that leave the scene as it is -/

namespace Template

variable (network : Network) (request : Request) {scene : Scene Builtin}

theorem callModule_of_says? {name : String} {m : Module Builtin} {args : List String}
    (hlookup : scene.modules.lookup name = .ok m) {text : String}
    (h : Builtin.says? m.body (invocation request args scene) = some text) :
    callModule network request name m args scene = (.ok (.text text), scene) :=
  callModule_of_instant hlookup (Builtin.call_of_says? h network)

theorem callModule_withCooldowns (hcore : scene.modules.Every Builtin.IsCore) {name : String}
    {m : Module Builtin} (hlookup : scene.modules.lookup name = .ok m)
    (hname : Text.lower name ∉ adminNames) (args : List String) (cooldowns : CommandCooldowns) :
    callModule network request name m args (scene.withCooldowns cooldowns) =
      ((callModule network request name m args scene).1, scene.withCooldowns cooldowns) := by
  obtain ⟨text, htext⟩ :=
    Builtin.exists_says? (hcore.of_lookup hlookup) hname (invocation request args scene)
  have htext' : Builtin.says? m.body
      (invocation request args (scene.withCooldowns cooldowns)) = some text := by
    rw [Builtin.says?_withCooldowns, htext]
  have hlookup' : (scene.withCooldowns cooldowns).modules.lookup name = .ok m := hlookup
  rw [callModule_of_says? network request hlookup htext,
    callModule_of_says? network request hlookup' htext']

/-- The placeholder stands for the same whatever the last uses are, and leaves them alone. -/
theorem expand_withCooldowns (hcore : scene.modules.Every Builtin.IsCore) {word : List Char}
    (hword : tokenName word ∉ adminNames) (alone : Bool) (args : List String)
    (cooldowns : CommandCooldowns) :
    expand network request alone word args (scene.withCooldowns cooldowns) =
      { expand network request alone word args scene with
        scene := scene.withCooldowns cooldowns } := by
  have hbuiltin : builtin? (tokenName word) request.author (scene.withCooldowns cooldowns) =
      builtin? (tokenName word) request.author scene := rfl
  have hmodules : (scene.withCooldowns cooldowns).modules = scene.modules := rfl
  unfold expand
  simp only [hbuiltin, hmodules]
  cases builtin? (tokenName word) request.author scene with
  | some value => rfl
  | none =>
      cases hlookup : scene.modules.lookup (tokenName word) with
      | error fault =>
          cases fault with
          | _ => rfl
      | ok m =>
          have hcall := fun taken => callModule_withCooldowns network request hcore hlookup
            (by rwa [lower_tokenName]) taken cooldowns
          simp only [expandModule, hcall]
          split
          · rfl
          · rfl

/-- So does a template of such placeholders. -/
theorem resolvePieces_withCooldowns (hcore : scene.modules.Every Builtin.IsCore) (alone : Bool)
    {pieces : List Piece} (hpieces : ∀ word, .token word ∈ pieces → tokenName word ∉ adminNames)
    (args : List String) (cooldowns : CommandCooldowns) :
    resolvePieces network request alone pieces args (scene.withCooldowns cooldowns) =
      { resolvePieces network request alone pieces args scene with
        scene := scene.withCooldowns cooldowns } := by
  induction pieces generalizing args with
  | nil => rfl
  | cons piece rest ih =>
      have hrest := ih fun word hword => hpieces word (List.mem_cons_of_mem _ hword)
      cases piece with
      | char c =>
          rw [resolvePieces, hrest]
          rfl
      | token word =>
          have hexpand := expand_withCooldowns network request hcore
            (hpieces word List.mem_cons_self) alone args
          have hscene : (expand network request alone word args scene).scene = scene :=
            congrArg Expanded.scene (hexpand scene.channel.cooldowns)
          rw [resolvePieces, resolvePieces, hexpand cooldowns]
          simp only [hscene]
          cases (expand network request alone word args scene).expansion with
          | value text =>
              simp only [hrest]
              rfl
          | unknown fault =>
              simp only [hrest]
              rfl
          | veto => rfl
          | failed fault => rfl

end Template

namespace Dispatch

/-! ### Lines that leave nothing but a use -/

/-- The response of the command that the line names calls none of the modules that change the
commands or the sigil. -/
def IsQuiet (channel : Channel) (line : String) : Prop :=
  ∀ command args, named? channel line = some (command, args) →
    ∀ t ∈ Template.tokens command.response, t.name ∉ adminNames

/-- The lines do not name the same command. -/
def AreApart (channel : Channel) (line other : String) : Prop :=
  ∀ command args command' args', named? channel line = some (command, args) →
    named? channel other = some (command', args') → command.name ≠ command'.name

variable (network : Network) (request : Template.Request) {scene : Scene Builtin}

theorem respond_withCooldowns (hcore : scene.modules.Every Builtin.IsCore) {command : Command}
    (hquiet : ∀ t ∈ Template.tokens command.response, t.name ∉ adminNames) (args : List String)
    (cooldowns : CommandCooldowns) :
    respond network request command args (scene.withCooldowns cooldowns) =
      ((respond network request command args scene).1, scene.withCooldowns cooldowns) := by
  have hpieces : ∀ word, .token word ∈ Template.Piece.scan command.response.toList →
      Template.tokenName word ∉ adminNames := by
    intro word hword
    obtain ⟨t, ht, hname⟩ := Template.exists_mem_tokens hword
    rw [← hname]
    exact hquiet t ht
  have hresolve := Template.resolvePieces_withCooldowns network request hcore
    (Template.isAlone command.response.toList) hpieces args
  have hscene : (Template.resolve network request command.response args scene).scene = scene :=
    congrArg Template.Resolved.scene (hresolve scene.channel.cooldowns)
  have hother : Template.resolve network request command.response args
      (scene.withCooldowns cooldowns) =
        { Template.resolve network request command.response args scene with
          scene := scene.withCooldowns cooldowns } := hresolve cooldowns
  simp only [respond, hother, hscene]
  rfl

/-- A quiet line leaves the scene as it is or marks the use of the command that it names. -/
theorem scene_of_isQuiet (hcore : scene.modules.Every Builtin.IsCore) {line : String}
    (hquiet : IsQuiet scene.channel line) :
    (dispatch network request line scene).2 = scene ∨
      ∃ command args, named? scene.channel line = some (command, args) ∧
        (dispatch network request line scene).2 = charged command scene := by
  rcases dispatch_cases network request line scene with
    ⟨-, hsame⟩ | ⟨command, args, hnamed, -, hrespond⟩
  · exact .inl hsame
  · refine .inr ⟨command, args, hnamed, ?_⟩
    have huse := respond_withCooldowns network request hcore (hquiet command args hnamed) args
    rw [hrespond]
    exact congrArg Prod.snd (huse (charged command scene).channel.cooldowns)

theorem charged_comm {ι : Type} (scene : Scene ι) {command other : Command}
    (h : command.name ≠ other.name) :
    charged other (charged command scene) = charged command (charged other scene) := by
  unfold charged
  simp only [KeyMap.insert_comm _ h]

theorem tryUse_charged (hcore : scene.modules.Every Builtin.IsCore) {command : Command}
    (hquiet : ∀ t ∈ Template.tokens command.response, t.name ∉ adminNames) {other : Command}
    (hother : command.name ≠ other.name) (args : List String) :
    tryUse network request command args (charged other scene) =
      ((tryUse network request command args scene).1,
        charged other (tryUse network request command args scene).2) := by
  have huse : (charged other scene).channel.cooldowns.use command.name
      (Duration.seconds command.cooldown) (charged other scene).now = _ :=
    CommandCooldowns.use_insert_of_ne scene.channel.cooldowns hother _ scene.now scene.now
  have hrespond := respond_withCooldowns network request hcore hquiet args
  rw [tryUse, tryUse, huse]
  cases scene.channel.cooldowns.use command.name (Duration.seconds command.cooldown) scene.now with
  | mk readiness cooldowns =>
      cases readiness with
      | waiting remaining => rfl
      | ready =>
          change respond network request command args (scene.withCooldowns
              ⟨cooldowns.lastUse.insert other.name scene.now⟩) =
            ((respond network request command args (scene.withCooldowns cooldowns)).1,
              charged other (respond network request command args
                (scene.withCooldowns cooldowns)).2)
          rw [hrespond, hrespond]
          rfl

/-- Whether another command has just been used does not matter to a quiet line. -/
theorem dispatch_charged (hcore : scene.modules.Every Builtin.IsCore) {line : String}
    (hquiet : IsQuiet scene.channel line) {other : Command}
    (hother : ∀ command args, named? scene.channel line = some (command, args) →
      command.name ≠ other.name) :
    dispatch network request line (charged other scene) =
      ((dispatch network request line scene).1,
        charged other (dispatch network request line scene).2) := by
  have hsigil : (charged other scene).channel.sigil = scene.channel.sigil := rfl
  have hcommands : (charged other scene).channel.commands = scene.channel.commands := rfl
  unfold dispatch
  simp only [hsigil, hcommands]
  cases hwords : commandWords? scene.channel.sigil line with
  | none => rfl
  | some words =>
      cases hlookup : scene.channel.commands.lookup (Text.lower (words.headD "")) with
      | none =>
          simp only [hlookup]
      | some command =>
          have hnamed : named? scene.channel line = some (command, words.tail) := by
            rw [named?, hwords, Option.bind_some, hlookup]
            rfl
          simp only [hlookup]
          split
          · rfl
          · exact tryUse_charged network request hcore (hquiet command _ hnamed)
              (hother command _ hnamed) _

/-- Two quiet lines for different commands may change places. -/
theorem dispatch_comm (request' : Template.Request) (hcore : scene.modules.Every Builtin.IsCore)
    {line line' : String} (hline : IsQuiet scene.channel line)
    (hline' : IsQuiet scene.channel line') (hapart : AreApart scene.channel line line') :
    (dispatch network request' line' (dispatch network request line scene).2).1 =
        (dispatch network request' line' scene).1 ∧
      (dispatch network request' line' (dispatch network request line scene).2).2 =
        (dispatch network request line (dispatch network request' line' scene).2).2 := by
  rcases scene_of_isQuiet network request hcore hline with
    hsame | ⟨command, args, hnamed, hcharged⟩
  · rw [hsame]
    refine ⟨rfl, ?_⟩
    rcases scene_of_isQuiet network request' hcore hline' with
      hsame' | ⟨command', args', hnamed', hcharged'⟩
    · rw [hsame', hsame]
    · rw [hcharged', dispatch_charged network request hcore hline fun command args hnamed =>
        hapart command args command' args' hnamed hnamed', hsame]
  · have hother := dispatch_charged network request' hcore hline' fun command' args' hnamed' =>
      (hapart command args command' args' hnamed hnamed').symm
    rw [hcharged, hother]
    refine ⟨rfl, ?_⟩
    rcases scene_of_isQuiet network request' hcore hline' with
      hsame' | ⟨command', args', hnamed', hcharged'⟩
    · rw [hsame', hcharged]
    · rw [hcharged', dispatch_charged network request hcore hline fun command args hnamed =>
        hapart command args command' args' hnamed hnamed', hcharged,
        charged_comm scene (hapart command args command' args' hnamed hnamed')]

end Dispatch

namespace Session

/-- Where there are only core modules, two lines that name different commands, none of which calls a
module that changes the commands or the sigil, may change places: at one moment each comes to the
same in either order, and both leave the same session. -/
theorem handle_comm {s : Session Builtin} (hcore : s.scene.modules.Every Builtin.IsCore)
    (network : Network) (patience : Duration) (author author' : Author) {line line' : String}
    (hline : Dispatch.IsQuiet s.scene.channel line)
    (hline' : Dispatch.IsQuiet s.scene.channel line')
    (hapart : Dispatch.AreApart s.scene.channel line line') :
    let first := s.handle network patience author line
    let first' := s.handle network patience author' line'
    (first'.2.handle network patience author line).1 = first.1 ∧
      (first.2.handle network patience author' line').1 = first'.1 ∧
      (first.2.handle network patience author' line').2 =
        (first'.2.handle network patience author line).2 := by
  have hapart' : Dispatch.AreApart s.scene.channel line' line :=
    fun command args command' args' hnamed hnamed' =>
      (hapart command' args' command args hnamed' hnamed).symm
  obtain ⟨houtcome, hscene⟩ := Dispatch.dispatch_comm network ⟨author, patience⟩
    ⟨author', patience⟩ hcore hline hline' hapart
  obtain ⟨houtcome', -⟩ := Dispatch.dispatch_comm network ⟨author', patience⟩
    ⟨author, patience⟩ hcore hline' hline hapart'
  intro first first'
  simp only [first, first', outcome_handle, session_handle, houtcome, houtcome', hscene, and_self]

/-- One viewer of a new channel asks for help and another for the uptime, in either order. -/
theorem handle_comm_help_uptime :
    let ann : Author := ⟨"1", "ann", false, true, false⟩
    let bob : Author := ⟨"2", "bob", true, false, false⟩
    ∃ s, start Builtin.catalogue .down 0 [] "room" .initial = .ok s ∧
      s.scene.modules.Every Builtin.IsCore ∧
      Dispatch.IsQuiet s.scene.channel "r!Help target" ∧
      Dispatch.IsQuiet s.scene.channel "r!uptime" ∧
      Dispatch.AreApart s.scene.channel "r!Help target" "r!uptime" ∧
      let first := s.handle .down 0 ann "r!Help target"
      let first' := s.handle .down 0 bob "r!uptime"
      (first'.2.handle .down 0 ann "r!Help target").1 = first.1 ∧
        (first.2.handle .down 0 bob "r!uptime").2 =
          (first'.2.handle .down 0 ann "r!Help target").2 := by
  intro ann bob
  have hrun : ((start Builtin.catalogue .down 0 [] "room" .initial).toOption.map fun s =>
      (Dispatch.named? s.scene.channel "r!Help target",
        Dispatch.named? s.scene.channel "r!uptime")) =
      some (some (⟨"help", 10, false, false, "@&caller& > &help&"⟩, ["target"]),
        some (⟨"uptime", 10, false, false, "@&caller& > &uptime&"⟩, [])) := by
    decide +kernel
  obtain ⟨s, hstart, hrun⟩ := exists_of_toOption_map_eq_some hrun
  obtain ⟨hhelp, huptime⟩ := Prod.mk.inj hrun
  have hcore := isCore_of_start hstart fun asked hasked => absurd hasked List.not_mem_nil
  have hline : Dispatch.IsQuiet s.scene.channel "r!Help target" := by
    intro command args hnamed
    obtain rfl := (Prod.mk.inj (Option.some.inj (hhelp.symm.trans hnamed))).1
    decide +kernel
  have hline' : Dispatch.IsQuiet s.scene.channel "r!uptime" := by
    intro command args hnamed
    obtain rfl := (Prod.mk.inj (Option.some.inj (huptime.symm.trans hnamed))).1
    decide +kernel
  have hapart : Dispatch.AreApart s.scene.channel "r!Help target" "r!uptime" := by
    intro command args command' args' hnamed hnamed'
    obtain rfl := (Prod.mk.inj (Option.some.inj (hhelp.symm.trans hnamed))).1
    obtain rfl := (Prod.mk.inj (Option.some.inj (huptime.symm.trans hnamed'))).1
    decide
  refine ⟨s, hstart, hcore, hline, hline', hapart, ?_⟩
  intro first first'
  obtain ⟨hfirst, -, hboth⟩ := handle_comm hcore .down 0 ann bob hline hline' hapart
  exact ⟨hfirst, hboth⟩

end Session

end CommandBot
