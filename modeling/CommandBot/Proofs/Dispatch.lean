import CommandBot.Dispatch
import CommandBot.Proofs.Commands
import CommandBot.Proofs.Cooldown
import CommandBot.Proofs.Template.Resolve
import CommandBot.Proofs.Text.Words

/-!
# What a line comes to

`named?` is the command that a line names, with its arguments. A line that names none, or that is
not permitted to its author, is stopped (`dispatch_of_named?_none`, `dispatch_of_denied`); any other
goes on to the cooldown (`dispatch_of_permitted`). Lines that are stopped leave everything as it is
(`scene_of_isStopped`), and `dispatch_induction` carries what every call keeps up through a whole
line.
-/

namespace CommandBot

/-- Whether the line was stopped at a gate, before it counts as a use of a command. -/
def Outcome.isStopped : Outcome → Bool
  | .ignored .notPrefixed => true
  | .ignored (.unknownCommand _) => true
  | .ignored (.denied _) => true
  | .ignored (.onCooldown _ _) => true
  | _ => false

namespace Dispatch

variable {ι : Type}

/-- The command that a line names, and its arguments. -/
def named? (channel : Channel) (line : String) : Option (Command × List String) :=
  (commandWords? channel.sigil line).bind fun words =>
    (channel.commands.lookup (Text.lower (words.headD ""))).map fun command => (command, words.tail)

theorem isBlankText_of_mem_commandWords? {sigil line : String} {words : List String}
    (h : commandWords? sigil line = some words) {word : String} (hword : word ∈ words) :
    Text.isBlankText word = false := by
  obtain ⟨rest, -, rfl⟩ := Option.map_eq_some_iff.1 h
  obtain ⟨w, hw, rfl⟩ := List.mem_map.1 hword
  exact Text.isBlankText_ofList_of_mem_words hw

theorem named?_eq_some {channel : Channel} {line : String} {command : Command} {args : List String}
    (h : named? channel line = some (command, args)) :
    (∃ name, channel.commands.lookup name = some command) ∧
      ∀ a ∈ args, Text.isBlankText a = false := by
  obtain ⟨words, hwords, hcommand⟩ := Option.bind_eq_some_iff.1 h
  obtain ⟨found, hfound, hpair⟩ := Option.map_eq_some_iff.1 hcommand
  obtain ⟨rfl, rfl⟩ := Prod.mk.inj hpair
  exact ⟨⟨_, hfound⟩, fun a ha =>
    isBlankText_of_mem_commandWords? hwords (List.mem_of_mem_tail ha)⟩

variable [Callable ι]

theorem dispatch_of_named?_none (network : Network) (request : Template.Request) {line : String}
    {scene : Scene ι} (h : named? scene.channel line = none) :
    ∃ why, dispatch network request line scene = (.ignored why, scene) ∧
      (Outcome.ignored why).isStopped = true := by
  unfold dispatch
  cases hwords : commandWords? scene.channel.sigil line with
  | none => exact ⟨_, rfl, rfl⟩
  | some words =>
      simp only [named?, hwords, Option.bind_some, Option.map_eq_none_iff] at h
      simp only [h]
      exact ⟨_, rfl, rfl⟩

theorem dispatch_of_named? {network : Network} {request : Template.Request} {line : String}
    {scene : Scene ι} {command : Command} {args : List String}
    (h : named? scene.channel line = some (command, args)) :
    dispatch network request line scene =
      if command.modOnly && !request.author.isModerator then
        (.ignored (.denied command.name), scene)
      else tryUse network request command args scene := by
  unfold dispatch
  cases hwords : commandWords? scene.channel.sigil line with
  | none => simp [named?, hwords] at h
  | some words =>
      simp only [named?, hwords, Option.bind_some, Option.map_eq_some_iff, Prod.mk.injEq] at h
      obtain ⟨found, hfound, rfl, rfl⟩ := h
      simp only [hfound]

theorem dispatch_of_denied {network : Network} {request : Template.Request} {line : String}
    {scene : Scene ι} {command : Command} {args : List String}
    (h : named? scene.channel line = some (command, args)) (hmod : command.modOnly = true)
    (hauthor : request.author.isModerator = false) :
    dispatch network request line scene = (.ignored (.denied command.name), scene) := by
  rw [dispatch_of_named? h]
  simp [hmod, hauthor]

theorem dispatch_of_permitted {network : Network} {request : Template.Request} {line : String}
    {scene : Scene ι} {command : Command} {args : List String}
    (h : named? scene.channel line = some (command, args))
    (hpermitted : command.modOnly = true → request.author.isModerator = true) :
    dispatch network request line scene = tryUse network request command args scene := by
  rw [dispatch_of_named? h, if_neg]
  intro hdenied
  rw [Bool.and_eq_true] at hdenied
  simp [hpermitted hdenied.1] at hdenied

omit [Callable ι] in
theorem isStopped_outcomeOf (modules : Modules ι) (result : Except Fault Template.Resolution) :
    (outcomeOf modules result).isStopped = false := by
  unfold outcomeOf
  split
  · split
    · rfl
    · rfl
  · rfl
  · rfl

/-- The scene with the use of a command. -/
def charged (command : Command) (scene : Scene ι) : Scene ι :=
  { scene with
    channel := { scene.channel with
      cooldowns := ⟨scene.channel.cooldowns.lastUse.insert command.name scene.now⟩ } }

omit [Callable ι] in
theorem get?_lastUse_charged (command : Command) (scene : Scene ι) (name : String) :
    (charged command scene).channel.cooldowns.lastUse.get? name =
      if name = command.name then some scene.now
      else scene.channel.cooldowns.lastUse.get? name :=
  KeyMap.get?_insert _ _ _ _

theorem tryUse_cases (network : Network) (request : Template.Request) (command : Command)
    (args : List String) (scene : Scene ι) :
    (∃ last, scene.channel.cooldowns.lastUse.get? command.name = some last ∧
      scene.now - last < Duration.seconds command.cooldown ∧
      tryUse network request command args scene =
        (.ignored (.onCooldown command.name
          (Duration.seconds command.cooldown - (scene.now - last))), scene)) ∨
    ((∀ last, scene.channel.cooldowns.lastUse.get? command.name = some last →
        Duration.seconds command.cooldown ≤ scene.now - last) ∧
      tryUse network request command args scene =
        respond network request command args (charged command scene)) := by
  rcases scene.channel.cooldowns.use_cases command.name (Duration.seconds command.cooldown)
    scene.now with ⟨last, hlast, hearly, huse⟩ | ⟨hlate, huse⟩
  · refine .inl ⟨last, hlast, hearly, ?_⟩
    rw [tryUse, huse]
  · refine .inr ⟨hlate, ?_⟩
    rw [tryUse, huse]
    rfl

/-- A line is either stopped and leaves no trace, or it is admitted to the response of the command
that it names. -/
theorem dispatch_cases (network : Network) (request : Template.Request) (line : String)
    (scene : Scene ι) :
    ((dispatch network request line scene).1.isStopped = true ∧
      (dispatch network request line scene).2 = scene) ∨
    ∃ command args, named? scene.channel line = some (command, args) ∧
      (command.modOnly = true → request.author.isModerator = true) ∧
      dispatch network request line scene =
        respond network request command args (charged command scene) := by
  cases hnamed : named? scene.channel line with
  | none =>
      obtain ⟨why, hdispatch, hwhy⟩ := dispatch_of_named?_none network request hnamed
      exact .inl (by rw [hdispatch]; exact ⟨hwhy, rfl⟩)
  | some found =>
      obtain ⟨command, args⟩ := found
      by_cases hdenied : command.modOnly = true ∧ request.author.isModerator = false
      · rw [dispatch_of_denied hnamed hdenied.1 hdenied.2]
        exact .inl ⟨rfl, rfl⟩
      · have hpermitted : command.modOnly = true → request.author.isModerator = true := by
          intro hmod
          rw [← Bool.not_eq_false]
          exact fun hauthor => hdenied ⟨hmod, hauthor⟩
        rw [dispatch_of_permitted hnamed hpermitted]
        rcases tryUse_cases network request command args scene with
          ⟨last, -, -, huse⟩ | ⟨-, huse⟩
        · rw [huse]
          exact .inl ⟨rfl, rfl⟩
        · exact .inr ⟨command, args, rfl, hpermitted, huse⟩

theorem isStopped_respond (network : Network) (request : Template.Request) (command : Command)
    (args : List String) (scene : Scene ι) :
    (respond network request command args scene).1.isStopped = false :=
  isStopped_outcomeOf _ _

/-- A line that is stopped leaves the scene as it is. -/
theorem scene_of_isStopped {network : Network} {request : Template.Request} {line : String}
    {scene : Scene ι} (h : (dispatch network request line scene).1.isStopped = true) :
    (dispatch network request line scene).2 = scene := by
  rcases dispatch_cases network request line scene with ⟨-, hsame⟩ | ⟨command, args, -, -, hrespond⟩
  · exact hsame
  · rw [hrespond, isStopped_respond] at h
    cases h

/-- What the use of a command and every call that its response may make keep up holds after a
line. -/
theorem dispatch_induction {network : Network} {request : Template.Request} {line : String}
    {p : Scene ι → Prop} {scene : Scene ι} (h : p scene)
    (huse : ∀ command, p scene → p (charged command scene))
    (hcall : ∀ command args, named? scene.channel line = some (command, args) →
      (command.modOnly = true → request.author.isModerator = true) →
      ∀ word, .token word ∈ Template.Piece.scan command.response.toList →
      ∀ m taken current, current.modules.lookup (Template.tokenName word) = .ok m →
        (∀ a ∈ taken, a ∈ args) → p current →
        p (Template.callModule network request (Template.tokenName word) m taken current).2) :
    p (dispatch network request line scene).2 := by
  rcases dispatch_cases network request line scene with
    ⟨-, hsame⟩ | ⟨command, args, hnamed, hpermitted, hrespond⟩
  · rw [hsame]
    exact h
  · rw [hrespond]
    refine Template.resolvePieces_induction (p := fun _ current => p current)
      (fun word hword m taken _ current hlookup htaken hcurrent => ?_) [] (huse command h)
    exact hcall command args hnamed hpermitted word hword m taken current hlookup htaken hcurrent

end Dispatch

end CommandBot
