import CommandBot.Proofs.Session.Sound

/-!
# Starting again

A session can be started again at any time from the config that should be stored, whatever has been
said in its channel, whatever options have been set from outside and however often it has been
started again before. What it goes on with is what it had: the sigil, the commands, the modules
asked for and the options. `IsRestartable` is what every move keeps up.
-/

namespace CommandBot.Session

/-- What may happen to a session. -/
inductive Move where
  /-- A line, or a while without one. -/
  | turn (turn : Turn)
  | setOption (moduleName key : String) (value : Json)
  | markUnsaved
  | takeUnsaved
  /-- The session is started again from the config that should be stored. -/
  | restart

/-- Makes a move. A session that does not start again goes on as it is. -/
def move (network : Network) (patience : Duration) (s : Session Builtin) : Move → Session Builtin
  | .turn turn => s.take network patience turn
  | .setOption moduleName key value => s.mapChannel (·.setOption moduleName key value)
  | .markUnsaved => s.mapChannel Channel.markUnsaved
  | .takeUnsaved => s.takeUnsaved.2
  | .restart => (s.restart Builtin.catalogue network).toOption.getD s

/-- Makes moves in order. -/
def moveAll (network : Network) (patience : Duration) (s : Session Builtin) (moves : List Move) :
    Session Builtin :=
  moves.foldl (move network patience) s

/-- A session of the bot that can be started again, and whose modules keep it so. -/
structure IsRestartable (s : Session Builtin) : Prop where
  channel : s.scene.channel.IsStartable
  resident : s.scene.modules.Every Builtin.IsResident

theorem isRestartable_of_start {network : Network} {now : Instant} {before : List Exchange}
    {name : String} {config : Channel.Config} {s : Session Builtin}
    (h : start Builtin.catalogue network now before name config = .ok s)
    (hfits : ∀ name entry, config.commands.get? name = some entry → entry.Fits) :
    s.IsRestartable :=
  ⟨isStartable_of_start h hfits, resident_of_start h⟩

theorem IsRestartable.handle {s : Session Builtin} (h : s.IsRestartable) (network : Network)
    (patience : Duration) (author : Author) (text : String) :
    (s.handle network patience author text).2.IsRestartable := by
  obtain ⟨hchannel, hresident⟩ := Builtin.dispatch_of_deed
    (fun channel cooldowns hchannel => { hchannel with }) Builtin.Deed.isStartable h.channel
    h.resident network ⟨author, patience⟩ text
  exact ⟨hchannel, hresident⟩

/-- The entries that are stored of startable commands have cooldowns that fit. -/
theorem fits_of_get?_toConfig {ι : Type} {s : Session ι} (h : s.scene.channel.IsStartable)
    {name : String} {entry : StoredCommand}
    (hget : s.toConfig.commands.get? name = some entry) : entry.Fits :=
  Commands.fits_of_mem_toEntries h.wellFormed (KeyMap.mem_of_get? hget)

theorem IsRestartable.restart {s : Session Builtin} (h : s.IsRestartable) (network : Network) :
    ((s.restart Builtin.catalogue network).toOption.getD s).IsRestartable := by
  cases hstart : s.restart Builtin.catalogue network with
  | error e => exact h
  | ok fresh => exact isRestartable_of_start hstart fun _ _ => fits_of_get?_toConfig h.channel

theorem IsRestartable.move {s : Session Builtin} (h : s.IsRestartable) (network : Network)
    (patience : Duration) (m : Move) : (s.move network patience m).IsRestartable := by
  cases m with
  | turn turn =>
      cases turn with
      | line author text => exact h.handle network patience author text
      | wait span => exact ⟨h.channel, h.resident⟩
  | setOption moduleName key value => exact ⟨{ h.channel with }, h.resident⟩
  | markUnsaved => exact ⟨{ h.channel with }, h.resident⟩
  | takeUnsaved => exact ⟨{ h.channel with }, h.resident⟩
  | restart => exact h.restart network

theorem IsRestartable.moveAll {s : Session Builtin} (h : s.IsRestartable) (network : Network)
    (patience : Duration) (moves : List Move) :
    (s.moveAll network patience moves).IsRestartable := by
  induction moves generalizing s with
  | nil => exact h
  | cons m rest ih => exact ih (h.move network patience m)

/-- What a session goes on with when it is started again. -/
structure IsContinuedBy {ι : Type} (s fresh : Session ι) : Prop where
  sigil : fresh.scene.channel.sigil = s.scene.channel.sigil
  commands : fresh.scene.channel.commands = s.scene.channel.commands
  requested : fresh.requested = s.requested
  options : fresh.scene.channel.options = s.scene.channel.options
  config : fresh.toConfig = s.toConfig

theorem exists_isContinuedBy {ι : Type} {s : Session ι} (h : s.scene.channel.IsStartable)
    (catalogue : Catalogue ι) (network : Network) (now : Instant) (before : List Exchange)
    (name : String) :
    ∃ fresh, start catalogue network now before name s.toConfig = .ok fresh ∧
      s.IsContinuedBy fresh := by
  obtain ⟨fresh, hstart, hsigil, hcommands, hrequested, hoptions⟩ :=
    exists_start_of_isDescribedBy (isDescribedBy_toConfig h) h.sigil catalogue network now before
      name
  refine ⟨fresh, hstart, hsigil, hcommands, hrequested, hoptions, ?_⟩
  rw [toConfig, toConfig, hsigil, hcommands, hrequested, hoptions]

theorem cooldown_stored {command : Command} (h : command.cooldown < Number.twoPow 63) :
    command.stored.cooldown = command.cooldown := by
  change min (command.cooldown : Int) (Number.twoPow 63 - 1) = command.cooldown
  omega

/-- Whatever happens to a session, it starts again from the config that should be stored, and goes
on with the same sigil, commands, modules asked for and options. At every moment each command
stands under its own name, which is valid and in lowercase, its cooldown is stored as it is, and
the sigil is not blank. -/
theorem restart_after_moves {network : Network} {now : Instant} {before : List Exchange}
    {name : String} {config : Channel.Config} {s : Session Builtin}
    (hfits : ∀ name entry, config.commands.get? name = some entry → entry.Fits)
    (hstart : start Builtin.catalogue network now before name config = .ok s)
    (surroundings : Network) (patience : Duration) (moves : List Move) :
    let t := s.moveAll surroundings patience moves
    (∀ network now before name, ∃ fresh,
      start Builtin.catalogue network now before name t.toConfig = .ok fresh ∧
        t.IsContinuedBy fresh) ∧
    (∀ key command, t.scene.channel.commands.byName.get? key = some command →
      isValidName key = true ∧ Text.lower key = key ∧ command.name = key ∧
        command.cooldown < Number.twoPow 63 ∧ command.stored.cooldown = command.cooldown) ∧
    Text.isBlankText t.scene.channel.sigil = false := by
  intro t
  have ht : t.IsRestartable :=
    (isRestartable_of_start hstart hfits).moveAll surroundings patience moves
  refine ⟨fun network now before name => exists_isContinuedBy ht.channel _ network now before name,
    fun key command hget => ?_, ht.channel.sigil⟩
  have hproper := ht.channel.wellFormed key command hget
  have hcooldown := ht.channel.storable key command hget
  exact ⟨hproper.valid, hproper.lowered, hproper.named, hcooldown, cooldown_stored hcooldown⟩

/-- A moderator adds a command and changes the sigil, an option is set from outside, and the session
is started again. -/
def eventfulMoves : List Move :=
  let moderator : Author := ⟨"1", "mod", true, false, false⟩
  [.turn (.line moderator "r!cmdadd Hi 3 hello"), .turn (.line moderator "r!prefix !"),
    .setOption "Target" "greeting" (.array [.null]), .turn (.wait 5), .restart]

theorem restart_after_moves_eventful :
    ∃ s, start Builtin.catalogue .down 0 [] "room" .initial = .ok s ∧
      let t := s.moveAll .down 0 eventfulMoves
      t.scene.channel.sigil = "!" ∧ (t.scene.channel.commands.lookup "hi").isSome = true ∧
        ∃ fresh, start Builtin.catalogue .down 1 [] "room" t.toConfig = .ok fresh ∧
          t.IsContinuedBy fresh := by
  have hrun : (start Builtin.catalogue .down 0 [] "room" .initial).toOption.map (fun s =>
      let t := s.moveAll .down 0 eventfulMoves
      (t.scene.channel.sigil, (t.scene.channel.commands.lookup "hi").isSome)) =
      some ("!", true) := by
    decide +kernel
  cases hstart : start Builtin.catalogue .down 0 [] "room" .initial with
  | error e =>
      rw [hstart] at hrun
      cases hrun
  | ok s =>
      rw [hstart] at hrun
      obtain ⟨hsigil, hcommand⟩ := Prod.mk.inj (Option.some.inj hrun)
      have hfits : ∀ name entry, Channel.Config.initial.commands.get? name = some entry →
          entry.Fits := fun _ _ hget => Channel.Config.fits_of_read? Channel.Config.read?_text_initial hget
      have hfresh := (restart_after_moves hfits hstart .down 0 eventfulMoves).1 .down 1 [] "room"
      exact ⟨s, rfl, hsigil, hcommand, hfresh⟩

end CommandBot.Session
