import CommandBot.Proofs.Files.Save
import CommandBot.Proofs.Session.Sound
import CommandBot.Worker

/-!
# What a worker has saved

A worker saves after just those lines that leave the channel marked (`files_work`). As long as its
saves succeed, what is stored describes the session at every moment (`reload_after_run`). A save
that fails is not made up for: the mark is gone by then, so that the change is stored only when a
later line marks the channel again (`current_iff_of_run`).
-/

namespace CommandBot

namespace Action

def said? : Action → Option String
  | .say text => some text
  | _ => none

def saved? : Action → Option Channel.Config
  | .save config => some config
  | _ => none

def reported? : Action → Option String
  | .report text => some text
  | _ => none

end Action

namespace Worker

/-- A line with its conditions, or a while in which there is none. -/
inductive Turn where
  | line (line : IncomingLine) (conditions : Conditions)
  | wait (span : Duration)

variable {ι : Type} [Callable ι]

/-- Takes a turn. -/
def take (post : Post) (state : Session ι × Surroundings) : Turn → Session ι × Surroundings
  | .line line conditions => (work post conditions state.1 line state.2).2
  | .wait span => (state.1.advance span, state.2)

/-- Takes turns in order. -/
def play (post : Post) (state : Session ι × Surroundings) (turns : List Turn) :
    Session ι × Surroundings :=
  turns.foldl (take post) state

/-- The session that a line leaves, before its mark is taken. -/
def handled (post : Post) (session : Session ι) (line : IncomingLine) : Session ι :=
  (session.handle post.network post.patience line.author line.body).2

theorem session_work (post : Post) (conditions : Conditions) (session : Session ι)
    (line : IncomingLine) (s : Surroundings) :
    (work post conditions session line s).2.1 = (handled post session line).takeUnsaved.2 := rfl

theorem take_line (post : Post) (state : Session ι × Surroundings) (line : IncomingLine)
    (conditions : Conditions) :
    take post state (.line line conditions) =
      ((handled post state.1 line).takeUnsaved.2,
        (work post conditions state.1 line state.2).2.2) :=
  rfl

/-- The files after an attempt to save, whether it succeeds or not. -/
def filesAfter (store : Store) (files : FileTree)
    (attempt : Channel.Config × Option Disruption) : FileTree :=
  (store.save attempt.1 attempt.2 files).2

/-- Each kind of action has an effect on its own part of the surroundings. -/
theorem foldl_perform (store : Store) (telemetry : TelemetryConfig) (conditions : Conditions)
    (actions : List Action) (s : Surroundings) :
    actions.foldl (·.perform store telemetry conditions) s =
      { said := s.said ++ (actions.filterMap Action.said?).map (·, conditions.chatAccepts)
        files := ((actions.filterMap Action.saved?).map (·, conditions.disruption)).foldl
          (filesAfter store) s.files
        reports := s.reports ++
          (actions.filterMap Action.reported?).filterMap telemetry.errorReport? } := by
  induction actions generalizing s with
  | nil => simp
  | cons action rest ih =>
      rw [List.foldl_cons, ih]
      cases action with
      | say text =>
          simp [Surroundings.perform, Action.said?, Action.saved?, Action.reported?,
            List.filterMap_cons]
      | save config => rfl
      | report text =>
          cases hreport : telemetry.errorReport? text <;>
            simp [Surroundings.perform, Action.said?, Action.saved?, Action.reported?,
              List.filterMap_cons, hreport]

omit [Callable ι] in
theorem filterMap_actions (line : String) (outcome : Outcome) (session : Session ι) :
    (actions line outcome session).filterMap Action.said? = outcome.reply.toList ∧
      (actions line outcome session).filterMap Action.saved? =
        (if session.scene.channel.unsaved then [session.toConfig] else []) ∧
      (actions line outcome session).filterMap Action.reported? =
        (reportOf session.scene.channel.name line outcome).toList := by
  unfold actions
  generalize outcome.reply = reply
  generalize session.scene.channel.unsaved = unsaved
  generalize reportOf session.scene.channel.name line outcome = report
  cases reply <;> cases unsaved <;> cases report <;> exact ⟨rfl, rfl, rfl⟩

omit [Callable ι] in
theorem files_actions (post : Post) (conditions : Conditions) (line : String) (outcome : Outcome)
    (session : Session ι) (s : Surroundings) :
    ((actions line outcome session).foldl
      (·.perform post.store post.telemetry conditions) s).files =
      if session.scene.channel.unsaved then
        (post.store.save session.toConfig conditions.disruption s.files).2
      else s.files := by
  rw [foldl_perform, (filterMap_actions line outcome session).2.1]
  cases session.scene.channel.unsaved with
  | false => rfl
  | true => rfl

/-- A worker touches the files after just those lines that leave the channel marked. -/
theorem files_work (post : Post) (conditions : Conditions) (session : Session ι)
    (line : IncomingLine) (s : Surroundings) :
    (work post conditions session line s).2.2.files =
      if (handled post session line).scene.channel.unsaved then
        (post.store.save (handled post session line).toConfig conditions.disruption s.files).2
      else s.files :=
  files_actions post conditions line.body _ (handled post session line) s

/-- The turn is a line that leaves the channel marked. -/
def LeavesMark (post : Post) (state : Session ι × Surroundings) : Turn → Prop
  | .line line _ => (handled post state.1 line).scene.channel.unsaved = true
  | .wait _ => False

/-- Some line in the course of some turns leaves the channel marked. -/
def LeaveMark (post : Post) (state : Session ι × Surroundings) : List Turn → Prop
  | [] => False
  | turn :: rest => LeavesMark post state turn ∨ LeaveMark post (take post state turn) rest

/-- The save after a line succeeds, if there is one. -/
def SaveSucceeds (post : Post) (state : Session ι × Surroundings) : Turn → Prop
  | .line line conditions =>
      (handled post state.1 line).scene.channel.unsaved = true →
        (post.store.save (handled post state.1 line).toConfig conditions.disruption
          state.2.files).1 = .ok ()
  | .wait _ => True

/-- All saves in the course of some turns succeed. -/
def SavesSucceed (post : Post) (state : Session ι × Surroundings) : List Turn → Prop
  | [] => True
  | turn :: rest => SaveSucceeds post state turn ∧ SavesSucceed post (take post state turn) rest

/-! ### Sessions of a worker -/

/-- The session of a worker is sound, and between lines it is not marked. -/
structure IsSettled (s : Session Builtin) : Prop where
  sound : IsSound s.scene
  clean : s.scene.channel.unsaved = false

theorem IsSettled.take {session : Session Builtin} (h : IsSettled session) (post : Post)
    (s : Surroundings) (turn : Turn) : IsSettled (take post (session, s) turn).1 := by
  cases turn with
  | line line conditions =>
      rw [take_line]
      exact ⟨Session.isSound_takeUnsaved (Session.isSound_handle h.sound _ _ _ _), rfl⟩
  | wait span => exact ⟨Session.isSound_advance h.sound span, h.clean⟩

theorem IsSettled.play {session : Session Builtin} (h : IsSettled session) (post : Post)
    (s : Surroundings) (turns : List Turn) : IsSettled (play post (session, s) turns).1 := by
  induction turns generalizing session s with
  | nil => exact h
  | cons turn rest ih => exact ih (h.take post s turn) _

/-- What is stored describes the session. -/
def IsStored (post : Post) (state : Session Builtin × Surroundings) : Prop :=
  ∃ stored, post.store.readStored state.2.files = .ok stored ∧ state.1.IsDescribedBy stored

theorem readStored_of_save_ok {post : Post} {conditions : Conditions} {session : Session Builtin}
    {line : IncomingLine} {s : Surroundings} (h : IsSettled session)
    (hunsaved : (handled post session line).scene.channel.unsaved = true)
    (hsave : (post.store.save (handled post session line).toConfig conditions.disruption
      s.files).1 = .ok ()) :
    post.store.readStored (work post conditions session line s).2.2.files =
      .ok (handled post session line).toConfig := by
  have hsound : IsSound (handled post session line).scene := Session.isSound_handle h.sound _ _ _ _
  rw [files_work, if_pos hunsaved]
  exact Store.readStored_of_save_ok (Prod.ext hsave rfl)
    (Session.read?_text_toConfig hsound.channel)

theorem IsStored.take {post : Post} {state : Session Builtin × Surroundings}
    (h : IsStored post state) (hsettled : IsSettled state.1) {turn : Turn}
    (hsave : SaveSucceeds post state turn) : IsStored post (take post state turn) := by
  obtain ⟨stored, hread, hdescribed⟩ := h
  cases turn with
  | wait span => exact ⟨stored, hread, hdescribed.advance span⟩
  | line line conditions =>
      rw [take_line]
      cases hunsaved : (handled post state.1 line).scene.channel.unsaved with
      | true =>
          have hsound : IsSound (handled post state.1 line).scene :=
            Session.isSound_handle hsettled.sound _ _ _ _
          have hconfig := Session.isDescribedBy_toConfig hsound.channel.startable
          exact ⟨_, readStored_of_save_ok hsettled hunsaved (hsave hunsaved), hconfig.takeUnsaved⟩
      | false =>
          -- nothing is written, but nothing of what is stored has changed either
          have hconfig : (handled post state.1 line).IsDescribedBy stored :=
            hdescribed.handle hunsaved
          refine ⟨stored, ?_, hconfig.takeUnsaved⟩
          rw [files_work, hunsaved]
          exact hread

theorem IsStored.play {post : Post} {state : Session Builtin × Surroundings}
    (h : IsStored post state) (hsettled : IsSettled state.1) {turns : List Turn}
    (hsaves : SavesSucceed post state turns) : IsStored post (play post state turns) := by
  induction turns generalizing state with
  | nil => exact h
  | cons turn rest ih =>
      exact ih (h.take hsettled hsaves.1) (hsettled.take post state.2 turn) hsaves.2

/-- A session that is started from what has been loaded is settled and stored. -/
theorem isStored_of_load {post : Post} {disruption : Option Disruption} {files after : FileTree}
    {config : Channel.Config} (hload : post.store.load disruption files = (.ok config, after))
    (hfaithful : Channel.Config.read? config.text = some config)
    (hfree : Channel.Config.FloatFree config.options) {network : Network} {now : Instant}
    {before : List Exchange} {name : String} {start : Session Builtin}
    (hstart : Session.start Builtin.catalogue network now before name config = .ok start)
    (said : List (String × Bool)) (reports : List String) :
    IsSettled start ∧ IsStored post (start, ⟨said, after, reports⟩) := by
  have hfits : ∀ name entry, config.commands.get? name = some entry → entry.Fits :=
    fun _ _ hget => Channel.Config.fits_of_read? hfaithful hget
  have hback := (Channel.Config.read?_text_eq_some_iff hfree hfits).1 hfaithful
  obtain ⟨-, commands, hcommands, hchannel, -, hrequested⟩ := Session.start_eq_ok hstart
  refine ⟨⟨Session.isSound_of_start hstart hfits hfree hback, ?_⟩,
    ⟨config, Store.readStored_of_load_ok hload hfaithful, ?_⟩⟩
  · rw [hchannel]
    rfl
  · exact
      { sigil := by rw [hchannel]; rfl
        commands := by rw [hchannel]; exact hcommands
        requested := hrequested.symm
        options := by rw [hchannel] }

/-- As long as the saves of a worker succeed, loading and starting again gives at any moment a
session with the same sigil, commands, modules asked for and options. That a line changes something
of what is stored without marking the channel never happens. -/
theorem reload_after_run {post : Post} {disruption : Option Disruption} {files after : FileTree}
    {config : Channel.Config} (hload : post.store.load disruption files = (.ok config, after))
    (hfaithful : Channel.Config.read? config.text = some config)
    (hfree : Channel.Config.FloatFree config.options) {network : Network} {now : Instant}
    {before : List Exchange} {name : String} {start : Session Builtin}
    (hstart : Session.start Builtin.catalogue network now before name config = .ok start)
    {said : List (String × Bool)} {reports : List String} {turns : List Turn}
    (hsaves : SavesSucceed post (start, ⟨said, after, reports⟩) turns) :
    let state := play post (start, ⟨said, after, reports⟩) turns
    (∃ stored, post.store.load none state.2.files = (.ok stored, state.2.files) ∧
      ∀ network now before name, ∃ fresh,
        Session.start Builtin.catalogue network now before name stored = .ok fresh ∧
          fresh.scene.channel.sigil = state.1.scene.channel.sigil ∧
          fresh.scene.channel.commands = state.1.scene.channel.commands ∧
          fresh.requested = state.1.requested ∧
          fresh.scene.channel.options = state.1.scene.channel.options) ∧
    ∀ (s : Session Builtin) network patience author text,
      (s.handle network patience author text).2.toConfig ≠ s.toConfig →
        (s.handle network patience author text).2.scene.channel.unsaved = true := by
  obtain ⟨hsettled, hstored⟩ := isStored_of_load hload hfaithful hfree hstart said reports
  have hend := hsettled.play post ⟨said, after, reports⟩ turns
  refine ⟨?_, fun s network patience author text hchanged => ?_⟩
  · obtain ⟨stored, hread, hdescribed⟩ := hstored.play hsettled hsaves
    exact ⟨stored, Store.load_of_readStored hread none, fun network now before name =>
      Session.exists_start_of_isDescribedBy hdescribed hend.sound.channel.sigil _ network now before
        name⟩
  · rw [← Bool.not_eq_false]
    exact fun hclean => hchanged (Session.toConfig_handle hclean)

/-- A worker without a network that keeps the config of its channel in the working directory. -/
def offline : Post := ⟨.down, 0, ⟨"room.json"⟩, {}⟩

/-- The files after the config of a new channel has been saved. -/
def newFiles : FileTree := (offline.store.save .initial none (.empty [])).2

/-- A line that adds a command. -/
def newCommand : IncomingLine := ⟨⟨"1", "mod", true, false, false⟩, "r!cmdadd hi 0 hello"⟩

theorem load_new : offline.store.load none (.empty []) = (.ok .initial, newFiles) :=
  Store.load_of_save_ok (by decide +kernel) (Prod.ext (by decide +kernel) rfl)

/-- A moderator adds a command to a new channel, and the channel is started again. -/
theorem reload_after_run_new_command :
    ∃ start, Session.start Builtin.catalogue .down 0 [] "room" .initial = .ok start ∧
      SavesSucceed offline (start, ⟨[], newFiles, []⟩) [.line newCommand {}] ∧
      let state := play offline (start, ⟨[], newFiles, []⟩) [.line newCommand {}]
      ∃ stored fresh, offline.store.load none state.2.files = (.ok stored, state.2.files) ∧
        Session.start Builtin.catalogue .down 1 [] "room" stored = .ok fresh ∧
        fresh.scene.channel.commands = state.1.scene.channel.commands := by
  have hrun : (Session.start Builtin.catalogue .down 0 [] "room" .initial).toOption.map (fun s =>
      (offline.store.save (handled offline s newCommand).toConfig none newFiles).1) =
      some (.ok ()) := by
    decide +kernel
  cases hstart : Session.start Builtin.catalogue .down 0 [] "room" .initial with
  | error e =>
      rw [hstart] at hrun
      cases hrun
  | ok start =>
      rw [hstart] at hrun
      have hsaves : SavesSucceed offline (start, ⟨[], newFiles, []⟩) [.line newCommand {}] :=
        ⟨fun _ => Option.some.inj hrun, trivial⟩
      obtain ⟨⟨stored, hstored, hfresh⟩, -⟩ := reload_after_run load_new
        Channel.Config.read?_text_initial (Channel.Config.everyOption_empty _) hstart hsaves
      obtain ⟨fresh, hrestart, -, hcommands, -⟩ := hfresh .down 1 [] "room"
      exact ⟨start, rfl, hsaves, stored, fresh, hstored, hrestart, hcommands⟩

/-- What is stored is the config of the session. -/
def IsCurrent (post : Post) (state : Session Builtin × Surroundings) : Prop :=
  post.store.readStored state.2.files = .ok state.1.toConfig

/-- A turn whose save succeeds leaves the config of the session stored just when it leaves a mark,
or it was stored before. -/
theorem isCurrent_take_iff {post : Post} {state : Session Builtin × Surroundings}
    (hsettled : IsSettled state.1) {turn : Turn} (hsave : SaveSucceeds post state turn) :
    IsCurrent post (take post state turn) ↔ LeavesMark post state turn ∨ IsCurrent post state := by
  cases turn with
  | wait span =>
      have hsame : IsCurrent post (take post state (.wait span)) ↔ IsCurrent post state := by
        rw [IsCurrent, IsCurrent, take, Session.toConfig_advance]
      rw [hsame, LeavesMark, false_or]
  | line line conditions =>
      rw [take_line, IsCurrent, Session.toConfig_takeUnsaved, LeavesMark]
      cases hunsaved : (handled post state.1 line).scene.channel.unsaved with
      | true =>
          exact iff_of_true (readStored_of_save_ok hsettled hunsaved (hsave hunsaved)) (.inl rfl)
      | false =>
          have hconfig : (handled post state.1 line).toConfig = state.1.toConfig :=
            Session.toConfig_handle hunsaved
          rw [files_work, if_neg (Bool.eq_false_iff.1 hunsaved), hconfig, IsCurrent]
          simp

theorem isCurrent_play_iff {post : Post} {state : Session Builtin × Surroundings}
    (hsettled : IsSettled state.1) {turns : List Turn} (hsaves : SavesSucceed post state turns) :
    IsCurrent post (play post state turns) ↔ LeaveMark post state turns ∨ IsCurrent post state := by
  induction turns generalizing state with
  | nil => simp [play, LeaveMark]
  | cons turn rest ih =>
      have hrest : IsCurrent post (play post state (turn :: rest)) ↔
          LeaveMark post (take post state turn) rest ∨ IsCurrent post (take post state turn) :=
        ih (hsettled.take post state.2 turn) hsaves.2
      rw [hrest, isCurrent_take_iff hsettled hsaves.1, LeaveMark]
      tauto

/-- When what is stored is the config of the session after some turns whose saves succeed, whatever
saves have failed before: just when one of these turns leaves a mark, or what was stored before them
was the config of the session already. A change whose save has failed is thus stored no sooner than
a later line marks the channel again. -/
theorem current_iff_of_run {post : Post} {disruption : Option Disruption} {files after : FileTree}
    {config : Channel.Config} (hload : post.store.load disruption files = (.ok config, after))
    (hfaithful : Channel.Config.read? config.text = some config)
    (hfree : Channel.Config.FloatFree config.options) {network : Network} {now : Instant}
    {before : List Exchange} {name : String} {start : Session Builtin}
    (hstart : Session.start Builtin.catalogue network now before name config = .ok start)
    (said : List (String × Bool)) (reports : List String) (turns more : List Turn) :
    let state := play post (start, ⟨said, after, reports⟩) turns
    SavesSucceed post state more →
      (IsCurrent post (play post state more) ↔ LeaveMark post state more ∨ IsCurrent post state) :=
  fun hsaves =>
    isCurrent_play_iff
      ((isStored_of_load hload hfaithful hfree hstart said reports).1.play post _ turns) hsaves

/-- A line that uses the command. -/
def useCommand : IncomingLine := ⟨⟨"2", "ann", false, false, false⟩, "r!hi"⟩

theorem exists_failed_save :
    ∃ start, Session.start Builtin.catalogue .down 0 [] "room" .initial = .ok start ∧
      (handled offline start newCommand).scene.channel.unsaved = true ∧
      (start.toConfig.commands.get? "hi").isSome = false ∧
      let state := play offline (start, ⟨[], newFiles, []⟩) [.line newCommand ⟨true, some ⟨0, 0⟩⟩]
      let session := handled offline state.1 useCommand
      session.scene.channel.unsaved = false ∧
        (session.toConfig.commands.get? "hi").isSome = true ∧
        (offline.store.save session.toConfig none state.2.files).1 = .ok () := by
  have hrun : (Session.start Builtin.catalogue .down 0 [] "room" .initial).toOption.map (fun s =>
      let state := play offline (s, ⟨[], newFiles, []⟩) [.line newCommand ⟨true, some ⟨0, 0⟩⟩]
      let session := handled offline state.1 useCommand
      ((handled offline s newCommand).scene.channel.unsaved,
        (s.toConfig.commands.get? "hi").isSome, session.scene.channel.unsaved,
        (session.toConfig.commands.get? "hi").isSome,
        (offline.store.save session.toConfig none state.2.files).1)) =
      some (true, false, false, true, .ok ()) := by
    decide +kernel
  cases hstart : Session.start Builtin.catalogue .down 0 [] "room" .initial with
  | error e =>
      rw [hstart] at hrun
      cases hrun
  | ok start =>
      rw [hstart] at hrun
      have hresult := Option.some.inj hrun
      simp only [Prod.mk.injEq] at hresult
      exact ⟨start, rfl, hresult⟩

/-- A command is added while the disk gives up, and then it is used while the disk works. -/
theorem current_iff_of_run_failed_save :
    ∃ start, Session.start Builtin.catalogue .down 0 [] "room" .initial = .ok start ∧
      let state := play offline (start, ⟨[], newFiles, []⟩) [.line newCommand ⟨true, some ⟨0, 0⟩⟩]
      SavesSucceed offline state [.line useCommand {}] ∧
        (IsCurrent offline (play offline state [.line useCommand {}]) ↔
          LeaveMark offline state [.line useCommand {}] ∨ IsCurrent offline state) := by
  obtain ⟨start, hstart, -, -, -, -, hsave⟩ := exists_failed_save
  have hsaves : SavesSucceed offline
      (play offline (start, ⟨[], newFiles, []⟩) [.line newCommand ⟨true, some ⟨0, 0⟩⟩])
      [.line useCommand {}] := ⟨fun _ => hsave, trivial⟩
  exact ⟨start, hstart, hsaves, current_iff_of_run load_new Channel.Config.read?_text_initial
    (Channel.Config.everyOption_empty _) hstart [] [] [.line newCommand ⟨true, some ⟨0, 0⟩⟩]
    [.line useCommand {}] hsaves⟩

/-- The command that is added while the disk gives up is not stored by the line that uses it,
although a save would succeed then. -/
theorem change_lost_after_failed_save :
    ∃ start, Session.start Builtin.catalogue .down 0 [] "room" .initial = .ok start ∧
      let state := play offline (start, ⟨[], newFiles, []⟩) [.line newCommand ⟨true, some ⟨0, 0⟩⟩]
      let done := (work offline {} state.1 useCommand state.2).2
      (offline.store.save done.1.toConfig none state.2.files).1 = .ok () ∧
        done.1.toConfig ≠ start.toConfig ∧
        offline.store.readStored done.2.files ≠ .ok done.1.toConfig := by
  obtain ⟨start, hstart, hchange, hbefore, hline, hafter, hsave⟩ := exists_failed_save
  refine ⟨start, hstart, ?_⟩
  intro state done
  have hdone : done.1.toConfig = (handled offline state.1 useCommand).toConfig := by
    rw [session_work, Session.toConfig_takeUnsaved]
  have hfiles : done.2.files = newFiles := by
    rw [files_work, if_neg (Bool.eq_false_iff.1 hline)]
    rw [show state.2.files = _ from files_work _ _ _ _ _, if_pos hchange]
    rw [Store.save_of_disrupted_at_once (show Path.parent? offline.store.path = some "" by decide)]
  have hnew : offline.store.readStored newFiles = .ok .initial :=
    Store.readStored_of_load_ok load_new Channel.Config.read?_text_initial
  rw [hdone, hfiles, hnew]
  refine ⟨hsave, fun heq => ?_, fun hstored => ?_⟩
  · rw [heq, hbefore] at hafter
    cases hafter
  · have hinitial : (Channel.Config.initial.commands.get? "hi").isSome = false := by decide +kernel
    rw [← Except.ok.inj hstored, hinitial] at hafter
    cases hafter

end Worker

end CommandBot
