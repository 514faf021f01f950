import CommandBot.Proofs.Request.Settings
import CommandBot.Proofs.Session.Options

/-!
# The submode that runs and the one that is stored

Whether only privileged viewers may request is kept twice: in the running module `request`, which
acts on it, and among the stored options, from which the module is built at the next start. A
switch changes both. No line ever changes one of them alone (`RunsAsStored.dispatch`), so that a
start at any moment builds the module as it runs (`running_submode_is_stored`).
-/

namespace CommandBot

namespace Builtin

/-- No module but `request` changes options. -/
theorem Deed.options_eq {call : Invocation} {body after : Builtin} {channel : Channel}
    (h : Deed call body after channel) (hhome : body.home ≠ "request") :
    channel.options = call.channel.options := by
  cases h with
  | nothing => rfl
  | charged => rfl
  | defined => rfl
  | removed => rfl
  | resigned => rfl
  | toggled => exact absurd rfl hhome

/-- What the module `request` makes of itself is as built from the options that it leaves. -/
theorem Deed.isBuiltFrom {call : Invocation} {state : Request.State} {after : Builtin}
    {channel : Channel} (h : Deed call (.request state) after channel)
    (hstate : state.IsBuiltFrom (Request.kind.inEffect call.channel.options)) :
    ∃ state', after = .request state' ∧
      state'.IsBuiltFrom (Request.kind.inEffect channel.options) := by
  cases h with
  | nothing => exact ⟨state, rfl, hstate⟩
  | charged _ cooldowns => exact ⟨_, rfl, hstate.settings, hstate.keyed, hstate.service⟩
  | toggled _ submode hmod =>
      have hget := Request.kind.get?_inEffect_setOption call.channel
        ⟨"request", "submode", .bool submode⟩
      have hlower : Text.lower "request" = "request" := by decide +kernel
      refine ⟨_, rfl, hstate.switch ?_ fun key hkey => ?_⟩
      · rw [hget, if_pos (by simp [OptionChange.concerns, hlower, Request.kind])]
      · rw [hget, if_neg (by simp [OptionChange.concerns, Ne.symm hkey])]

theorem request_mem_catalogue : Request.kind.map Builtin.request ∈ catalogue := by
  simp [catalogue]

theorem exists_of_build_request {network : Network} {before : List Exchange}
    {options : Json.Options} {body : Builtin}
    (h : ((Request.kind.map Builtin.request).build network before options).1 = .ok body) :
    ∃ state, body = .request state ∧ (Request.build network before options).1 = .ok state := by
  change (Request.build network before options).1.map Builtin.request = .ok body at h
  cases hbuild : (Request.build network before options).1 with
  | error words =>
      rw [hbuild] at h
      cases h
  | ok state =>
      rw [hbuild] at h
      exact ⟨state, (Except.ok.inj h).symm, rfl⟩

end Builtin

/-- The state of the module `request`, if it is loaded. -/
def runningRequest? (scene : Scene Builtin) : Option Request.State :=
  match scene.modules.slots.get? "request" with
  | some (.loaded ⟨_, _, _, .request state⟩) => some state
  | _ => none

theorem runningRequest?_eq_some_iff {scene : Scene Builtin} {state : Request.State} :
    runningRequest? scene = some state ↔
      ∃ m, scene.modules.slots.get? "request" = some (.loaded m) ∧ m.body = .request state := by
  unfold runningRequest?
  constructor
  · intro h
    split at h
    · rename_i hslot
      obtain rfl := Option.some.inj h
      exact ⟨_, hslot, rfl⟩
    · cases h
  · rintro ⟨⟨_, _, _, _⟩, hslot, rfl⟩
    rw [hslot]

/-- The module `request` runs as if built from the options that are stored, and every module stands
under its own name. -/
structure RunsAsStored (scene : Scene Builtin) : Prop where
  resident : scene.modules.Every Builtin.IsResident
  running : ∃ state, runningRequest? scene = some state ∧
    state.IsBuiltFrom (Request.kind.inEffect scene.channel.options)

/-- A call keeps the module and the options in step, whichever module it calls. -/
theorem RunsAsStored.callModule {scene : Scene Builtin} (h : RunsAsStored scene) {name : String}
    {m : Module Builtin} (hlookup : scene.modules.lookup name = .ok m) (network : Network)
    (request : Template.Request) (args : List String) :
    RunsAsStored (Template.callModule network request name m args scene).2 := by
  have hbody : m.body.IsResident (Text.lower name) := h.resident.of_lookup hlookup
  obtain ⟨e, hdeed, hchannel, hmodules, -⟩ := Template.callModule_of_always
    (Builtin.always_deed network m.body (Template.invocation request args scene)) name
  refine ⟨?_, ?_⟩
  · rw [hmodules]
    exact h.resident.setBody (hdeed.isResident hbody) m
  obtain ⟨state, hrunning, hstate⟩ := h.running
  simp only [runningRequest?_eq_some_iff] at hrunning ⊢
  obtain ⟨running, hslot, hrequest⟩ := hrunning
  rw [hchannel, hmodules, Modules.setBody]
  -- a call of `request` may change the module and the options, one of another module neither
  by_cases hname : Text.lower name = "request"
  · obtain rfl : m = running := by
      have hget := Modules.get?_of_lookup hlookup
      rw [hname, hslot] at hget
      exact (Slot.loaded.inj (Option.some.inj hget)).symm
    rw [hrequest] at hdeed
    obtain ⟨state', hafter, hstate'⟩ := hdeed.isBuiltFrom hstate
    exact ⟨state', ⟨_, by rw [hname, KeyMap.get?_insert_self], hafter⟩, hstate'⟩
  · have hoptions := hdeed.options_eq (hbody.home.trans_ne hname)
    rw [hoptions, KeyMap.get?_insert_of_ne _ _ (Ne.symm hname)]
    exact ⟨state, ⟨running, hslot, hrequest⟩, hstate⟩

theorem RunsAsStored.dispatch {scene : Scene Builtin} (h : RunsAsStored scene) (network : Network)
    (request : Template.Request) (line : String) :
    RunsAsStored (Dispatch.dispatch network request line scene).2 :=
  Dispatch.dispatch_induction h (fun _ hscene => ⟨hscene.resident, hscene.running⟩)
    fun _ _ _ _ _ _ _ taken _ hlookup _ hcurrent =>
      hcurrent.callModule hlookup network request taken

namespace Session

/-- A module `request` that a new session has runs as stored. -/
theorem runsAsStored_of_start {network : Network} {now : Instant} {before : List Exchange}
    {name : String} {config : Channel.Config} {s : Session Builtin}
    (h : start Builtin.catalogue network now before name config = .ok s) {m : Module Builtin}
    (hloaded : s.scene.modules.slots.get? "request" = some (.loaded m)) :
    RunsAsStored s.scene := by
  have hresident := resident_of_start h
  have hoptions := options_of_start h
  obtain ⟨-, -, -, -, hmodules, -⟩ := start_eq_ok h
  obtain ⟨sofar, hplace⟩ := Catalogue.eq_of_get?_load Builtin.isProper_catalogue
    Builtin.request_mem_catalogue (by rw [← hmodules]; exact hloaded)
  obtain ⟨body, hbuild, hbody⟩ := Kind.exists_of_place_eq_loaded hplace.symm
  obtain ⟨state, rfl, hstate⟩ := Builtin.exists_of_build_request hbuild
  refine ⟨hresident, state, runningRequest?_eq_some_iff.2 ⟨m, hloaded, hbody⟩, ?_⟩
  rw [hoptions]
  exact (Request.eq_of_build hstate).1

theorem runsAsStored_play {s : Session Builtin} (h : RunsAsStored s.scene) (network : Network)
    (patience : Duration) (turns : List Turn) :
    RunsAsStored (s.play network patience turns).scene := by
  refine play_induction (p := fun s => RunsAsStored s.scene) (fun turn _ s hs => ?_) h
  cases turn with
  | line author text => exact hs.dispatch network ⟨author, patience⟩ text
  | wait span => exact ⟨hs.resident, hs.running⟩

theorem IsRestartable.play {s : Session Builtin} (h : s.IsRestartable) (network : Network)
    (patience : Duration) (turns : List Turn) : (s.play network patience turns).IsRestartable :=
  play_induction (fun turn _ _ hs => hs.move network patience (.turn turn)) h

theorem isSound_play {s : Session Builtin} (h : IsSound s.scene) (network : Network)
    (patience : Duration) (turns : List Turn) : IsSound (s.play network patience turns).scene := by
  refine play_induction (p := fun s => IsSound s.scene) (fun turn _ s hs => ?_) h
  cases turn with
  | line author text => exact isSound_handle hs network patience author text
  | wait span => exact isSound_advance hs span

theorem requested_play (s : Session Builtin) (network : Network) (patience : Duration)
    (turns : List Turn) : (s.play network patience turns).requested = s.requested := by
  refine play_induction (p := fun t => t.requested = s.requested) (fun turn _ t ht => ?_) rfl
  cases turn with
  | line author text => exact ht
  | wait span => exact ht

/-- A session whose module `request` runs as stored builds it, when it is started again, of the
settings with which it runs. -/
theorem exists_start_of_isBuiltFrom {s : Session Builtin} (h : s.IsRestartable)
    (hwanted : (Request.kind.map Builtin.request).IsWanted s.requested) {state : Request.State}
    (hstate : state.IsBuiltFrom (Request.kind.inEffect s.scene.channel.options))
    (network : Network) (now : Instant) (before : List Exchange) (name : String) :
    ∃ fresh sofar, start Builtin.catalogue network now before name s.toConfig = .ok fresh ∧
      fresh.scene.modules.slots.get? "request" = some ((Request.kind.map .request).place
        ((Request.identify network state.settings state.service sofar).1.map .request)) ∧
      ∀ state', runningRequest? fresh.scene = some state' →
        state'.settings = state.settings ∧
        ∀ author, state'.isClosedTo author = state.isClosedTo author := by
  obtain ⟨fresh, hfresh, hcontinued⟩ :=
    exists_isContinuedBy h.channel Builtin.catalogue network now before name
  obtain ⟨sofar, hplace⟩ := get?_of_start hfresh Builtin.request_mem_catalogue hwanted
  refine ⟨fresh, sofar, hfresh, ?_, fun state' hstate' => ?_⟩
  · rw [← hstate.build_eq network sofar, ← hcontinued.options, options_of_start hfresh]
    exact hplace
  · obtain ⟨m, hloaded, -⟩ := runningRequest?_eq_some_iff.1 hstate'
    obtain ⟨built, hbuilt, hsame⟩ := (runsAsStored_of_start hfresh hloaded).running
    obtain rfl := Option.some.inj (hstate'.symm.trans hbuilt)
    rw [hcontinued.options] at hsame
    have hsettings : state'.settings = state.settings := hsame.settings.unique hstate.settings
    exact ⟨hsettings, fun author => by rw [Request.State.isClosedTo, hsettings]; rfl⟩

/-- However a session that has the module `request` goes on: the submode of the running module is
that of the options in effect, and so are all its settings. At any moment the config can be stored,
if it could be at first, and the session started again from it. The module is then built of the
settings with which it runs, which fails at most in the look-up of the names, and takes requests of
the same viewers as before. -/
theorem running_submode_is_stored {network : Network} {now : Instant} {before : List Exchange}
    {name : String} {config : Channel.Config} {s : Session Builtin} {m : Module Builtin}
    (hfits : ∀ name entry, config.commands.get? name = some entry → entry.Fits)
    (hstart : start Builtin.catalogue network now before name config = .ok s)
    (hloaded : s.scene.modules.slots.get? "request" = some (.loaded m))
    (surroundings : Network) (patience : Duration) (turns : List Turn) :
    let t := s.play surroundings patience turns
    let inEffect := Request.kind.inEffect t.scene.channel.options
    (Channel.Config.FloatFree config.options → Channel.Config.ReadsBack config.options →
      Channel.Config.read? t.toConfig.text = some t.toConfig) ∧
    ∃ state, runningRequest? t.scene = some state ∧
      inEffect.get? "submode" = some (.bool state.settings.submode) ∧
      Request.readSettings inEffect = .ok state.settings ∧
      ∀ network now before name, ∃ fresh sofar,
        start Builtin.catalogue network now before name t.toConfig = .ok fresh ∧
        fresh.scene.modules.slots.get? "request" = some ((Request.kind.map .request).place
          ((Request.identify network state.settings state.service sofar).1.map .request)) ∧
        ∀ state', runningRequest? fresh.scene = some state' →
          state'.settings = state.settings ∧
          ∀ author, state'.isClosedTo author = state.isClosedTo author := by
  intro t inEffect
  obtain ⟨state, hrunning, hstate⟩ :=
    (runsAsStored_play (runsAsStored_of_start hstart hloaded) surroundings patience turns).running
  have hrestartable : t.IsRestartable :=
    (isRestartable_of_start hstart hfits).play surroundings patience turns
  obtain ⟨-, -, -, -, hmodules, hrequested⟩ := start_eq_ok hstart
  have hwanted : (Request.kind.map Builtin.request).IsWanted t.requested := by
    rw [requested_play, hrequested]
    rw [hmodules] at hloaded
    exact Catalogue.isWanted_of_get?_load Builtin.isProper_catalogue Builtin.request_mem_catalogue
      hloaded
  have hread : Channel.Config.FloatFree config.options → Channel.Config.ReadsBack config.options →
      Channel.Config.read? t.toConfig.text = some t.toConfig := fun hfree hback =>
    have hsound := isSound_of_start hstart hfits hfree hback
    read?_text_toConfig (isSound_play hsound surroundings patience turns).channel
  exact ⟨hread, state, hrunning, hstate.settings.submode,
    Request.readSettings_eq_ok_iff.2 hstate.settings,
    exists_start_of_isBuiltFrom hrestartable hwanted hstate⟩

/-- A service that knows one user. -/
def oneUserNetwork : Network :=
  ⟨fun _ _ => ⟨0, .ok ⟨200, "[\x7b\"username\":\"bot\"\x7d]"⟩⟩, fun _ _ => ⟨0, .ok ()⟩⟩

/-- A moderator switches the submode on, and the bot is started again. -/
theorem running_submode_is_stored_switched :
    let config : Channel.Config :=
      ⟨"r!", .ofList [("req", { response := "&request&" })], ["Request"],
        .ofList [("request", .ofList [("osu_api_key", .string "key")])]⟩
    let switch : Turn := .line ⟨"1", "mod", true, false, false⟩ "r!req submode"
    let viewer : Author := ⟨"2", "viewer", false, false, false⟩
    ∃ s m, start Builtin.catalogue oneUserNetwork 0 [] "room" config = .ok s ∧
      s.scene.modules.slots.get? "request" = some (.loaded m) ∧
      let t := s.play oneUserNetwork 0 [switch]
      (Request.kind.inEffect t.scene.channel.options).get? "submode" = some (.bool true) ∧
      Channel.Config.read? t.toConfig.text = some t.toConfig ∧
      ∃ fresh, start Builtin.catalogue oneUserNetwork 0 [] "room" t.toConfig = .ok fresh ∧
        ∀ state, runningRequest? fresh.scene = some state → state.isClosedTo viewer = true := by
  intro config switch viewer
  have hrun : (start Builtin.catalogue oneUserNetwork 0 [] "room" config).toOption.map (fun s =>
      ((runningRequest? s.scene).map (·.settings.submode),
        (runningRequest? (s.play oneUserNetwork 0 [switch]).scene).map (·.settings.submode))) =
      some (some false, some true) := by
    decide +kernel
  obtain ⟨s, hstart, hsubmode⟩ := exists_of_toOption_map_eq_some hrun
  obtain ⟨hbefore, hafter⟩ := Prod.mk.inj hsubmode
  obtain ⟨first, hfirst, -⟩ := Option.map_eq_some_iff.1 hbefore
  obtain ⟨m, hloaded, -⟩ := runningRequest?_eq_some_iff.1 hfirst
  have hfits : ∀ name entry, config.commands.get? name = some entry → entry.Fits := by
    intro name entry hget
    have hall : ∀ e ∈ config.commands.entries, e.2.Fits := by decide +kernel
    exact hall _ (KeyMap.mem_of_get? hget)
  have hvalues : ∀ p : Json → Prop, p (.string "key") → EveryOption p config.options := by
    intro p hp name set hset key value hvalue
    obtain ⟨-, rfl⟩ := Prod.mk.inj (List.mem_singleton.1 (KeyMap.mem_of_get? hset))
    obtain ⟨-, rfl⟩ := Prod.mk.inj (List.mem_singleton.1 (KeyMap.mem_of_get? hvalue))
    exact hp
  obtain ⟨hread, state, hrunning, hstored, -, hrestart⟩ :=
    running_submode_is_stored hfits hstart hloaded oneUserNetwork 0 [switch]
  have htrue : state.settings.submode = true := by
    rw [hrunning] at hafter
    exact Option.some.inj hafter
  obtain ⟨fresh, -, hfresh, -, hsame⟩ := hrestart oneUserNetwork 0 [] "room"
  refine ⟨s, m, hstart, hloaded, by rw [hstored, htrue], hread (hvalues _ trivial) (hvalues _ rfl),
    fresh, hfresh, fun state' hstate' => ?_⟩
  rw [(hsame state' hstate').2 viewer, Request.State.isClosedTo, htrue]
  rfl

end Session

end CommandBot
