import CommandBot.Proofs.Module.Loading
import CommandBot.Request.Basic

/-!
# The settings of requests

The module `request` reads its settings from its options, each of the type that it has to have
(`readSettings_eq_ok_iff`), and switches one of them, the submode, while it runs. What is built from
options has the settings that are read from them (`eq_of_build`); a module whose submode is
switched is as built from the options with the other submode (`State.IsBuiltFrom.switch`).
-/

namespace CommandBot

namespace Request

/-- Each option has the type of its setting and is the setting. -/
structure Settings.IsReadFrom (settings : Settings) (options : Json.Options) : Prop where
  apiBase : options.get? "api_base" = some (.string settings.apiBase)
  cooldown : options.get? "cd_per_user" = some (.integer settings.cooldown) ∧
    Number.fitsUnsigned 64 settings.cooldown = true
  host : options.get? "irc_host" = some (.string settings.endpoint.host)
  socket : options.get? "irc_port" = some (.integer settings.endpoint.socket) ∧
    Number.fitsUnsigned 16 settings.endpoint.socket = true
  messageFormat : options.get? "message_format" = some (.string settings.messageFormat)
  apiKey : options.get? "osu_api_key" = some (.string settings.apiKey)
  password : options.get? "osu_irc_pwd" = some (.string settings.password)
  targetId : options.get? "osu_trgt_id" = some (.string settings.targetId)
  userId : options.get? "osu_user_id" = some (.string settings.userId)
  submode : options.get? "submode" = some (.bool settings.submode)

theorem toNat_of_fitsUnsigned {bits : Nat} {n : Int} (h : Number.fitsUnsigned bits n = true) :
    (n.toNat : Int) = n := by
  simp only [Number.fitsUnsigned, Bool.and_eq_true, decide_eq_true_eq] at h
  exact Int.toNat_of_nonneg h.1

theorem readSettings_eq_ok_iff {options : Json.Options} {settings : Settings} :
    readSettings options = .ok settings ↔ settings.IsReadFrom options := by
  unfold readSettings
  constructor
  · intro h
    obtain ⟨apiBase, hapiBase, h⟩ := exists_of_bind_eq_ok h
    obtain ⟨cooldown, hcooldown, h⟩ := exists_of_bind_eq_ok h
    obtain ⟨host, hhost, h⟩ := exists_of_bind_eq_ok h
    obtain ⟨socket, hsocket, h⟩ := exists_of_bind_eq_ok h
    obtain ⟨messageFormat, hmessageFormat, h⟩ := exists_of_bind_eq_ok h
    obtain ⟨apiKey, hapiKey, h⟩ := exists_of_bind_eq_ok h
    obtain ⟨password, hpassword, h⟩ := exists_of_bind_eq_ok h
    obtain ⟨targetId, htargetId, h⟩ := exists_of_bind_eq_ok h
    obtain ⟨userId, huserId, h⟩ := exists_of_bind_eq_ok h
    obtain ⟨submode, hsubmode, h⟩ := exists_of_bind_eq_ok h
    obtain rfl := Except.ok.inj h
    have hcooldown := Settings.setting_readInteger_iff.1 hcooldown
    have hsocket := Settings.setting_readInteger_iff.1 hsocket
    rw [← toNat_of_fitsUnsigned hcooldown.2] at hcooldown
    rw [← toNat_of_fitsUnsigned hsocket.2] at hsocket
    exact
      { apiBase := Settings.setting_readString_iff.1 hapiBase
        cooldown := hcooldown
        host := Settings.setting_readString_iff.1 hhost
        socket := hsocket
        messageFormat := Settings.setting_readString_iff.1 hmessageFormat
        apiKey := Settings.setting_readString_iff.1 hapiKey
        password := Settings.setting_readString_iff.1 hpassword
        targetId := Settings.setting_readString_iff.1 htargetId
        userId := Settings.setting_readString_iff.1 huserId
        submode := Settings.setting_readBool_iff.1 hsubmode }
  · intro h
    rw [Settings.setting_readString_iff.2 h.apiBase, Settings.setting_readInteger_iff.2 h.cooldown,
      Settings.setting_readString_iff.2 h.host, Settings.setting_readInteger_iff.2 h.socket,
      Settings.setting_readString_iff.2 h.messageFormat, Settings.setting_readString_iff.2 h.apiKey,
      Settings.setting_readString_iff.2 h.password, Settings.setting_readString_iff.2 h.targetId,
      Settings.setting_readString_iff.2 h.userId, Settings.setting_readBool_iff.2 h.submode]
    rfl

theorem Settings.IsReadFrom.unique {settings settings' : Settings} {options : Json.Options}
    (h : settings.IsReadFrom options) (h' : settings'.IsReadFrom options) : settings = settings' :=
  Except.ok.inj ((readSettings_eq_ok_iff.2 h).symm.trans (readSettings_eq_ok_iff.2 h'))

/-- The settings with another submode. -/
def Settings.switched (settings : Settings) (submode : Bool) : Settings :=
  { settings with submode := submode }

/-- How the web service is reached under the settings. -/
def Settings.service (settings : Settings) : Service :=
  ⟨Service.trimSlashes settings.apiBase, settings.apiKey⟩

/-- Options that differ in nothing but the submode are read as settings that do. -/
theorem Settings.IsReadFrom.switched {settings : Settings} {options options' : Json.Options}
    (h : settings.IsReadFrom options) {submode : Bool}
    (hsubmode : options'.get? "submode" = some (.bool submode))
    (hothers : ∀ key ≠ "submode", options'.get? key = options.get? key) :
    (settings.switched submode).IsReadFrom options' where
  apiBase := (hothers _ (by decide)).trans h.apiBase
  cooldown := ⟨(hothers _ (by decide)).trans h.cooldown.1, h.cooldown.2⟩
  host := (hothers _ (by decide)).trans h.host
  socket := ⟨(hothers _ (by decide)).trans h.socket.1, h.socket.2⟩
  messageFormat := (hothers _ (by decide)).trans h.messageFormat
  apiKey := (hothers _ (by decide)).trans h.apiKey
  password := (hothers _ (by decide)).trans h.password
  targetId := (hothers _ (by decide)).trans h.targetId
  userId := (hothers _ (by decide)).trans h.userId
  submode := hsubmode

/-- Whether the module takes no requests of the author at the moment. -/
def State.isClosedTo (state : State) (author : Author) : Bool :=
  state.settings.submode && !author.isPrivileged

/-- The running module has the settings that the options are read as. -/
structure State.IsBuiltFrom (state : State) (options : Json.Options) : Prop where
  settings : state.settings.IsReadFrom options
  keyed : state.settings.apiKey.isEmpty = false
  service : state.service = state.settings.service

theorem eq_of_identify {network : Network} {settings : Settings} {service : Service}
    {before : List Exchange} {state : State}
    (h : (identify network settings service before).1 = .ok state) :
    state.settings = settings ∧ state.service = service ∧
      state.cooldowns = .start (Duration.seconds settings.cooldown) := by
  unfold identify at h
  split at h
  · cases h
  · split at h
    · cases h
    · obtain rfl := Except.ok.inj h
      exact ⟨rfl, rfl, rfl⟩

theorem eq_of_build {network : Network} {before : List Exchange} {options : Json.Options}
    {state : State} (h : (build network before options).1 = .ok state) :
    state.IsBuiltFrom options ∧
      state.cooldowns = .start (Duration.seconds state.settings.cooldown) := by
  unfold build at h
  split at h
  · cases h
  · rename_i settings hsettings
    split at h
    · cases h
    · rename_i hkeyed
      obtain ⟨rfl, hservice, hcooldowns⟩ := eq_of_identify h
      exact ⟨⟨readSettings_eq_ok_iff.1 hsettings, by simpa using hkeyed, hservice⟩, hcooldowns⟩

namespace State.IsBuiltFrom

variable {state : State} {options : Json.Options}

/-- Building the module again fails at most in finding out who delivers the messages to whom. -/
theorem build_eq (h : state.IsBuiltFrom options) (network : Network) (before : List Exchange) :
    build network before options = identify network state.settings state.service before := by
  unfold build
  rw [readSettings_eq_ok_iff.2 h.settings, h.service]
  simp only [h.keyed]
  rfl

theorem switch (h : state.IsBuiltFrom options) {options' : Json.Options} {submode : Bool}
    (hsubmode : options'.get? "submode" = some (.bool submode))
    (hothers : ∀ key ≠ "submode", options'.get? key = options.get? key) :
    IsBuiltFrom { state with settings := state.settings.switched submode } options' :=
  ⟨h.settings.switched hsubmode hothers, h.keyed, h.service⟩

end State.IsBuiltFrom

end Request

end CommandBot
