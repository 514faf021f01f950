import CommandBot.Module.Kind
import CommandBot.Module.Settings
import CommandBot.Request.Message
import CommandBot.Request.Mods
import CommandBot.Request.Service
import CommandBot.Wording

/-!
# The module `request`

A viewer asks for a beatmap by its link. The module looks the beatmap up, puts a message together
and delivers it. Before it does anything it checks whether the channel takes requests from
privileged viewers only and whether the viewer's last request lies back long enough; only a
delivery that succeeds counts as a request.
-/

namespace CommandBot.Request

def help : String :=
  "Request an osu! beatmap to be played. "
    ++ "Usage: request <beatmap link> <+mods?> (mods: \"request submode\" to toggle submode)"

/-- The settings of the module. -/
structure Settings where
  userId : String
  apiKey : String
  password : String
  targetId : String
  messageFormat : String
  /-- Seconds between two requests of one viewer. -/
  cooldown : Nat
  /-- Whether only privileged viewers may request. -/
  submode : Bool
  apiBase : String
  endpoint : Endpoint
  deriving DecidableEq, Repr

/-- The options of the module before a channel sets any. -/
def defaults : Json.Options :=
  .ofList [
    ("osu_user_id", .string ""),
    ("osu_api_key", .string ""),
    ("osu_irc_pwd", .string ""),
    ("osu_trgt_id", .string ""),
    ("message_format", .string ("&requester& (&requesterstatus&) requested: &map& &mods& "
      ++ "(&length& @ &bpm&BPM, &stars&*, by &creator&)")),
    ("cd_per_user", .integer 0),
    ("submode", .bool false),
    ("api_base", .string "https://osu.ppy.sh/api"),
    ("irc_host", .string "irc.ppy.sh"),
    ("irc_port", .integer 6667)]

/-- Reads the settings from the options, in ascending order of the keys. -/
def readSettings (options : Json.Options) : Except String Settings := do
  let apiBase ← Settings.setting options "api_base" Settings.readString
  let cooldown ← Settings.setting options "cd_per_user"
    (Settings.readInteger (Number.fitsUnsigned 64) "u64")
  let host ← Settings.setting options "irc_host" Settings.readString
  let socket ← Settings.setting options "irc_port"
    (Settings.readInteger (Number.fitsUnsigned 16) "u16")
  let messageFormat ← Settings.setting options "message_format" Settings.readString
  let apiKey ← Settings.setting options "osu_api_key" Settings.readString
  let password ← Settings.setting options "osu_irc_pwd" Settings.readString
  let targetId ← Settings.setting options "osu_trgt_id" Settings.readString
  let userId ← Settings.setting options "osu_user_id" Settings.readString
  let submode ← Settings.setting options "submode" Settings.readBool
  .ok ⟨userId, apiKey, password, targetId, messageFormat, cooldown.toNat, submode, apiBase,
    ⟨host, socket.toNat⟩⟩

/-- What the module keeps between calls. -/
structure State where
  settings : Settings
  service : Service
  identity : Identity
  cooldowns : CallerCooldowns
  deriving DecidableEq, Repr

/-- Looks up the name of a user. -/
def lookUpName (network : Network) (service : Service) (id : String) (before : List Exchange) :
    Except String String × List Exchange :=
  let url := service.userUrl id
  let name := match readAnswer userName? (network.fetch before url).answer with
    | .ok (name :: _) => .ok (deliveryName name)
    | .ok [] => .error s!"no osu! user with id {id}"
    | .error words => .error words
  (name, before ++ [.request url])

/-- Looks up the recipient of the messages, which may be the account of the bot itself. -/
def lookUpRecipient (network : Network) (service : Service) (settings : Settings) (own : String)
    (before : List Exchange) : Except String String × List Exchange :=
  if settings.userId = settings.targetId then (.ok own, before)
  else lookUpName network service settings.targetId before

/-- Looks up who the messages come from and go to. -/
def identify (network : Network) (settings : Settings) (service : Service)
    (before : List Exchange) : Except String State × List Exchange :=
  match lookUpName network service settings.userId before with
  | (.error words, after) =>
      (.error ("could not resolve own osu! username, API key may be invalid: " ++ words), after)
  | (.ok own, after) =>
      match lookUpRecipient network service settings own after with
      | (.error words, after) => (.error ("could not resolve target osu! username: " ++ words), after)
      | (.ok recipient, after) =>
          (.ok ⟨settings, service, ⟨settings.password, own, recipient⟩,
            .start (Duration.seconds settings.cooldown)⟩, after)

def build (network : Network) (before : List Exchange) (options : Json.Options) :
    Except String State × List Exchange :=
  match readSettings options with
  | .error words => (.error ("invalid request config: " ++ words), before)
  | .ok settings =>
      if settings.apiKey.isEmpty then (.error "osu_api_key is not configured", before)
      else identify network settings ⟨Service.trimSlashes settings.apiBase, settings.apiKey⟩ before

/-- Switches between requests from all and from privileged viewers, and stores the choice. -/
def toggleSubmode (state : State) (call : Invocation) : Run State :=
  let submode := !state.settings.submode
  .reply { state with settings := { state.settings with submode := submode } } call
    (call.channel.setOption "request" "submode" (.bool submode))
    (if submode then Wording.submodeEnabled else Wording.submodeDisabled)

/-- Delivers the message about a beatmap. `now` and `before` are the moment and what has gone out
by then. -/
def deliver (network : Network) (state : State) (call : Invocation) (now : Instant)
    (before : List Exchange) (message : String) : Run State :=
  let connection := network.connect before state.settings.endpoint
  let delivery (connected : Bool) : List Exchange :=
    before ++ [.delivery state.settings.endpoint (deliveryText state.identity message) connected]
  let outcome : Run State := match connection.answer with
    | .ok () =>
        .instant
          { state with cooldowns := state.cooldowns.charge call.author.id (now + connection.span) }
          call.channel (delivery true) (.ok (.text Wording.requestSent))
    | .error words =>
        .instant state call.channel (delivery false)
          (.error (.moduleFailed ("osu! message delivery failed: " ++ words)))
  outcome.after ⟨connection.span, ⟨state, call.channel, before⟩⟩

/-- The beatmaps that a call is told of behind a link, or why the look-up fails. -/
def listed (network : Network) (state : State) (call : Invocation) (link : MapLink) :
    Except String (List Beatmap) :=
  readAnswer Beatmap.ofRaw?
    (network.fetch call.exchanges (state.service.mapsUrl link)).answer

/-- The beatmap that a call finds behind a link. Behind a link to a set it is the hardest. -/
def answered? (network : Network) (state : State) (call : Invocation) (link : MapLink) :
    Option Beatmap :=
  (listed network state call link).toOption.bind hardest?

/-- Handles a request for what a link points to. -/
def fulfil (network : Network) (state : State) (call : Invocation) (link : MapLink)
    (mods : String) : Run State :=
  let url := state.service.mapsUrl link
  let span := (network.fetch call.exchanges url).span
  let after := call.exchanges ++ [.request url]
  let outcome : Run State := match answered? network state call link with
    | none => .instant state call.channel after (.ok (.text Wording.noMapInfo))
    | some map =>
        deliver network state call (call.now + span) after
          (formatMessage state.settings.messageFormat map mods call.author)
  outcome.after ⟨span, ⟨state, call.channel, after⟩⟩

/-- Handles a request whose first word is given in lowercase, with the words after it. -/
def handle (network : Network) (state : State) (call : Invocation) (word : String)
    (rest : List String) : Run State :=
  if word = "submode" ∧ call.author.isModerator then toggleSubmode state call
  else
    match parseLink word with
    | none => .reply state call call.channel Wording.badLink
    | some link => fulfil network state call link ((rest.head?.map modsText).getD "")

/-- What the module does when it is called. -/
def run (network : Network) (state : State) (call : Invocation) : Run State :=
  if state.settings.submode && !call.author.isPrivileged then
    .instant state call.channel call.exchanges (.ok .veto)
  else if state.cooldowns.status call.author.id call.now ≠ .ready then
    .instant state call.channel call.exchanges (.ok .veto)
  else
    match call.args with
    | [] => .reply state call call.channel Wording.noMap
    | word :: rest => handle network state call (Text.lower word) rest

def kind : Kind State := ⟨"request", help, .upTo 2, false, defaults, build⟩

end CommandBot.Request
