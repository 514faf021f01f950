import CommandBot.Channel.Config
import CommandBot.Dispatch
import CommandBot.Module.Kind

/-!
# Sessions

A session is a channel while the bot runs in it. It is started from a config, which has to have a
sigil that is not blank and commands that are valid, and gives back the config that should be
stored.
-/

namespace CommandBot

/-- Why a session does not start. -/
inductive StartError where
  | blankSigil (channel : String)
  | invalidCommand (channel : String) (fault : Fault)
  deriving DecidableEq, Repr

def StartError.message : StartError → String
  | blankSigil channel => s!"channel {channel}: prefix must not be empty"
  | invalidCommand channel fault =>
      s!"channel {channel}: invalid command in config: " ++ fault.message

/-- A channel while the bot runs in it, and the modules that its config asks for. -/
structure Session (ι : Type) where
  scene : Scene ι
  requested : List String

namespace Session

variable {ι : Type}

/-- Starts a session from a config at the given moment. -/
def start (catalogue : Catalogue ι) (network : Network) (now : Instant) (before : List Exchange)
    (name : String) (config : Channel.Config) : Except StartError (Session ι) :=
  if Text.isBlankText config.sigil then .error (.blankSigil name)
  else
    match Commands.ofEntries config.commands.entries with
    | .error fault => .error (.invalidCommand name fault)
    | .ok commands =>
        let loaded := catalogue.load network before config.modules config.options
        let channel := { Channel.start name config.sigil commands now with options := config.options }
        .ok ⟨⟨channel, loaded.modules, now, loaded.exchanges⟩, config.modules⟩

/-- The config that should be stored. -/
def toConfig (s : Session ι) : Channel.Config :=
  ⟨s.scene.channel.sigil, s.scene.channel.commands.toEntries, s.requested, s.scene.channel.options⟩

def mapChannel (s : Session ι) (f : Channel → Channel) : Session ι :=
  { s with scene := { s.scene with channel := f s.scene.channel } }

def mapModules (s : Session ι) (f : Modules ι → Modules ι) : Session ι :=
  { s with scene := { s.scene with modules := f s.scene.modules } }

def advance (s : Session ι) (span : Duration) : Session ι :=
  { s with scene := { s.scene with now := s.scene.now + span } }

/-- Whether something has to be stored; after that nothing has. -/
def takeUnsaved (s : Session ι) : Bool × Session ι :=
  (s.scene.channel.unsaved, s.mapChannel fun c => c.takeUnsaved.2)

/-- Starts again from the config that should be stored. -/
def restart (catalogue : Catalogue ι) (network : Network) (s : Session ι) :
    Except StartError (Session ι) :=
  start catalogue network s.scene.now s.scene.exchanges s.scene.channel.name s.toConfig

variable [Callable ι]

/-- Handles a line. -/
def handle (network : Network) (patience : Duration) (author : Author) (line : String)
    (s : Session ι) : Outcome × Session ι :=
  let (outcome, scene) := Dispatch.dispatch network ⟨author, patience⟩ line s.scene
  (outcome, { s with scene := scene })

end Session

end CommandBot
