import CommandBot.CommandLine
import CommandBot.Console
import CommandBot.Module.Builtin
import CommandBot.Text.Utf8
import CommandBot.Worker

/-!
# Starting up

The bot reads its config, makes room for its log, loads the config of the channel that the terminal
drives and starts a session in it. What goes wrong on the way ends it with an `Exit`. `Startup.run`
is a whole run of the program: it starts the bot and lets a worker handle what is typed.
-/

namespace CommandBot

/-- How a run of the program ends. -/
inductive Exit where
  | done
  | failed
  | misused
  | broken
  deriving DecidableEq, Repr

def Exit.code : Exit → Nat
  | done => 0
  | failed => 1
  | misused => 2
  | broken => 101

/-- A channel that is ready for the lines that are typed. -/
structure Ready where
  channel : String
  author : Author
  post : Worker.Post
  capacity : Nat
  session : Session Builtin

namespace Startup

/-- The name of the log in the data directory. -/
def logName : String := "session.log"

/-- The channel of the terminal, if neither the command line nor the config names one. -/
def consoleChannel : String := "console"

def readConfig (path : String) (t : FileTree) : Option AppConfig :=
  (t.read? path).bind String.fromUTF8? |>.bind AppConfig.read?

/-- Makes the data directory and an empty log in it. A log of a run before is removed; something
else that has its name cannot be written to. -/
def openLog (directory : String) (t : FileTree) : Except Exit Unit × FileTree :=
  match t.createDirectories directory with
  | (false, t) => (.error .failed, t)
  | (true, t) =>
      match t.write? (Path.join directory logName) .empty with
      | some t => (.ok (), t)
      | none => (.error .broken, t)

/-- The channel that the terminal drives: that of the command line, or else the first of the
config. -/
def channelOf (options : Options) (config : AppConfig) : String :=
  (options.channel <|> (config.channels.entries.head?.map (·.1))).getD consoleChannel

/-- Where the config of that channel is stored. -/
def storeOf (config : AppConfig) (channel : String) : Store :=
  ⟨config.channelPath ((config.channels.get? channel).getD s!"channels/{consoleChannel}.json")⟩

/-- Loads the config of a channel and starts a session in it. -/
def openSession (network : Network) (channel : String) (store : Store) (t : FileTree) :
    Except Exit (Session Builtin) × FileTree :=
  match store.load none t with
  | (.error _, t) => (.error .failed, t)
  | (.ok config, t) =>
      match Session.start Builtin.catalogue network 0 [] channel config with
      | .error _ => (.error .failed, t)
      | .ok session => (.ok session, t)

/-- Makes the channel of the terminal ready. -/
def prepare (network : Network) (options : Options) (config : AppConfig) (t : FileTree) :
    Except Exit Ready × FileTree :=
  let channel := channelOf options config
  let store := storeOf config channel
  match openSession network channel store t with
  | (.error e, t) => (.error e, t)
  | (.ok session, t) =>
      match Queue.checkCapacity config.engine.queueCapacity with
      | .error _ => (.error .broken, t)
      | .ok () =>
          let author : Author := ⟨options.user, options.user, options.moderator, false, false⟩
          let post : Worker.Post :=
            ⟨network, Duration.seconds config.engine.moduleTimeout, store, config.telemetry⟩
          (.ok ⟨channel, author, post, config.engine.queueCapacity, session⟩, t)

/-- Starts the bot. There is no connection to a chat server, so that only the terminal is of use. -/
def start (network : Network) (options : Options) (t : FileTree) :
    Except Exit Ready × FileTree :=
  match readConfig options.config t with
  | none => (.error .failed, t)
  | some config =>
      match openLog config.dataDirectory t with
      | (.error e, t) => (.error e, t)
      | (.ok (), t) =>
          if options.console || config.transport == .console then
            prepare network options config t
          else (.error .failed, t)

/-- Handles what is typed, and gives what is printed. -/
def serve (ready : Ready) (input : String) (t : FileTree) : String × FileTree :=
  match Queue.create ready.capacity with
  | .error _ => ("", t)
  | .ok queue =>
      let feed : Console.Feed := ⟨Console.chatLines ready.author input, queue⟩
      let lines := feed.delivered.map fun line => (line, ({} : Conditions))
      let (_, _, after) := Worker.workAll ready.post ready.session ⟨[], t, []⟩ lines
      let output := after.said.map fun entry => Console.printed ready.channel entry.1
      (String.join output, after.files)

/-- A run of the program: how it ends, what it prints, and the files that it leaves. -/
def run (network : Network) (arguments : List String) (input : String) (t : FileTree) :
    Exit × String × FileTree :=
  match CommandLine.request arguments with
  | .misuse => (.misused, "", t)
  | .help => (.done, CommandLine.helpText, t)
  | .version => (.done, CommandLine.versionText, t)
  | .run options =>
      match start network options t with
      | (.error e, t) => (e, "", t)
      | (.ok ready, t) =>
          let (output, t) := serve ready input t
          (.done, output, t)

end Startup

end CommandBot
