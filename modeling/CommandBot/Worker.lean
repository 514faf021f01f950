import CommandBot.Channel.Store
import CommandBot.Router
import CommandBot.Session
import CommandBot.Telemetry

/-!
# The worker of a channel

A worker handles the lines of a channel one after the other. After each line it says the reply if
there is one, saves the config if something in it has changed, and reports a fault that is not the
caller's own. None of this has an effect on how later lines are handled: `Worker.handle` gives the
actions, and `Surroundings.perform` carries them out as the chat and the disk allow.
-/

namespace CommandBot

/-- What a worker does after a line. -/
inductive Action where
  | say (text : String)
  | save (config : Channel.Config)
  | report (text : String)

/-- Whether the chat takes what is said, and whether the disk gives up in a save. -/
structure Conditions where
  chatAccepts : Bool := true
  disruption : Option Disruption := none
  deriving DecidableEq, Repr

/-- What a worker has made of its surroundings: what it has said and whether it was taken, the
files, and the bodies of its reports. -/
structure Surroundings where
  said : List (String × Bool)
  files : FileTree
  reports : List String

namespace Surroundings

/-- Carries out an action. -/
def perform (store : Store) (telemetry : TelemetryConfig) (conditions : Conditions)
    (s : Surroundings) : Action → Surroundings
  | .say text => { s with said := s.said ++ [(text, conditions.chatAccepts)] }
  | .save config => { s with files := (store.save config conditions.disruption s.files).2 }
  | .report text => { s with reports := s.reports ++ (telemetry.errorReport? text).toList }

end Surroundings

namespace Worker

variable {ι : Type}

/-- The report of a fault in a channel. -/
def faultReport (channel : String) (fault : Fault) (line : String) : String :=
  "[" ++ fault.code ++ "] " ++ channel ++ " failed on " ++ Text.quoted line ++ ": "
    ++ fault.message

/-- The text that is reported of an outcome; too few arguments are the caller's own fault. -/
def reportOf (channel line : String) : Outcome → Option String
  | .errored (.insufficientArguments _ _ _) _ => none
  | .errored fault _ => some (faultReport channel fault line)
  | _ => none

/-- What is done after a line, given the session that it leaves. -/
def actions (line : String) (outcome : Outcome) (session : Session ι) : List Action :=
  (outcome.reply.map Action.say).toList
    ++ (if session.scene.channel.unsaved then [.save session.toConfig] else [])
    ++ ((reportOf session.scene.channel.name line outcome).map Action.report).toList

variable [Callable ι]

/-- Handles a line: its outcome, what is done after it, and the session. -/
def handle (network : Network) (patience : Duration) (session : Session ι) (line : IncomingLine) :
    Outcome × List Action × Session ι :=
  let (outcome, session) := session.handle network patience line.author line.body
  (outcome, actions line.body outcome session, session.takeUnsaved.2)

/-- Where a worker keeps the config, and where it reports to. -/
structure Post where
  network : Network
  patience : Duration
  store : Store
  telemetry : TelemetryConfig

/-- Handles a line and carries out what is done after it. -/
def work (post : Post) (conditions : Conditions) (session : Session ι) (line : IncomingLine)
    (s : Surroundings) : Outcome × Session ι × Surroundings :=
  let (outcome, actions, session) := handle post.network post.patience session line
  (outcome, session, actions.foldl (·.perform post.store post.telemetry conditions) s)

/-- Handles lines in order, each under its own conditions. -/
def workAll (post : Post) (session : Session ι) (s : Surroundings) :
    List (IncomingLine × Conditions) → List Outcome × Session ι × Surroundings
  | [] => ([], session, s)
  | (line, conditions) :: rest =>
      let (outcome, session, s) := work post conditions session line s
      let (outcomes, session, s) := workAll post session s rest
      (outcome :: outcomes, session, s)

end Worker

end CommandBot
