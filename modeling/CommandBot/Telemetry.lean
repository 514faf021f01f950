import CommandBot.AppConfig
import CommandBot.Json.Printer

/-!
# Reports

Trouble is reported to a webhook, if the config names one and its level asks for it. A report is a
JSON object with a text and the name under which it is posted.
-/

namespace CommandBot

def version : String := "0.1.0"

namespace TelemetryConfig

/-- Whether there is somewhere to report to, and the level asks for it. -/
def reportsAt (c : TelemetryConfig) (level : Nat) : Bool := level ≤ c.level && c.webhook.isSome

/-- The body of a report. -/
def body (c : TelemetryConfig) (text : String) : String :=
  (Json.object [("content", .string text), ("username", .string c.username)]).compact

/-- The report of an error, if errors are reported. -/
def errorReport? (c : TelemetryConfig) (text : String) : Option String :=
  if c.reportsAt 1 then some (c.body text) else none

/-- The report of a start, if starts are reported. -/
def startReport? (c : TelemetryConfig) : Option String :=
  if c.reportsAt 2 then some (c.body s!"New instance started with version {version}") else none

end TelemetryConfig

end CommandBot
