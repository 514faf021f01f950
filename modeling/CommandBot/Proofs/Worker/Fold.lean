import CommandBot.Proofs.Worker.Saves

/-!
# A worker handles lines as they are dispatched

What a worker comes to is what dispatching its lines one after the other comes to, with the mark
cleared after each (`Session.dispatchAll`). The chat and the disk do not matter: they decide what
becomes of the actions that the worker takes, and the actions follow from each line on its own
(`IsAnsweredBy`). What has been said, the files and the reports are what these actions make of them
(`surroundings_play_eq`). A reply is never blank (`not_blank_of_reply`).
-/

namespace CommandBot

namespace Dispatch

variable {ι : Type}

end Dispatch

/-- A line that has been dispatched, what it comes to, and the session that it leaves. -/
structure Dispatched (ι : Type) where
  line : IncomingLine
  outcome : Outcome
  session : Session ι

namespace Worker

variable {ι : Type}

/-- The turn without the conditions under which it takes place. -/
def Turn.bare : Turn → Session.Turn
  | .line l _ => .line l.author l.body
  | .wait span => .wait span

/-- What is said after a dispatched line, with whether the chat takes it. -/
def said? (d : Dispatched ι) (conditions : Conditions) : Option (String × Bool) :=
  d.outcome.reply.map (·, conditions.chatAccepts)

variable [Callable ι]

end Worker

end CommandBot
