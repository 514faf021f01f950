import CommandBot.AppConfig

/-!
# Routing

The lines of a chat server are sorted into the queues of the rooms that the bot serves. A queue
holds so many lines and no more; a line that finds it full, or finds that nobody receives from it
any longer, is dropped. Lines leave a queue in the order in which they came.
-/

namespace CommandBot

/-- A line that waits to be handled. -/
structure IncomingLine where
  author : Author
  body : String
  deriving DecidableEq, Repr

/-- The lines that wait in a room. -/
structure Queue where
  capacity : Nat
  waiting : List IncomingLine
  /-- Whether somebody receives from it. -/
  isOpen : Bool
  deriving DecidableEq, Repr

/-- Why there can be no queue. -/
inductive QueueError where
  | zeroCapacity
  | capacityTooLarge
  deriving DecidableEq, Repr

namespace QueueError

def message : QueueError → String
  | zeroCapacity => "mpsc bounded channel requires buffer > 0"
  | capacityTooLarge =>
      "a semaphore may not have more than MAX_PERMITS permits (2305843009213693951)"

end QueueError

namespace Queue

def maxCapacity : Nat := Number.twoPow 61 - 1

/-- Whether a queue may have this capacity. -/
def checkCapacity (capacity : Nat) : Except QueueError Unit :=
  if capacity = 0 then .error .zeroCapacity
  else if maxCapacity < capacity then .error .capacityTooLarge
  else .ok ()

/-- A queue in which nothing waits. -/
def create (capacity : Nat) : Except QueueError Queue :=
  (checkCapacity capacity).map fun _ => ⟨capacity, [], true⟩

/-- Puts a line at the end, if there is room and somebody receives. -/
def push? (q : Queue) (line : IncomingLine) : Option Queue :=
  if q.isOpen && q.waiting.length < q.capacity then
    some { q with waiting := q.waiting ++ [line] }
  else none

def pop (q : Queue) : Option IncomingLine × Queue :=
  match q.waiting with
  | [] => (none, q)
  | line :: rest => (some line, { q with waiting := rest })

/-- Nobody receives any longer, and what waits is lost. -/
def close (q : Queue) : Queue := { q with waiting := [], isOpen := false }

theorem push?_eq_some_iff (q after : Queue) (line : IncomingLine) :
    q.push? line = some after ↔
      q.isOpen = true ∧ q.waiting.length < q.capacity ∧
        after = { q with waiting := q.waiting ++ [line] } := by
  simp only [push?, Bool.and_eq_true, decide_eq_true_eq]
  constructor
  · intro h
    split at h
    · rename_i room
      exact ⟨room.1, room.2, (Option.some.inj h).symm⟩
    · cases h
  · rintro ⟨isOpen, room, rfl⟩
    rw [if_pos ⟨isOpen, room⟩]

theorem pop_waiting (q : Queue) : q.pop.1.toList ++ q.pop.2.waiting = q.waiting := by
  unfold pop
  split
  · rename_i h
    simp [h]
  · rename_i h
    simp [h]

end Queue

/-- The queues of the rooms. -/
structure Router where
  config : AppConfig
  queues : KeyMap Queue

namespace Router

def handles (r : Router) (room : String) : Bool := r.queues.contains room

/-- Queues a line for its room, and says whether it is queued. -/
def forward (r : Router) (room sender name body : String) : Bool × Router :=
  match (r.queues.get? room).bind (·.push? ⟨r.config.author sender name, body⟩) with
  | some queue => (true, { r with queues := r.queues.insert room queue })
  | none => (false, r)

/-- Takes the first line of a room. -/
def receive (r : Router) (room : String) : Option IncomingLine × Router :=
  match r.queues.get? room with
  | none => (none, r)
  | some queue =>
      let (line, queue) := queue.pop
      (line, { r with queues := r.queues.insert room queue })

/-- Nobody receives from a room any longer. -/
def close (r : Router) (room : String) : Router :=
  match r.queues.get? room with
  | none => r
  | some queue => { r with queues := r.queues.insert room queue.close }

end Router

end CommandBot
