import CommandBot.Proofs.KeyMap
import CommandBot.Router

/-!
# What becomes of routed lines

The chat server forwards lines to the rooms, and the workers of the rooms receive them or stop
(`Router.Step`), in any order. What comes of each step is an `Event`. A step changes at most the
queue of the room that it names, and a queue keeps what it takes in until a worker receives it or
stops (`Queue.Follows`). After any steps the lines that a worker has received, and behind them those
that wait, are therefore those that the router has accepted (`lines_kept_over_steps`).
-/

namespace CommandBot

namespace Router

/-- What is done with the queues. -/
inductive Step where
  | forward (room sender name body : String)
  | receive (room : String)
  | close (room : String)

/-- The room that a step names. -/
def Step.room : Step → String
  | .forward room _ _ _ => room
  | .receive room => room
  | .close room => room

/-- What has come of a step. -/
inductive Event where
  /-- The router says whether it has queued the line. -/
  | forwarded (room sender name body : String) (queued : Bool)
  | received (room : String) (line : Option IncomingLine)
  | closed (room : String)
  deriving DecidableEq

/-- The line that is put into the queue of this room. -/
def Event.accepted? (config : AppConfig) (room : String) : Event → Option IncomingLine
  | .forwarded target sender name body true =>
      if target = room then some ⟨config.author sender name, body⟩ else none
  | _ => none

/-- The line that the worker of this room takes. -/
def Event.received? (room : String) : Event → Option IncomingLine
  | .received source line => if source = room then line else none
  | _ => none

theorem Event.accepted?_of_ne {target room : String} (h : room ≠ target) (config : AppConfig)
    (sender name body : String) (queued : Bool) :
    (Event.forwarded target sender name body queued).accepted? config room = none := by
  cases queued with
  | false => rfl
  | true => exact if_neg h.symm

theorem Event.received?_of_ne {source room : String} (h : room ≠ source)
    (line : Option IncomingLine) : (Event.received source line).received? room = none :=
  if_neg h.symm

/-- The lines of a room that the router has accepted, in the order of the calls. -/
def accepted (config : AppConfig) (room : String) (events : List Event) : List IncomingLine :=
  events.filterMap (Event.accepted? config room)

/-- The lines that the worker of a room has received. -/
def received (room : String) (events : List Event) : List IncomingLine :=
  events.filterMap (Event.received? room)

def step (r : Router) : Step → Event × Router
  | .forward room sender name body =>
      let (queued, r) := r.forward room sender name body
      (.forwarded room sender name body queued, r)
  | .receive room =>
      let (line, r) := r.receive room
      (.received room line, r)
  | .close room => (.closed room, r.close room)

def steps (r : Router) : List Step → List Event × Router
  | [] => ([], r)
  | s :: rest =>
      let (event, r) := r.step s
      let (events, r) := r.steps rest
      (event :: events, r)

theorem steps_cons (r : Router) (s : Step) (rest : List Step) :
    r.steps (s :: rest) =
      ((r.step s).1 :: ((r.step s).2.steps rest).1, ((r.step s).2.steps rest).2) := rfl

end Router

/-! ### A single queue -/

namespace Queue

open Router (Event)

theorem create_eq_ok_iff {capacity : Nat} {q : Queue} :
    create capacity = .ok q ↔
      1 ≤ capacity ∧ capacity ≤ maxCapacity ∧ q = ⟨capacity, [], true⟩ := by
  unfold create checkCapacity
  split
  · rename_i hzero
    exact iff_of_false (fun h => by cases h) fun h => Nat.ne_of_gt h.1 hzero
  · rename_i hpositive
    split
    · rename_i htoo
      exact iff_of_false (fun h => by cases h) fun h => Nat.not_lt_of_le h.2.1 htoo
    · rename_i hfits
      constructor
      · intro h
        exact ⟨Nat.pos_of_ne_zero hpositive, Nat.le_of_not_lt hfits, (Except.ok.inj h).symm⟩
      · rintro ⟨-, -, rfl⟩
        rfl

theorem fst_pop (q : Queue) : q.pop.1 = q.waiting.head? := by
  unfold pop
  split
  · rename_i h
    rw [h, List.head?_nil]
  · rename_i h
    rw [h, List.head?_cons]

@[simp] theorem capacity_pop (q : Queue) : q.pop.2.capacity = q.capacity := by
  unfold pop
  split <;> rfl

@[simp] theorem isOpen_pop (q : Queue) : q.pop.2.isOpen = q.isOpen := by
  unfold pop
  split <;> rfl

theorem length_waiting_pop_le (q : Queue) : q.pop.2.waiting.length ≤ q.waiting.length := by
  rw [← pop_waiting q, List.length_append]
  exact Nat.le_add_left _ _

theorem isSome_push?_iff (q : Queue) (line : IncomingLine) :
    (q.push? line).isSome = true ↔ q.isOpen = true ∧ q.waiting.length < q.capacity := by
  rw [Option.isSome_iff_exists]
  constructor
  · rintro ⟨after, h⟩
    obtain ⟨hopen, hroom, -⟩ := (push?_eq_some_iff _ _ _).1 h
    exact ⟨hopen, hroom⟩
  · rintro ⟨hopen, hroom⟩
    exact ⟨_, (push?_eq_some_iff _ _ _).2 ⟨hopen, hroom, rfl⟩⟩

/-- How the queue of a room comes to stand after events: its lines leave it in the order in which
they have come, as long as its worker is alive. -/
structure Follows (config : AppConfig) (room : String) (events : List Event) (q after : Queue) :
    Prop where
  capacity : after.capacity = q.capacity
  bounded : q.waiting.length ≤ q.capacity → after.waiting.length ≤ q.capacity
  isOpen : after.isOpen = true ↔ q.isOpen = true ∧ .closed room ∉ events
  lines : .closed room ∉ events →
    Router.received room events ++ after.waiting = q.waiting ++ Router.accepted config room events

namespace Follows

variable {config : AppConfig} {room : String} {events later : List Event} {q middle after : Queue}

theorem refl (config : AppConfig) (room : String) (q : Queue) : Follows config room [] q q where
  capacity := rfl
  bounded := id
  isOpen := by simp
  lines _ := by simp [Router.received, Router.accepted]

theorem trans (h : Follows config room events q middle)
    (hlater : Follows config room later middle after) :
    Follows config room (events ++ later) q after where
  capacity := hlater.capacity.trans h.capacity
  bounded hq := by
    have hmiddle := h.bounded hq
    rw [← h.capacity] at hmiddle ⊢
    exact hlater.bounded hmiddle
  isOpen := by rw [hlater.isOpen, h.isOpen, List.mem_append, not_or, and_assoc]
  lines hclosed := by
    rw [List.mem_append, not_or] at hclosed
    calc Router.received room (events ++ later) ++ after.waiting
        = Router.received room events ++ (Router.received room later ++ after.waiting) := by
          rw [Router.received, List.filterMap_append, List.append_assoc]
          rfl
      _ = Router.received room events ++ middle.waiting ++ Router.accepted config room later := by
          rw [hlater.lines hclosed.2, List.append_assoc]
      _ = q.waiting ++ Router.accepted config room (events ++ later) := by
          rw [h.lines hclosed.1, List.append_assoc, Router.accepted, Router.accepted,
            Router.accepted, List.filterMap_append]

/-- An event that has nothing to do with the room leaves its queue as it is. -/
theorem of_elsewhere {event : Event} (haccepted : event.accepted? config room = none)
    (hreceived : event.received? room = none) (hclosed : event ≠ .closed room) (q : Queue) :
    Follows config room [event] q q where
  capacity := rfl
  bounded := id
  isOpen := by simp [hclosed.symm]
  lines _ := by simp [Router.received, Router.accepted, haccepted, hreceived]

theorem push {sender name body : String}
    (h : q.push? ⟨config.author sender name, body⟩ = some after) :
    Follows config room [.forwarded room sender name body true] q after := by
  obtain ⟨-, hroom, rfl⟩ := (push?_eq_some_iff _ _ _).1 h
  constructor
  case capacity => rfl
  case bounded =>
    intro _
    rw [List.length_append, List.length_singleton]
    exact hroom
  case isOpen => simp
  case lines =>
    intro _
    simp [Router.received, Router.accepted, Event.received?, Event.accepted?]

theorem pop (config : AppConfig) (room : String) (q : Queue) :
    Follows config room [.received room q.pop.1] q q.pop.2 where
  capacity := q.capacity_pop
  bounded := Nat.le_trans q.length_waiting_pop_le
  isOpen := by simp
  lines _ := by
    have hreceived : Router.received room [.received room q.pop.1] = q.pop.1.toList := by
      cases h : q.pop.1 with
      | none => simp [Router.received, Event.received?]
      | some line => simp [Router.received, Event.received?]
    rw [hreceived, pop_waiting]
    simp [Router.accepted, Event.accepted?]

theorem close (config : AppConfig) (room : String) (q : Queue) :
    Follows config room [.closed room] q q.close where
  capacity := rfl
  bounded _ := Nat.zero_le _
  isOpen := by simp [Queue.close]
  lines hclosed := absurd List.mem_cons_self hclosed

end Follows

end Queue

/-! ### All queues of a router -/

namespace Router

variable {r : Router} {room : String} {q : Queue}

theorem forward_of_push?_eq_some {sender name body : String} {after : Queue}
    (hq : r.queues.get? room = some q)
    (h : q.push? ⟨r.config.author sender name, body⟩ = some after) :
    r.forward room sender name body = (true, { r with queues := r.queues.insert room after }) := by
  rw [forward, hq, Option.bind_some, h]

theorem forward_of_push?_eq_none {sender name body : String} (hq : r.queues.get? room = some q)
    (h : q.push? ⟨r.config.author sender name, body⟩ = none) :
    r.forward room sender name body = (false, r) := by
  rw [forward, hq, Option.bind_some, h]

theorem forward_of_unrouted (hq : r.queues.get? room = none) (sender name body : String) :
    r.forward room sender name body = (false, r) := by
  rw [forward, hq, Option.bind_none]

/-- A line for a routed room is queued if the worker of the room is alive and the queue is not
full. -/
theorem forward_eq_true_iff (hq : r.queues.get? room = some q) (sender name body : String) :
    (r.forward room sender name body).1 = true ↔
      q.isOpen = true ∧ q.waiting.length < q.capacity := by
  rw [← Queue.isSome_push?_iff q ⟨r.config.author sender name, body⟩]
  cases hpush : q.push? ⟨r.config.author sender name, body⟩ with
  | none => simp [forward_of_push?_eq_none hq hpush]
  | some after => simp [forward_of_push?_eq_some hq hpush]

/-- A line that is not queued changes nothing. -/
theorem forward_of_eq_false {sender name body : String}
    (h : (r.forward room sender name body).1 = false) :
    (r.forward room sender name body).2 = r := by
  unfold forward at h ⊢
  split
  · rename_i hpush
    rw [hpush] at h
    cases h
  · rfl

theorem get?_forward_of_ne {other : String} (h : other ≠ room) (sender name body : String) :
    (r.forward room sender name body).2.queues.get? other = r.queues.get? other := by
  unfold forward
  split
  · exact KeyMap.get?_insert_of_ne _ _ h
  · rfl

theorem receive_of_get? (hq : r.queues.get? room = some q) :
    r.receive room = (q.pop.1, { r with queues := r.queues.insert room q.pop.2 }) := by
  rw [receive, hq]

theorem close_of_get? (hq : r.queues.get? room = some q) :
    r.close room = { r with queues := r.queues.insert room q.close } := by
  rw [close, hq]

theorem config_step (r : Router) (s : Step) : (r.step s).2.config = r.config := by
  cases s with
  | forward room sender name body =>
      change (r.forward room sender name body).2.config = r.config
      unfold forward
      split <;> rfl
  | receive room =>
      change (r.receive room).2.config = r.config
      unfold receive
      split <;> rfl
  | close room =>
      change (r.close room).config = r.config
      unfold close
      split <;> rfl

/-- A step leaves the queues of the other rooms alone. -/
theorem get?_step_of_ne (r : Router) {s : Step} (h : room ≠ s.room) :
    (r.step s).2.queues.get? room = r.queues.get? room := by
  cases s with
  | forward target sender name body => exact get?_forward_of_ne h sender name body
  | receive source =>
      change (r.receive source).2.queues.get? room = r.queues.get? room
      unfold receive
      split
      · rfl
      · exact KeyMap.get?_insert_of_ne _ _ h
  | close target =>
      change (r.close target).queues.get? room = r.queues.get? room
      unfold close
      split
      · rfl
      · exact KeyMap.get?_insert_of_ne _ _ h

/-- A step in a room that is not routed does nothing. -/
theorem step_of_unrouted {s : Step} (h : r.queues.get? s.room = none) : (r.step s).2 = r := by
  cases s with
  | forward target sender name body => exact congrArg Prod.snd (forward_of_unrouted h ..)
  | receive source =>
      simp only [Step.room] at h
      rw [step, receive, h]
  | close target =>
      simp only [Step.room] at h
      rw [step, close, h]

/-- What one step does to the queue of the room that it names. -/
theorem follows_step_self {s : Step} (hq : r.queues.get? s.room = some q) :
    ∃ after, (r.step s).2.queues.get? s.room = some after ∧
      q.Follows r.config s.room [(r.step s).1] after := by
  cases s with
  | forward room sender name body =>
      simp only [Step.room] at hq ⊢
      cases hpush : q.push? ⟨r.config.author sender name, body⟩ with
      | none =>
          rw [step, forward_of_push?_eq_none hq hpush]
          exact ⟨q, hq, .of_elsewhere rfl rfl (by simp) q⟩
      | some after =>
          rw [step, forward_of_push?_eq_some hq hpush]
          exact ⟨after, KeyMap.get?_insert_self _ _ _, .push hpush⟩
  | receive room =>
      simp only [Step.room] at hq ⊢
      rw [step, receive_of_get? hq]
      exact ⟨q.pop.2, KeyMap.get?_insert_self _ _ _, .pop _ _ q⟩
  | close room =>
      simp only [Step.room] at hq ⊢
      rw [step, close_of_get? hq]
      exact ⟨q.close, KeyMap.get?_insert_self _ _ _, .close _ _ q⟩

theorem follows_step_of_ne (r : Router) {s : Step} (h : room ≠ s.room) (q : Queue) :
    q.Follows r.config room [(r.step s).1] q := by
  cases s with
  | forward target sender name body =>
      exact .of_elsewhere (Event.accepted?_of_ne h ..) rfl (by simp) q
  | receive source => exact .of_elsewhere rfl (Event.received?_of_ne h _) (by simp) q
  | close target => exact .of_elsewhere rfl rfl (by simpa [step, Step.room] using h.symm) q

/-- What one step does to the queue of a room. -/
theorem follows_step (hq : r.queues.get? room = some q) (s : Step) :
    ∃ after, (r.step s).2.queues.get? room = some after ∧
      q.Follows r.config room [(r.step s).1] after := by
  by_cases hroom : room = s.room
  · subst hroom
    exact follows_step_self hq
  · exact ⟨q, (r.get?_step_of_ne hroom).trans hq, r.follows_step_of_ne hroom q⟩

/-- A room that is not routed does not become so. -/
theorem get?_step_of_unrouted (hq : r.queues.get? room = none) (s : Step) :
    (r.step s).2.queues.get? room = none := by
  by_cases hroom : room = s.room
  · subst hroom
    rw [step_of_unrouted hq, hq]
  · rw [r.get?_step_of_ne hroom, hq]

theorem get?_steps_of_unrouted (hq : r.queues.get? room = none) (ss : List Step) :
    (r.steps ss).2.queues.get? room = none := by
  induction ss generalizing r with
  | nil => exact hq
  | cons s rest ih =>
      rw [steps_cons]
      exact ih (get?_step_of_unrouted hq s)

/-- What any steps do to the queue of a room. -/
theorem follows_steps (hq : r.queues.get? room = some q) (ss : List Step) :
    ∃ after, (r.steps ss).2.queues.get? room = some after ∧
      q.Follows r.config room (r.steps ss).1 after := by
  induction ss generalizing r q with
  | nil => exact ⟨q, hq, .refl _ _ q⟩
  | cons s rest ih =>
      obtain ⟨middle, hmiddle, hfirst⟩ := follows_step hq s
      obtain ⟨after, hafter, hrest⟩ := ih hmiddle
      rw [config_step] at hrest
      exact ⟨after, hafter, hfirst.trans hrest⟩

/-- Nothing waits in any queue, and every worker is alive. -/
def IsNew (r : Router) : Prop :=
  ∀ room q, r.queues.get? room = some q → q.waiting = [] ∧ q.isOpen = true

/-- Whatever is forwarded and received, and whichever workers stop: as long as the worker of a room
is alive, the lines that it has received, and behind them those that wait for it, are those that the
router has accepted for the room, in the order of the calls. The next that it receives is the first
of those that wait, and the queue never holds more than its capacity. A line is accepted exactly if
its room is routed, the worker of the room is alive and the queue is not full. One that is not
accepted changes nothing, and one for another room does not change the queue of this one. -/
theorem lines_kept_over_steps (hnew : r.IsNew) (ss : List Step) (room : String) :
    let events := (r.steps ss).1
    let now := (r.steps ss).2
    (∀ q, r.queues.get? room = some q → ∃ after, now.queues.get? room = some after ∧
      after.capacity = q.capacity ∧ after.waiting.length ≤ q.capacity ∧
      (.closed room ∉ events →
        received room events ++ after.waiting = accepted r.config room events) ∧
      (now.receive room).1 = after.waiting.head? ∧
      ∀ sender name body, (now.forward room sender name body).1 = true ↔
        .closed room ∉ events ∧ after.waiting.length < q.capacity) ∧
    (r.handles room = false →
      ∀ sender name body, (now.forward room sender name body).1 = false) ∧
    (∀ sender name body, (now.forward room sender name body).1 = false →
      (now.forward room sender name body).2 = now) ∧
    ∀ other sender name body, other ≠ room →
      (now.forward other sender name body).2.queues.get? room = now.queues.get? room := by
  intro events now
  refine ⟨fun q hq => ?_, fun hunrouted sender name body => ?_,
    fun sender name body hrefused => forward_of_eq_false hrefused,
    fun other sender name body hother => get?_forward_of_ne hother.symm sender name body⟩
  · obtain ⟨after, hafter, hfollows⟩ := follows_steps hq ss
    obtain ⟨hempty, halive⟩ := hnew room q hq
    have hlines := hfollows.lines
    have hbounded := hfollows.bounded
    rw [hempty] at hlines hbounded
    refine ⟨after, hafter, hfollows.capacity, hbounded (Nat.zero_le _), hlines,
      (congrArg Prod.fst (receive_of_get? hafter)).trans after.fst_pop, fun sender name body => ?_⟩
    rw [forward_eq_true_iff hafter, hfollows.isOpen, hfollows.capacity, halive]
    simp [events]
  · have hnone : r.queues.get? room = none := by
      rw [handles, KeyMap.contains] at hunrouted
      exact Option.isNone_iff_eq_none.1 (Option.isSome_eq_false_iff.1 hunrouted)
    rw [forward_of_unrouted (get?_steps_of_unrouted hnone ss)]

/-- Two rooms, in one of which a single line may wait. -/
def twoRooms : Router :=
  ⟨{ moderators := ["@mod:example.org"] }, .ofList [("!a", ⟨1, [], true⟩), ("!b", ⟨4, [], true⟩)]⟩

/-- The narrow room gets a line too many, while the worker of the other one stops. -/
def rush : List Step :=
  [.forward "!a" "@mod:example.org" "mod" "one", .forward "!b" "@u:example.org" "u" "aside",
    .forward "!a" "@u:example.org" "u" "two", .close "!b", .receive "!a",
    .forward "!a" "@u:example.org" "u" "three"]

theorem lines_kept_over_steps_rush :
    twoRooms.IsNew ∧ ∃ after, (twoRooms.steps rush).2.queues.get? "!a" = some after ∧
      after.waiting.length ≤ 1 ∧
      received "!a" (twoRooms.steps rush).1 ++ after.waiting =
        [⟨⟨"@mod:example.org", "mod", true, false, false⟩, "one"⟩,
          ⟨⟨"@u:example.org", "u", false, false, false⟩, "three"⟩] := by
  have hnew : twoRooms.IsNew := by
    intro room q hq
    have hmem := KeyMap.mem_of_get? hq
    have hall : ∀ e ∈ twoRooms.queues.entries, e.2.waiting = [] ∧ e.2.isOpen = true := by
      decide +kernel
    exact hall _ hmem
  obtain ⟨hqueues, -⟩ := lines_kept_over_steps hnew rush "!a"
  obtain ⟨after, hafter, -, hbounded, hlines, -⟩ := hqueues ⟨1, [], true⟩ (by decide +kernel)
  refine ⟨hnew, after, hafter, hbounded, ?_⟩
  rw [hlines (by decide +kernel)]
  decide +kernel

end Router

end CommandBot
