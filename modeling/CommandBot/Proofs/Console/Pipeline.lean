import CommandBot.Proofs.Console.Feed
import CommandBot.Proofs.Module.Loading
import CommandBot.Proofs.Worker.Saves
import CommandBot.Startup

/-!
# The reader and the worker of the console

A `Pipeline` is a feed together with the worker that handles the lines which it takes from it. The
worker does not touch the queue while it handles a line, so that taking and handling it count as one
turn. How much time passes before each line is given from outside, and so are the conditions under
which the line is handled (`paced`). Whatever the turns are, the worker has handled the lines that
it has taken, in that order (`Pipeline.turns_eq`). What it comes to when no lines are left therefore
depends neither on the turns nor on how many lines may wait (`lines_handled_once`).
-/

namespace CommandBot.Console

variable {post : Worker.Post} {pace : Nat → Duration × Conditions}

/-- The turns of a worker that handles these lines after so many others. To each line belong the
time since the line before it and the conditions under which it is handled. -/
def paced (pace : Nat → Duration × Conditions) (count : Nat) :
    List IncomingLine → List Worker.Turn
  | [] => []
  | line :: rest =>
      .wait (pace count).1 :: .line line (pace count).2 :: paced pace (count + 1) rest

theorem play_paced_append (post : Worker.Post) (pace : Nat → Duration × Conditions) (count : Nat)
    (state : Session Builtin × Surroundings) (lines others : List IncomingLine) :
    Worker.play post state (paced pace count (lines ++ others)) =
      Worker.play post (Worker.play post state (paced pace count lines))
        (paced pace (count + lines.length) others) := by
  induction lines generalizing count state with
  | nil => rfl
  | cons line rest ih =>
      rw [List.length_cons, Nat.add_comm rest.length, ← Nat.add_assoc]
      exact ih _ _

/-- Lines that come at once are handled without waits between them. -/
theorem play_paced_at_once (post : Worker.Post) (count : Nat) (session : Session Builtin)
    (s : Surroundings) (lines : List IncomingLine) :
    Worker.play post (session, s) (paced (fun _ => (0, {})) count lines) =
      (Worker.workAll post session s (lines.map fun line => (line, {}))).2 := by
  induction lines generalizing count session s with
  | nil => rfl
  | cons line rest ih => exact ih _ _ _

/-- The feed of a worker, the lines that the worker has handled, and what it has come to. -/
structure Pipeline where
  feed : Feed
  handled : List IncomingLine
  state : Session Builtin × Surroundings

namespace Pipeline

/-- Nothing has been read yet. -/
def start (ready : Ready) (input : String) (files : FileTree) : Pipeline :=
  ⟨⟨chatLines ready.author input, ⟨ready.capacity, [], true⟩⟩, [],
    (ready.session, ⟨[], files, []⟩)⟩

/-- One turn, in which the worker handles the line that it takes. -/
def turn (post : Worker.Post) (pace : Nat → Duration × Conditions) (p : Pipeline) (t : Turn) :
    Pipeline :=
  let (line, feed) := p.feed.turn t
  ⟨feed, p.handled ++ line.toList,
    Worker.play post p.state (paced pace p.handled.length line.toList)⟩

def turns (post : Worker.Post) (pace : Nat → Duration × Conditions) (p : Pipeline)
    (ts : List Turn) : Pipeline :=
  ts.foldl (turn post pace) p

/-- What has been printed, and the files. -/
def output (channel : String) (p : Pipeline) : String × FileTree :=
  (String.join (p.state.2.said.map fun entry => printed channel entry.1), p.state.2.files)

/-- The worker has handled what it has taken from the feed. -/
theorem turns_eq (p : Pipeline) (ts : List Turn) :
    p.turns post pace ts =
      ⟨(p.feed.turns ts).2, p.handled ++ (p.feed.turns ts).1,
        Worker.play post p.state (paced pace p.handled.length (p.feed.turns ts).1)⟩ := by
  induction ts generalizing p with
  | nil =>
      rw [Feed.turns_nil, List.append_nil]
      rfl
  | cons t rest ih =>
      rw [turns, List.foldl_cons, ← turns, ih, Feed.turns_cons, play_paced_append,
        ← List.append_assoc, ← List.length_append]
      rfl

/-- No line is lost, handled twice or handled out of its turn. -/
theorem handled_turns (post : Worker.Post) (pace : Nat → Duration × Conditions) (p : Pipeline)
    (ts : List Turn) :
    (p.turns post pace ts).handled ++ (p.turns post pace ts).feed.remaining =
      p.handled ++ p.feed.remaining := by
  rw [turns_eq, List.append_assoc, Feed.turns_remaining]

theorem isRunning_turns {p : Pipeline} {capacity : Nat} (h : p.feed.IsRunning capacity)
    (post : Worker.Post) (pace : Nat → Duration × Conditions) (ts : List Turn) :
    (p.turns post pace ts).feed.IsRunning capacity := by
  rw [turns_eq]
  exact h.turns ts

/-- The reader and the worker can always go on until no line is left. -/
theorem exists_isDrained {p : Pipeline} {capacity : Nat} (h : p.feed.IsRunning capacity)
    (hcapacity : 1 ≤ capacity) (post : Worker.Post) (pace : Nat → Duration × Conditions) :
    ∃ more, (p.turns post pace more).feed.isDrained = true := by
  refine ⟨Feed.alternately p.feed.remaining.length, ?_⟩
  rw [turns_eq]
  exact Feed.isDrained_alternately h hcapacity (Nat.le_refl _)

variable {ready : Ready} {input : String} {files : FileTree}

theorem isRunning_start (ready : Ready) (input : String) (files : FileTree) :
    (start ready input files).feed.IsRunning ready.capacity :=
  ⟨rfl, rfl, Nat.zero_le _⟩

/-- What a worker that has all lines behind it has handled and come to. -/
theorem turns_start_of_isDrained {ts : List Turn}
    (h : ((start ready input files).turns post pace ts).feed.isDrained = true) :
    ((start ready input files).turns post pace ts).handled = chatLines ready.author input ∧
      ((start ready input files).turns post pace ts).state =
        Worker.play post (ready.session, ⟨[], files, []⟩)
          (paced pace 0 (chatLines ready.author input)) := by
  have hhandled : ((start ready input files).turns post pace ts).handled =
      chatLines ready.author input := by
    have hkept := handled_turns post pace (start ready input files) ts
    rw [(Feed.isDrained_iff _).1 h, List.append_nil] at hkept
    exact hkept
  refine ⟨hhandled, ?_⟩
  rw [← hhandled, turns_eq]
  rfl

/-- The bot prints and saves what a worker comes to whose lines all come at once. -/
theorem serve_eq {queue : Queue} (hqueue : Queue.create ready.capacity = .ok queue) :
    Startup.serve ready input files =
      let done := Worker.play ready.post (ready.session, ⟨[], files, []⟩)
        (paced (fun _ => (0, {})) 0 (chatLines ready.author input))
      (String.join (done.2.said.map fun entry => printed ready.channel entry.1),
        done.2.files) := by
  obtain ⟨hcapacity, -, rfl⟩ := Queue.create_eq_ok_iff.1 hqueue
  have hdelivered : Feed.delivered ⟨chatLines ready.author input, ⟨ready.capacity, [], true⟩⟩ =
      chatLines ready.author input :=
    Feed.delivered_eq (isRunning_start ready input files) hcapacity rfl
  simp only [Startup.serve, hqueue, hdelivered, play_paced_at_once]

end Pipeline

/-- However the reader and the worker of the console take turns, and however many lines may wait:
the chat lines of a text are its lines between line feeds that are not blank, without the carriage
return before a line feed, all from one author, and the worker handles them in order. At every
moment those that it has handled, and behind them those that wait or are unread, are all of them. In
the end none is left, and then what is printed follows from the lines, from the times at which they
are handled and from what the chat and the disk do then. If the lines come at once, it is what the
bot prints. -/
theorem lines_handled_once (ready : Ready) (hcapacity : 1 ≤ ready.capacity)
    (pace : Nat → Duration × Conditions) (input : String) (files : FileTree) (ts : List Turn) :
    let lines := chatLines ready.author input
    let after := (Pipeline.start ready input files).turns ready.post pace ts
    lines = ((linesOfPieces (input.toList.splitOn '\n')).filter fun line =>
        line.any fun c => !Text.isBlank c).map (fun line => ⟨ready.author, String.ofList line⟩) ∧
      after.handled ++ after.feed.remaining = lines ∧
      after.feed.queue.waiting.length ≤ ready.capacity ∧
      (∃ more, (after.turns ready.post pace more).feed.isDrained = true) ∧
      (after.feed.isDrained = true →
        after.handled = lines ∧
        after.state = Worker.play ready.post (ready.session, ⟨[], files, []⟩) (paced pace 0 lines) ∧
        (∀ capacity ts',
          let other := (Pipeline.start { ready with capacity := capacity } input files).turns
            ready.post pace ts'
          other.feed.isDrained = true →
            other.output ready.channel = after.output ready.channel) ∧
        ∀ queue, Queue.create ready.capacity = .ok queue → (∀ k, pace k = (0, {})) →
          Startup.serve ready input files = after.output ready.channel) := by
  intro lines after
  have hrunning : after.feed.IsRunning ready.capacity :=
    Pipeline.isRunning_turns (Pipeline.isRunning_start ready input files) ready.post pace ts
  refine ⟨chatLines_eq _ _, Pipeline.handled_turns ready.post pace _ ts, hrunning.bounded,
    Pipeline.exists_isDrained hrunning hcapacity ready.post pace, fun hdrained => ?_⟩
  obtain ⟨hhandled, hstate⟩ := Pipeline.turns_start_of_isDrained hdrained
  refine ⟨hhandled, hstate, fun capacity ts' => ?_, fun queue hqueue hpace => ?_⟩
  · intro other hother
    have hsame : other.state = after.state :=
      (Pipeline.turns_start_of_isDrained hother).2.trans hstate.symm
    rw [Pipeline.output, Pipeline.output, hsame]
  · obtain rfl : pace = fun _ => (0, {}) := funext hpace
    rw [Pipeline.serve_eq hqueue, Pipeline.output, hstate]

/-- Five lines, two of them blank, for a queue in which one may wait. -/
theorem lines_handled_once_narrow_queue :
    let ann : Author := ⟨"1", "ann", false, false, false⟩
    let input := "r!help\r\n\n \t\nhello\nr!uptime"
    let ts : List Turn := [.reader, .reader, .worker, .reader, .worker, .worker, .reader, .worker]
    ∃ s, Session.start Builtin.catalogue .down 0 [] "room" .initial = .ok s ∧
      let ready : Ready := ⟨"room", ann, ⟨.down, 0, ⟨"room.json"⟩, {}⟩, 1, s⟩
      let after := (Pipeline.start ready input (.empty [])).turns ready.post (fun _ => (0, {})) ts
      1 ≤ ready.capacity ∧ after.feed.isDrained = true ∧
        after.handled = [⟨ann, "r!help"⟩, ⟨ann, "hello"⟩, ⟨ann, "r!uptime"⟩] ∧
        Startup.serve ready input (.empty []) = after.output ready.channel := by
  intro ann input ts
  have hrun : ((Session.start Builtin.catalogue .down 0 [] "room" .initial).toOption.map
      fun _ => ()) = some () := by
    decide +kernel
  obtain ⟨s, hstart, -⟩ := exists_of_toOption_map_eq_some hrun
  refine ⟨s, hstart, ?_⟩
  intro ready after
  have hcapacity : 1 ≤ ready.capacity := Nat.le_refl 1
  obtain ⟨-, -, -, -, hdone⟩ := lines_handled_once ready hcapacity (fun _ => (0, {})) input
    (.empty []) ts
  have hdrained : after.feed.isDrained = true := by
    have hfeed : ((Feed.mk (chatLines ann input) ⟨1, [], true⟩).turns ts).2.isDrained = true := by
      decide +kernel
    simp only [after, Pipeline.turns_eq]
    exact hfeed
  have hlines : chatLines ann input = [⟨ann, "r!help"⟩, ⟨ann, "hello"⟩, ⟨ann, "r!uptime"⟩] := by
    decide +kernel
  have hqueue : Queue.create 1 = .ok ⟨1, [], true⟩ :=
    Queue.create_eq_ok_iff.2 ⟨hcapacity, by decide +kernel, rfl⟩
  obtain ⟨hhandled, -, -, hserve⟩ := hdone hdrained
  exact ⟨hcapacity, hdrained, hhandled.trans hlines, hserve _ hqueue fun _ => rfl⟩

end CommandBot.Console
