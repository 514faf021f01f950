import CommandBot.Console
import CommandBot.Proofs.Router

/-!
# From the terminal to the worker

The lines of a text are its pieces between line feeds (`lines_eq_linesOfPieces`). The lines that the
worker takes in the course of some turns, and behind them those that wait or are unread after these,
are the lines that waited or were unread before (`Feed.turns_remaining`). If there is room for a
single line, the worker gets one line more whenever both have had a turn
(`Feed.remaining_reader_worker`).
-/

namespace CommandBot.Console

/-! ### Lines -/

/-- A line without the carriage return at its end, if there is one. -/
def withoutReturn (line : List Char) : List Char :=
  if line.getLast? = some '\r' then line.dropLast else line

/-- The lines of which these are the pieces of a text between its line feeds. A line feed stands
after every piece but the last, which is no line if it is empty. -/
def linesOfPieces : List (List Char) → List (List Char)
  | [] => []
  | [last] => if last = [] then [] else [last]
  | piece :: rest => withoutReturn piece :: linesOfPieces rest

theorem linesOfPieces_cons {rest : List (List Char)} (h : rest ≠ []) (piece : List Char) :
    linesOfPieces (piece :: rest) = withoutReturn piece :: linesOfPieces rest := by
  cases rest with
  | nil => exact absurd rfl h
  | cons next rest => rfl

theorem withoutReturn_cons {c : Char} {line : List Char} (h : line = [] → c ≠ '\r') :
    withoutReturn (c :: line) = c :: withoutReturn line := by
  cases line with
  | nil => simp [withoutReturn, h rfl]
  | cons d line =>
      simp only [withoutReturn, List.getLast?_cons_cons, List.dropLast_cons_cons]
      split <;> rfl

theorem lines_cons {c : Char} {rest : List Char} (hfeed : c = '\n' → False)
    (hreturn : ∀ more, c = '\r' → rest = '\n' :: more → False) :
    lines (c :: rest) =
      match lines rest with
      | [] => [[c]]
      | line :: more => (c :: line) :: more :=
  lines.eq_4 c rest hfeed hreturn

theorem splitOn_cons {c : Char} {rest piece : List Char} {pieces : List (List Char)}
    (hfeed : c = '\n' → False) (h : rest.splitOn '\n' = piece :: pieces) :
    (c :: rest).splitOn '\n' = (c :: piece) :: pieces := by
  rw [List.splitOn_cons_eq_if_modifyHead, if_neg (fun heq => hfeed (beq_iff_eq.1 heq)), h]
  rfl

/-- If a text with a line feed begins with an empty piece, it begins with the line feed. -/
theorem exists_cons_of_splitOn {text : List Char} {next : List Char} {rest : List (List Char)}
    (h : text.splitOn '\n' = [] :: next :: rest) : ∃ more, text = '\n' :: more := by
  cases text with
  | nil => cases h
  | cons c more =>
      rw [List.splitOn_cons_eq_if_modifyHead] at h
      split at h
      · rename_i hc
        exact ⟨more, by rw [beq_iff_eq.1 hc]⟩
      · obtain ⟨piece, pieces, hpieces⟩ :=
          List.exists_cons_of_ne_nil (List.splitOn_ne_nil '\n' more)
        rw [hpieces] at h
        cases h

theorem lines_eq_linesOfPieces (text : List Char) :
    lines text = linesOfPieces (text.splitOn '\n') := by
  induction text using lines.induct with
  | case1 => rfl
  | case2 rest ih =>
      rw [List.splitOn_cons_eq_if_modifyHead, if_pos (beq_self_eq_true _),
        linesOfPieces_cons (List.splitOn_ne_nil _ _), lines, ih]
      rfl
  | case3 rest ih =>
      have hpieces : ('\r' :: '\n' :: rest).splitOn '\n' = ['\r'] :: rest.splitOn '\n' := by
        simp [List.splitOn_cons_eq_if_modifyHead]
      rw [hpieces, linesOfPieces_cons (List.splitOn_ne_nil _ _), lines, ih]
      rfl
  | case4 c rest hfeed hreturn hnil ih =>
      obtain ⟨piece, pieces, hpieces⟩ := List.exists_cons_of_ne_nil (List.splitOn_ne_nil '\n' rest)
      rw [splitOn_cons hfeed hpieces, lines_cons hfeed hreturn, hnil]
      rw [hnil, hpieces] at ih
      cases pieces with
      | nil =>
          obtain rfl : piece = [] := by simpa [linesOfPieces] using ih
          rfl
      | cons next pieces => cases ih
  | case5 c rest hfeed hreturn line more hline ih =>
      obtain ⟨piece, pieces, hpieces⟩ := List.exists_cons_of_ne_nil (List.splitOn_ne_nil '\n' rest)
      rw [splitOn_cons hfeed hpieces, lines_cons hfeed hreturn, hline]
      rw [hline, hpieces] at ih
      cases pieces with
      | nil =>
          have hpiece : piece ≠ [] := by
            rintro rfl
            cases ih
          rw [linesOfPieces, if_neg hpiece] at ih
          obtain ⟨rfl, rfl⟩ := List.cons.inj ih
          rfl
      | cons next pieces =>
          obtain ⟨rfl, rfl⟩ := List.cons.inj ih
          have hterminated : piece = [] → c ≠ '\r' := by
            rintro rfl rfl
            obtain ⟨more, rfl⟩ := exists_cons_of_splitOn hpieces
            exact hreturn more rfl rfl
          rw [linesOfPieces_cons (List.cons_ne_nil _ _), withoutReturn_cons hterminated]

/-- Every line that is not blank is a chat line of the author. -/
theorem chatLines_eq (author : Author) (text : String) :
    chatLines author text =
      ((linesOfPieces (text.toList.splitOn '\n')).filter fun line =>
        line.any fun c => !Text.isBlank c).map fun line => ⟨author, String.ofList line⟩ := by
  rw [chatLines, lines_eq_linesOfPieces]
  simp only [List.not_all_eq_any_not]

/-! ### Turns -/

namespace Feed

variable {f : Feed} {capacity : Nat}

/-- The lines that have not reached the worker. -/
def remaining (f : Feed) : List IncomingLine := f.queue.waiting ++ f.unread

theorem isDrained_iff (f : Feed) : f.isDrained = true ↔ f.remaining = [] := by
  rw [isDrained, Bool.and_eq_true, List.isEmpty_iff, List.isEmpty_iff, remaining,
    List.append_eq_nil_iff, and_comm]

/-- The reader puts a line into the queue unless it is at the end or has to wait. -/
theorem turn_reader_cases (f : Feed) :
    (∃ line rest, f.unread = line :: rest ∧ f.queue.waiting.length < f.queue.capacity ∧
      f.turn .reader = (none, ⟨rest, { f.queue with waiting := f.queue.waiting ++ [line] }⟩)) ∨
    (f.turn .reader = (none, f) ∧ (f.unread = [] ∨ f.queue.isOpen = false ∨
      f.queue.capacity ≤ f.queue.waiting.length)) := by
  cases hunread : f.unread with
  | nil => exact .inr ⟨by rw [turn, hunread], .inl rfl⟩
  | cons line rest =>
      cases hpush : f.queue.push? line with
      | some queue =>
          obtain ⟨-, hroom, rfl⟩ := (Queue.push?_eq_some_iff _ _ _).1 hpush
          exact .inl ⟨line, rest, rfl, hroom, by simp only [turn, hunread, hpush]⟩
      | none =>
          refine .inr ⟨by simp only [turn, hunread, hpush], .inr ?_⟩
          cases hopen : f.queue.isOpen with
          | false => exact .inl rfl
          | true =>
              refine .inr (Nat.le_of_not_lt fun hroom => ?_)
              have hqueued := (Queue.isSome_push?_iff f.queue line).2 ⟨hopen, hroom⟩
              rw [hpush] at hqueued
              cases hqueued

/-- The worker receives, and no more lines wait than may. -/
structure IsRunning (capacity : Nat) (f : Feed) : Prop where
  alive : f.queue.isOpen = true
  room : f.queue.capacity = capacity
  bounded : f.queue.waiting.length ≤ capacity

theorem IsRunning.turn (h : IsRunning capacity f) (t : Turn) : IsRunning capacity (f.turn t).2 := by
  cases t with
  | reader =>
      rcases f.turn_reader_cases with ⟨line, rest, -, hroom, hturn⟩ | ⟨hturn, -⟩
      · rw [hturn]
        refine ⟨h.alive, h.room, ?_⟩
        rw [List.length_append, List.length_singleton, ← h.room]
        exact hroom
      · rw [hturn]
        exact h
  | worker =>
      exact ⟨(Queue.isOpen_pop _).trans h.alive, (Queue.capacity_pop _).trans h.room,
        Nat.le_trans (Queue.length_waiting_pop_le _) h.bounded⟩

theorem IsRunning.turns (h : IsRunning capacity f) (ts : List Turn) :
    IsRunning capacity (f.turns ts).2 := by
  induction ts generalizing f with
  | nil => exact h
  | cons t rest ih => exact ih (h.turn t)

/-- In a turn nothing is lost, and nothing is overtaken. -/
theorem turn_remaining (f : Feed) (t : Turn) :
    (f.turn t).1.toList ++ (f.turn t).2.remaining = f.remaining := by
  cases t with
  | reader =>
      rcases f.turn_reader_cases with ⟨line, rest, hunread, -, hturn⟩ | ⟨hturn, -⟩
      · simp [hturn, remaining, hunread]
      · rw [hturn]
        rfl
  | worker =>
      change f.queue.pop.1.toList ++ (f.queue.pop.2.waiting ++ f.unread) = f.remaining
      rw [← List.append_assoc, Queue.pop_waiting, remaining]

theorem turns_remaining (f : Feed) (ts : List Turn) :
    (f.turns ts).1 ++ (f.turns ts).2.remaining = f.remaining := by
  induction ts generalizing f with
  | nil => rfl
  | cons t rest ih => rw [turns_cons, List.append_assoc, ih, turn_remaining]

/-! ### Progress -/

theorem turn_reader_fst (f : Feed) : (f.turn .reader).1 = none := by
  rcases f.turn_reader_cases with ⟨line, rest, -, -, hturn⟩ | ⟨hturn, -⟩
  · rw [hturn]
  · rw [hturn]

/-- If no line waits after a turn of the reader, there is none. -/
theorem remaining_eq_nil_of_reader (h : IsRunning capacity f) (hcapacity : 1 ≤ capacity)
    (hwaiting : (f.turn .reader).2.queue.waiting = []) : f.remaining = [] := by
  rcases f.turn_reader_cases with ⟨line, rest, -, -, hturn⟩ | ⟨hturn, hidle⟩
  · rw [hturn] at hwaiting
    exact absurd hwaiting (List.append_ne_nil_of_right_ne_nil _ (List.cons_ne_nil _ _))
  · rw [hturn] at hwaiting
    rw [h.alive, h.room, hwaiting] at hidle
    rcases hidle with hunread | halive | hfull
    · rw [remaining, hwaiting, hunread]
      rfl
    · cases halive
    · exact absurd hcapacity (Nat.not_le_of_lt (Nat.lt_succ_of_le hfull))

/-- The worker gets one line more whenever both have had a turn. -/
theorem remaining_reader_worker (h : IsRunning capacity f) (hcapacity : 1 ≤ capacity) :
    ((f.turn .reader).2.turn .worker).2.remaining = f.remaining.tail := by
  have hreader := f.turn_remaining .reader
  rw [turn_reader_fst] at hreader
  have hworker := (f.turn .reader).2.turn_remaining .worker
  rw [show (f.turn .reader).2.remaining = f.remaining from hreader] at hworker
  cases hwaiting : (f.turn .reader).2.queue.waiting with
  | nil =>
      rw [remaining_eq_nil_of_reader h hcapacity hwaiting, List.append_eq_nil_iff] at hworker
      rw [remaining_eq_nil_of_reader h hcapacity hwaiting, hworker.2]
      rfl
  | cons line rest =>
      have hline : ((f.turn .reader).2.turn .worker).1 = some line := by
        change (f.turn .reader).2.queue.pop.1 = some line
        simp only [Queue.pop, hwaiting]
      rw [← hworker, hline]
      rfl

theorem alternately_succ (count : Nat) :
    alternately (count + 1) = .reader :: .worker :: alternately count := by
  rw [alternately, List.replicate_succ, List.flatten_cons]
  rfl

theorem remaining_alternately (h : IsRunning capacity f) (hcapacity : 1 ≤ capacity) (count : Nat) :
    (f.turns (alternately count)).2.remaining = f.remaining.drop count := by
  induction count generalizing f with
  | zero => rfl
  | succ count ih =>
      rw [alternately_succ, turns_cons, turns_cons, ih ((h.turn .reader).turn .worker),
        remaining_reader_worker h hcapacity, List.drop_tail]

/-- In the end every line reaches the worker. -/
theorem isDrained_alternately (h : IsRunning capacity f) (hcapacity : 1 ≤ capacity) {count : Nat}
    (hcount : f.remaining.length ≤ count) : (f.turns (alternately count)).2.isDrained = true := by
  rw [isDrained_iff, remaining_alternately h hcapacity, List.drop_eq_nil_iff]
  exact hcount

/-- A worker that has not begun takes all lines that are there to be read. -/
theorem delivered_eq (h : IsRunning capacity f) (hcapacity : 1 ≤ capacity)
    (hwaiting : f.queue.waiting = []) : f.delivered = f.unread := by
  have hremaining : f.remaining = f.unread := by rw [remaining, hwaiting, List.nil_append]
  have hdrained := isDrained_alternately h hcapacity
    (Nat.le_of_eq (congrArg List.length hremaining))
  have hkept := f.turns_remaining (alternately f.unread.length)
  rw [(isDrained_iff _).1 hdrained, List.append_nil, hremaining] at hkept
  exact hkept

end Feed

end CommandBot.Console
