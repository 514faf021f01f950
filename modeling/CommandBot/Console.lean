import CommandBot.Router
import CommandBot.Text.Class

/-!
# The console

A channel can be driven from a terminal instead of a chat server: every line that is typed is a
chat line of one author, and every reply is printed under the name of the channel. A reader puts
the lines into a queue from which the worker takes them. The two take turns in any order; a reader
that finds the queue full waits for a later turn, so that no line is lost.
-/

namespace CommandBot.Console

/-- The lines of a text. A line feed ends a line, and so does a carriage return before a line feed;
what follows the last line feed is a line unless it is empty. -/
def lines : List Char → List (List Char)
  | [] => []
  | '\n' :: rest => [] :: lines rest
  | '\r' :: '\n' :: rest => [] :: lines rest
  | c :: rest =>
      match lines rest with
      | [] => [[c]]
      | line :: more => (c :: line) :: more

/-- The chat lines of a text: its lines that are not blank, all of the same author. -/
def chatLines (author : Author) (text : String) : List IncomingLine :=
  ((lines text.toList).filter fun line => !line.all Text.isBlank).map fun line =>
    ⟨author, String.ofList line⟩

/-- What is printed for a reply. -/
def printed (channel reply : String) : String :=
  "[" ++ channel ++ "] " ++ reply ++ "\n"

/-- Lines on their way from the terminal to the worker. -/
structure Feed where
  /-- The lines that the reader has not put into the queue yet. -/
  unread : List IncomingLine
  queue : Queue
  deriving DecidableEq, Repr

/-- Whose turn it is. -/
inductive Turn where
  | reader
  | worker
  deriving DecidableEq, Repr

namespace Feed

/-- Whether every line has reached the worker. -/
def isDrained (f : Feed) : Bool := f.unread.isEmpty && f.queue.waiting.isEmpty

/-- One turn, and the line that the worker takes in it. The reader waits while the queue is full,
and the worker while it is empty. -/
def turn (f : Feed) : Turn → Option IncomingLine × Feed
  | .reader =>
      match f.unread with
      | [] => (none, f)
      | line :: rest =>
          match f.queue.push? line with
          | some queue => (none, ⟨rest, queue⟩)
          | none => (none, f)
  | .worker => (f.queue.pop.1, { f with queue := f.queue.pop.2 })

/-- The lines that the worker takes in the course of some turns. -/
def turns (f : Feed) : List Turn → List IncomingLine × Feed
  | [] => ([], f)
  | t :: rest =>
      let (line, f) := f.turn t
      let (others, f) := f.turns rest
      (line.toList ++ others, f)

/-- Turns of the reader and the worker, one after the other, for so many lines. -/
def alternately (count : Nat) : List Turn :=
  (List.replicate count [Turn.reader, Turn.worker]).flatten

/-- The lines of a feed as the worker takes them. -/
def delivered (f : Feed) : List IncomingLine :=
  (f.turns (alternately f.unread.length)).1

@[simp] theorem turns_nil (f : Feed) : f.turns [] = ([], f) := rfl

@[simp] theorem turns_cons (f : Feed) (t : Turn) (rest : List Turn) :
    f.turns (t :: rest) =
      ((f.turn t).1.toList ++ ((f.turn t).2.turns rest).1, ((f.turn t).2.turns rest).2) := rfl

end Feed

end CommandBot.Console
