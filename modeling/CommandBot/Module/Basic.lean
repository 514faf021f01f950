import CommandBot.Author
import CommandBot.Channel.State
import CommandBot.Network

/-!
# Modules

A module is a handler that a template calls by its name. `Modules` holds those of a channel by
their names in lowercase; one that could not be loaded keeps its place with the reason.

What a module does when it is called is a `Run`: it changes things, waits, changes more, and ends
with a reply or a fault. A run that would wait longer than it may is cut off at that pause, and
what it had changed until then stays.
-/

namespace CommandBot

/-- What a module answers. -/
inductive Reply where
  | text (s : String)
  /-- The whole response is called off. -/
  | veto
  deriving DecidableEq, Repr

/-- How many arguments a module takes. -/
structure Arity where
  /-- Without so many it is not called. -/
  required : Nat
  /-- It takes no more than these; without a limit it takes all. -/
  limit : Option Nat
  deriving DecidableEq, Repr

namespace Arity

/-- Any number of arguments, and all there are. -/
def all : Arity := ⟨0, none⟩

def upTo (n : Nat) : Arity := ⟨0, some n⟩

end Arity

/-- A module that has been loaded. Its body is what it keeps between calls. -/
structure Module (ι : Type) where
  name : String
  help : String
  arity : Arity
  body : ι
  deriving DecidableEq, Repr

/-- The place of a module in a channel. -/
inductive Slot (ι : Type) where
  | loaded (m : Module ι)
  | unavailable (reason : String)
  deriving DecidableEq, Repr

/-- A place with another kind of body. -/
def Slot.map {ι κ : Type} (f : ι → κ) : Slot ι → Slot κ
  | .loaded m => .loaded ⟨m.name, m.help, m.arity, f m.body⟩
  | .unavailable reason => .unavailable reason

/-- The modules of a channel by their names in lowercase. -/
structure Modules (ι : Type) where
  slots : KeyMap (Slot ι)
  deriving DecidableEq, Repr

namespace Modules

variable {ι κ : Type}

def empty : Modules ι := ⟨.empty⟩

/-- Whether there is a place for a module of this name. -/
def contains (ms : Modules ι) (name : String) : Bool := ms.slots.contains (Text.lower name)

/-- The module of this name in any letter case. -/
def lookup (ms : Modules ι) (name : String) : Except Fault (Module ι) :=
  let key := Text.lower name
  match ms.slots.get? key with
  | some (.loaded m) => .ok m
  | some (.unavailable reason) => .error (.moduleUnavailable key reason)
  | none => .error (.moduleNotFound key)

def insert (ms : Modules ι) (m : Module ι) : Modules ι :=
  ⟨ms.slots.insert (Text.lower m.name) (.loaded m)⟩

/-- Marks the place of a module that could not be loaded. -/
def markUnavailable (ms : Modules ι) (name reason : String) : Modules ι :=
  ⟨ms.slots.insert (Text.lower name) (.unavailable reason)⟩

def names (ms : Modules ι) : List String := ms.slots.keys

/-- Gives the module that stands under a name a new body. -/
def setBody (ms : Modules ι) (name : String) (m : Module ι) (body : ι) : Modules ι :=
  ⟨ms.slots.insert (Text.lower name) (.loaded { m with body := body })⟩

/-- What stands under a name after a module has been given a new body. -/
theorem get?_setBody (ms : Modules ι) (name : String) (m : Module ι) (body : ι) (key : String) :
    (ms.setBody name m body).slots.get? key =
      if key = Text.lower name then some (.loaded { m with body := body })
      else ms.slots.get? key :=
  KeyMap.get?_insert ..

/-- The same modules with another kind of bodies. -/
def map (f : ι → κ) (ms : Modules ι) : Modules κ := ⟨ms.slots.map (Slot.map f)⟩

/-- The modules as they see one another: without their bodies. -/
def outline (ms : Modules ι) : Modules Unit := ms.map fun _ => ()

end Modules

/-- A call of a module: what it is given, and what it may look at. -/
structure Invocation where
  args : List String
  author : Author
  now : Instant
  modules : Modules Unit
  channel : Channel
  exchanges : List Exchange

/-- What a module has made of itself, the channel and the network. -/
structure Effects (ι : Type) where
  body : ι
  channel : Channel
  exchanges : List Exchange

/-- A wait of a module, and what it has done until then. -/
structure Pause (ι : Type) where
  span : Duration
  effects : Effects ι

/-- All that a module does when it is called. -/
structure Run (ι : Type) where
  pauses : List (Pause ι)
  effects : Effects ι
  result : Except Fault Reply

/-- How a run came out: the time it took, its effects, and its result unless it was cut off. -/
structure Ending (ι : Type) where
  elapsed : Duration
  effects : Effects ι
  result : Option (Except Fault Reply)

namespace Effects

variable {ι κ : Type}

/-- The same effects with another kind of body. -/
def map (f : ι → κ) (e : Effects ι) : Effects κ := ⟨f e.body, e.channel, e.exchanges⟩

end Effects

namespace Run

variable {ι κ : Type}

/-- A run without a wait. -/
def instant (body : ι) (channel : Channel) (exchanges : List Exchange)
    (result : Except Fault Reply) : Run ι :=
  ⟨[], ⟨body, channel, exchanges⟩, result⟩

/-- A run that answers with a text and changes nothing but the channel. -/
def reply (body : ι) (call : Invocation) (channel : Channel) (text : String) : Run ι :=
  instant body channel call.exchanges (.ok (.text text))

/-- The same run with another kind of body. -/
def map (f : ι → κ) (r : Run ι) : Run κ :=
  ⟨r.pauses.map fun p => ⟨p.span, p.effects.map f⟩, r.effects.map f, r.result⟩

/-- A run that first waits. -/
def after (pause : Pause ι) (r : Run ι) : Run ι := { r with pauses := pause :: r.pauses }

/-- Ends the run at the first pause by whose end more than `limit` has passed, counting the time
that has passed before. -/
def endFrom (elapsed limit : Duration) (final : Effects ι) (result : Except Fault Reply) :
    List (Pause ι) → Ending ι
  | [] => ⟨elapsed, final, some result⟩
  | p :: rest =>
      if limit < elapsed + p.span then ⟨limit, p.effects, none⟩
      else endFrom (elapsed + p.span) limit final result rest

/-- How the run ends if it may take no longer than `limit`. -/
def within (r : Run ι) (limit : Duration) : Ending ι := endFrom 0 limit r.effects r.result r.pauses

end Run

/-- Bodies that can be called. -/
class Callable (ι : Type) where
  call : Network → ι → Invocation → Run ι

instance {ι κ : Type} [Callable ι] [Callable κ] : Callable (ι ⊕ κ) where
  call network
    | .inl body, invocation => (Callable.call network body invocation).map .inl
    | .inr body, invocation => (Callable.call network body invocation).map .inr

end CommandBot
