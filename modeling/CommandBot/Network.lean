import CommandBot.Time

/-!
# The network

Modules reach the world through a `Network`, which says how each web request and each delivery
ends. It may answer by all that has gone out before, and every answer takes a span of time, so that
any behaviour of the services behind it is some `Network`.
-/

namespace CommandBot

/-- Where a connection is made to: a host and the number of a socket at it. -/
structure Endpoint where
  host : String
  socket : Nat
  deriving DecidableEq, Repr

/-- Something that has gone out to the network. -/
inductive Exchange where
  /-- A web request. -/
  | request (url : String)
  /-- A text that was sent over a connection, if one could be made. -/
  | delivery (endpoint : Endpoint) (text : String) (connected : Bool)
  deriving DecidableEq, Repr

/-- The answer to a web request: its status and its body. -/
structure WebAnswer where
  status : Nat
  body : String
  deriving DecidableEq, Repr

/-- An answer and the time that it takes. -/
structure Timed (α : Type) where
  span : Duration
  answer : α

/-- How requests and deliveries end, given what has gone out before. A failure has words. -/
structure Network where
  fetch : List Exchange → (url : String) → Timed (Except String WebAnswer)
  connect : List Exchange → Endpoint → Timed (Except String Unit)

/-- The network that answers nothing. -/
def Network.down : Network :=
  ⟨fun _ _ => ⟨0, .error "no connection"⟩, fun _ _ => ⟨0, .error "no connection"⟩⟩

end CommandBot
