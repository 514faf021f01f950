import CommandBot.KeyMap
import CommandBot.Time

/-!
# Cooldowns

A cooldown is the span that has to pass between two uses of the same thing. `CommandCooldowns`
holds the last use of each command, and a use that is too early leaves no trace in it.
`CallerCooldowns` holds the last success of each caller of a module; there the check and the charge
are two steps, because only what succeeds is charged.
-/

namespace CommandBot

/-- Whether something may be used now. -/
inductive Readiness where
  | ready
  | waiting (remaining : Duration)
  deriving DecidableEq, Repr

/-- The last use of each command of a channel. -/
structure CommandCooldowns where
  lastUse : KeyMap Instant
  deriving DecidableEq, Repr

namespace CommandCooldowns

/-- No command has been used. -/
def empty : CommandCooldowns := ⟨.empty⟩

/-- Uses a command, if its last use lies back at least as long as the cooldown. -/
def use (c : CommandCooldowns) (name : String) (cooldown : Duration) (now : Instant) :
    Readiness × CommandCooldowns :=
  match c.lastUse.get? name with
  | some last =>
      if now - last < cooldown then (.waiting (cooldown - (now - last)), c)
      else (.ready, ⟨c.lastUse.insert name now⟩)
  | none => (.ready, ⟨c.lastUse.insert name now⟩)

/-- Forgets the last use of a command. -/
def forget (c : CommandCooldowns) (name : String) : CommandCooldowns := ⟨c.lastUse.erase name⟩

end CommandCooldowns

/-- The last success of each caller of a module, and the cooldown that all of them have. -/
structure CallerCooldowns where
  cooldown : Duration
  lastSuccess : KeyMap Instant
  deriving DecidableEq, Repr

namespace CallerCooldowns

/-- No caller has had a success. -/
def start (cooldown : Duration) : CallerCooldowns := ⟨cooldown, .empty⟩

/-- Whether the caller may try again. -/
def status (c : CallerCooldowns) (caller : String) (now : Instant) : Readiness :=
  match c.lastSuccess.get? caller with
  | none => .ready
  | some last =>
      let elapsed := now - last
      if c.cooldown ≤ elapsed then .ready else .waiting (c.cooldown - elapsed)

def charge (c : CallerCooldowns) (caller : String) (now : Instant) : CallerCooldowns :=
  ⟨c.cooldown, c.lastSuccess.insert caller now⟩

@[simp] theorem cooldown_charge (c : CallerCooldowns) (caller : String) (now : Instant) :
    (c.charge caller now).cooldown = c.cooldown := rfl

theorem get?_charge (c : CallerCooldowns) (caller : String) (now : Instant) (id : String) :
    (c.charge caller now).lastSuccess.get? id =
      if id = caller then some now else c.lastSuccess.get? id :=
  KeyMap.get?_insert c.lastSuccess caller now id

end CallerCooldowns

end CommandBot
