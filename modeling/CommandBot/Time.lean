import CommandBot.Number.Integer

/-!
# Time

Moments and spans of time are whole numbers of nanoseconds. A clock never runs backwards, and the
span from a moment to an earlier one is zero.
-/

namespace CommandBot

/-- A moment, as nanoseconds since some fixed origin. -/
abbrev Instant := Nat

/-- A span of time in nanoseconds. -/
abbrev Duration := Nat

namespace Duration

def seconds (n : Nat) : Duration := n * 1000000000

def milliseconds (n : Nat) : Duration := n * 1000000

def inSeconds (d : Duration) : Nat := d / 1000000000

def inMilliseconds (d : Duration) : Nat := d / 1000000

/-- The longest span that an uptime shows: as many milliseconds as fit in 63 bits. -/
def longestUptime : Duration := milliseconds (Number.twoPow 63 - 1)

/-- A number of seconds as `H:MM:SS`. -/
def clockText (seconds : Nat) : String :=
  toString (seconds / 3600) ++ ":" ++ Number.twoDigits (seconds / 60 % 60) ++ ":"
    ++ Number.twoDigits (seconds % 60)

/-- The whole seconds of a span as `H:MM:SS`; a span beyond the longest uptime counts as none. -/
def uptimeText (d : Duration) : String :=
  clockText (if d ≤ longestUptime then inSeconds d else 0)

/-- A number of seconds as `M:SS`. -/
def lengthText (seconds : Nat) : String :=
  toString (seconds / 60) ++ ":" ++ Number.twoDigits (seconds % 60)

end Duration

end CommandBot
