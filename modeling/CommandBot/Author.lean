/-!
# Authors of chat lines
-/

namespace CommandBot

/-- Who sent a chat line, with the roles that the channel knows of. -/
structure Author where
  id : String
  name : String
  isModerator : Bool := false
  isSubscriber : Bool := false
  isVip : Bool := false
  deriving DecidableEq, Repr, Inhabited

namespace Author

/-- Moderators, subscribers and VIPs. -/
def isPrivileged (a : Author) : Bool := a.isModerator || a.isSubscriber || a.isVip

/-- The name of the highest role; VIPs stand above subscribers. -/
def status (a : Author) : String :=
  if a.isModerator then "Moderator"
  else if a.isVip then "VIP"
  else if a.isSubscriber then "Subscriber"
  else "Viewer"

end Author

end CommandBot
