/-!
# Platforms

The ways in which a channel is reached.
-/

namespace Courier

/-- How a channel is reached. -/
inductive Platform
  | email
  | slack
  | discord
  deriving DecidableEq, Repr

namespace Platform

/-- Every platform. -/
def all : List Platform := [.email, .slack, .discord]

/-- The name of a platform. -/
def name : Platform → String
  | .email => "email"
  | .slack => "slack"
  | .discord => "discord"

/-- The platform with a name. -/
def ofName? (s : String) : Option Platform := all.find? fun p => p.name == s

/-- Whether a platform is a chat service, reached by a post to a URL. -/
def isChat : Platform → Bool
  | .email => false
  | .slack | .discord => true

theorem ofName?_name (p : Platform) : ofName? p.name = some p := by cases p <;> decide

end Platform

end Courier
