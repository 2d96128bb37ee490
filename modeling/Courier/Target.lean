import Courier.Text.Blank
import Courier.Text.Decimal

/-!
# Targets

A request names its targets by texts. A text of ASCII digits names a channel by its id, any other text that is not blank
names a group; blanks around either do not count, and a blank text names nothing.
-/

namespace Courier

/-- What one text names. -/
inductive Target
  /-- A channel, by the digits of its id. -/
  | channel (digits : String)
  /-- A group. -/
  | group (name : String)
  deriving DecidableEq, Repr

namespace Target

/-- A text of ASCII digits only. -/
def isNumeric (s : String) : Bool := s.toList.all Decimal.isDigit

/-- What a text names; a blank one names nothing. -/
def ofText? (raw : String) : Option Target :=
  let t := Text.trim raw
  if t = "" then none else if isNumeric t then some (channel t) else some (group t)

/-- The digits of a target that is a channel. -/
def digits? : Target → Option String
  | channel d => some d
  | group _ => none

/-- The name of a target that is a group. -/
def name? : Target → Option String
  | channel _ => none
  | group n => some n

end Target

/-- Targets apart by their kind, each kind in the order of the request and with its repetitions. -/
structure Targets where
  /-- The digits of channel ids. -/
  ids : List String
  /-- The names of groups. -/
  groups : List String
  deriving DecidableEq, Repr

namespace Targets

/-- The targets that a list of texts names. -/
def ofTexts (raw : List String) : Targets :=
  let ts := raw.filterMap Target.ofText?
  ⟨ts.filterMap Target.digits?, ts.filterMap Target.name?⟩

/-- No targets. -/
def isEmpty (t : Targets) : Bool := t.ids.isEmpty && t.groups.isEmpty

/-- The ids among the targets. Digits of a number above the 64-bit range are the id of no channel. -/
def channelIds (t : Targets) : List Int64 := t.ids.filterMap Decimal.int64?

end Targets

end Courier
