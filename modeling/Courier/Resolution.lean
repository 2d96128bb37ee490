import Courier.Error
import Courier.Plan
import Courier.Target

/-!
# Resolution of targets

Targets become channels by two lookups, one by ids and one by groups, made at the same time; a lookup with nothing to
look for is left out. Both are waited for. When both fail the lookup by ids is reported, and when both succeed a
channel found twice is there once.
-/

namespace Courier.Resolution

/-- The channels of two lookups by their ids; a later channel takes the place of an earlier one with its id. -/
def merge (byId byGroup : List Channel) : Keyed Channel :=
  Keyed.ofList ((byId ++ byGroup).map fun c => (c.id, c))

/-- The outcome of two lookups that have both been answered. -/
def settle (byId byGroup : Except String (List Channel)) : Except RelayError (Keyed Channel) :=
  match byId, byGroup with
  | .error e, _ => .error (.unresolved ("lookup by id: " ++ e))
  | .ok _, .error e => .error (.unresolved ("lookup by group: " ++ e))
  | .ok cs, .ok ds => .ok (merge cs ds)

/-- Looks the targets up. -/
def resolve (targets : Targets) : Plan (Except RelayError (Keyed Channel)) :=
  let ids := targets.channelIds
  match ids, targets.groups with
  | [], [] => .done (settle (.ok []) (.ok []))
  | [], groups => .gather [.channelsInGroups groups] fun (rs : Call.Reply _ × Unit) => .done (settle (.ok []) rs.1)
  | ids, [] => .gather [.channelsWithIds ids] fun (rs : Call.Reply _ × Unit) => .done (settle rs.1 (.ok []))
  | ids, groups =>
    .gather [.channelsWithIds ids, .channelsInGroups groups] fun (rs : Call.Reply _ × Call.Reply _ × Unit) =>
      .done (settle rs.1 rs.2.1)

end Courier.Resolution
