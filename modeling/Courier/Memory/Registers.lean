import Courier.AccessToken
import Courier.Channel

/-!
# Registers in memory

The registers of channels and of token holders. Ids count from one and are never used again, not even the id that was
meant for a token whose user already holds one.
-/

namespace Courier.Memory

/-- The registered channels in the order of their ids. -/
structure Channels where
  rows : List Channel
  /-- How many channels have ever been registered. -/
  used : Nat
  deriving DecidableEq

namespace Channels

/-- No channels. -/
def empty : Channels := ⟨[], 0⟩

/-- Registers a channel. -/
def add (t : Channels) (p : Platform) (target group : String) : Channel × Channels :=
  let c : Channel := ⟨Int64.ofNat (t.used + 1), p, target, group⟩
  (c, ⟨t.rows ++ [c], t.used + 1⟩)

/-- The channels with any of the ids. -/
def withIds (t : Channels) (ids : List Int64) : List Channel := t.rows.filter fun c => ids.contains c.id

/-- The channels in any of the groups. -/
def inGroups (t : Channels) (groups : List String) : List Channel := t.rows.filter fun c => groups.contains c.group

/-- The channel with an id. -/
def find (t : Channels) (id : Int64) : Option Channel := t.rows.find? fun c => c.id == id

/-- The channels in a group. -/
def groupMembers (t : Channels) (group : String) : List Channel := t.rows.filter fun c => c.group == group

/-- The channels on a platform. -/
def platformMembers (t : Channels) (p : Platform) : List Channel := t.rows.filter fun c => c.platform == p

/-- Removes the channel with an id; whether there was one. -/
def remove (t : Channels) (id : Int64) : Bool × Channels :=
  (t.rows.any fun c => c.id == id, { t with rows := t.rows.filter fun c => c.id != id })

end Channels

/-- The issued tokens in the order of their ids. -/
structure Tokens where
  rows : List AccessToken
  /-- How many ids have been used up. -/
  used : Nat
  /-- How many tokens have ever been issued. -/
  issued : Nat
  deriving DecidableEq

namespace Tokens

/-- No tokens. -/
def empty : Tokens := ⟨[], 0, 0⟩

/-- The token of a user. -/
def ofUser (t : Tokens) (user : String) : Option AccessToken := t.rows.find? fun r => r.adminUser == user

/-- The token with a text. -/
def find (t : Tokens) (token : String) : Option AccessToken := t.rows.find? fun r => r.token == token

/-- Issues a token to a user who holds none. Its text is chosen by `mint` from the number of tokens issued before. -/
def issue (t : Tokens) (mint : Nat → String) (moment : Int64 → Instant) (user : String) :
    Option AccessToken × Tokens :=
  let id := Int64.ofNat (t.used + 1)
  match t.ofUser user with
  | some _ => (none, { t with used := t.used + 1 })
  | none =>
    let r : AccessToken := ⟨id, mint t.issued, user, moment id⟩
    (some r, ⟨t.rows ++ [r], t.used + 1, t.issued + 1⟩)

/-- Takes the token of a user away; whether there was one. -/
def revoke (t : Tokens) (user : String) : Bool × Tokens :=
  (t.rows.any fun r => r.adminUser == user, { t with rows := t.rows.filter fun r => r.adminUser != user })

end Tokens

end Courier.Memory
