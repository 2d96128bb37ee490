import Courier.AccessToken
import Courier.FailureRecord
import Courier.Json.Tree

/-!
# Plans

Whatever the courier asks of its surroundings is a `Call`, and a procedure that makes calls is a `Plan`: a value that
says which call comes next and how its reply is used. A plan does nothing by itself. It is carried out by something that
answers calls (`Plan.run`), so the same plan can be run against stores in memory, against servers, or call by call among
others. Calls that a plan makes at the same time stand in one step (`Plan.gather`).
-/

namespace Courier

/-- A call to one of the stores and services around the courier. -/
inductive Call
  /-- The channels with any of the ids. -/
  | channelsWithIds (ids : List Int64)
  /-- The channels in any of the groups. -/
  | channelsInGroups (groups : List String)
  /-- The marker kept under a key. -/
  | readMarker (key : String)
  /-- Keeps a marker under a key for a number of milliseconds. -/
  | keepMarker (key : String) (marker : Octets) (lifetime : Nat)
  /-- Appends a payload to the queue of a topic. -/
  | enqueue (topic : String) (payload : Octets)
  /-- Writes a failed attempt down. -/
  | recordFailure (draft : FailureDraft)
  /-- The failed attempt that was written down with an id. -/
  | loadFailure (id : Int64)
  /-- Sends an email. -/
  | sendEmail (email : Email)
  /-- Posts JSON to a URL; the answer is the status code. -/
  | post (url : String) (body : Json)
  /-- Adds a channel. -/
  | addChannel (platform : Platform) (target group : String)
  /-- The channel with an id. -/
  | channelWithId (id : Int64)
  /-- The channels in a group, in the order of their ids. -/
  | groupMembers (group : String)
  /-- The channels on a platform, in the order of their ids. -/
  | platformMembers (platform : Platform)
  /-- Removes a channel; whether there was one. -/
  | removeChannel (id : Int64)
  /-- Issues a token to a user, unless the user holds one. -/
  | issueToken (user : String)
  /-- The token of a user. -/
  | tokenOfUser (user : String)
  /-- The token with a text. -/
  | findToken (token : String)
  /-- Takes the token of a user away; whether there was one. -/
  | revokeToken (user : String)

namespace Call

/-- What a call that succeeds brings. -/
def Answer : Call → Type
  | channelsWithIds _ | channelsInGroups _ | groupMembers _ | platformMembers _ => List Channel
  | readMarker _ => Option Octets
  | keepMarker _ _ _ | enqueue _ _ | sendEmail _ => Unit
  | recordFailure _ => FailureRecord
  | loadFailure _ => Option FailureRecord
  | post _ _ => Nat
  | addChannel _ _ _ => Channel
  | channelWithId _ => Option Channel
  | removeChannel _ | revokeToken _ => Bool
  | issueToken _ | tokenOfUser _ | findToken _ => Option AccessToken

/-- What a call brings; a call that fails brings a text that says why. -/
abbrev Reply (c : Call) : Type := Except String c.Answer

/-- The replies to several calls, in the order of the calls. -/
def Replies : List Call → Type
  | [] => Unit
  | c :: cs => c.Reply × Replies cs

end Call

/-- A procedure that makes calls and ends with a result. -/
inductive Plan (α : Type)
  /-- Ends with a result. -/
  | done (a : α)
  /-- Makes a call and goes on with its reply. -/
  | ask (c : Call) (next : c.Reply → Plan α)
  /-- Makes calls at the same time and goes on when all have been answered. -/
  | gather (cs : List Call) (next : Call.Replies cs → Plan α)

namespace Plan

variable {α β : Type}

/-- Goes on with another plan when the first one has ended. -/
def bind : Plan α → (α → Plan β) → Plan β
  | done a, f => f a
  | ask c k, f => ask c fun r => (k r).bind f
  | gather cs k, f => gather cs fun rs => (k rs).bind f

instance : Monad Plan where
  pure := done
  bind := bind

/-- A plan with its result changed. -/
def map (f : α → β) (p : Plan α) : Plan β := p.bind fun a => done (f a)

/-- Something that answers calls and changes its state by it. -/
abbrev Responder (σ : Type) := (c : Call) → σ → c.Reply × σ

/-- The replies of a responder to calls that are made one after another. -/
def answerAll {σ : Type} (answer : Responder σ) : (cs : List Call) → σ → Call.Replies cs × σ
  | [], s => ((), s)
  | c :: cs, s =>
    let (r, s) := answer c s
    let (rs, s) := answerAll answer cs s
    ((r, rs), s)

/-- Carries a plan out; calls that are made at the same time are answered in their order. -/
def run {σ : Type} (answer : Responder σ) : Plan α → σ → α × σ
  | done a, s => (a, s)
  | ask c k, s =>
    let (r, s) := answer c s
    (k r).run answer s
  | gather cs k, s =>
    let (rs, s) := answerAll answer cs s
    (k rs).run answer s

theorem bind_done (p : Plan α) : p.bind done = p := by
  induction p with
  | done a => rfl
  | ask c k ih => simp only [bind, ih]
  | gather cs k ih => simp only [bind, ih]

theorem bind_bind {γ : Type} (p : Plan α) (f : α → Plan β) (g : β → Plan γ) :
    (p.bind f).bind g = p.bind fun a => (f a).bind g := by
  induction p with
  | done a => rfl
  | ask c k ih => simp only [bind, ih]
  | gather cs k ih => simp only [bind, ih]

/-- Carrying out one plan and then another is carrying out the two in turn. -/
theorem run_bind {σ : Type} (answer : Responder σ) (p : Plan α) (f : α → Plan β) (s : σ) :
    (p.bind f).run answer s = (f (p.run answer s).1).run answer (p.run answer s).2 := by
  induction p generalizing s with
  | done a => rfl
  | ask c k ih => simp only [bind, run, ih]
  | gather cs k ih => simp only [bind, run, ih]

instance : LawfulMonad Plan := LawfulMonad.mk' Plan bind_done (fun _ _ => rfl) bind_bind

end Plan

end Courier
