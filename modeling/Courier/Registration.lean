import Courier.Error
import Courier.Plan
import Courier.Target

/-!
# Registration of channels and token holders

Which channels and which admin users may be registered, and the procedures that keep the two registers. Targets, groups
and users are registered without the blanks around them.
-/

namespace Courier

/-- Whether one list of characters stands at the front of another. -/
def startsWith (front : String) (s : String) : Bool := front.toList.isPrefixOf s.toList

/-- Why a channel cannot be registered, in the order in which it is found out. -/
inductive ChannelFault
  | unknownPlatform (name : String)
  | targetBlank
  | groupBlank
  /-- A group of digits only would be taken for a channel id. -/
  | groupNumeric
  | notAnAddress (target : String)
  | notAUrl (target : String)
  deriving DecidableEq, Repr

namespace ChannelFault

/-- What is wrong, in words. -/
def message : ChannelFault → String
  | unknownPlatform n =>
    "Invalid platform '" ++ n ++ "'. Valid platforms: " ++ ", ".intercalate (Platform.all.map Platform.name)
  | targetBlank => "target_id is required"
  | groupBlank => "group is required"
  | groupNumeric => "group must not be purely numeric"
  | notAnAddress t => "'" ++ t ++ "' is not a valid email address"
  | notAUrl t => "'" ++ t ++ "' is not a valid webhook URL"

end ChannelFault

namespace Platform

/-- Whether a target can be reached on a platform: an address has an at sign, a webhook is a web URL. -/
def accepts (p : Platform) (target : String) : Bool :=
  if p.isChat then startsWith "https://" target || startsWith "http://" target else target.toList.contains '@'

/-- What is wrong with a target that a platform does not accept. -/
def rejection (p : Platform) (target : String) : ChannelFault :=
  if p.isChat then .notAUrl target else .notAnAddress target

/-- What a name that no platform has is told. -/
def unknownMessage (name : String) : String := "invalid platform: " ++ name

end Platform

/-- The platform of a channel that may be registered. -/
def ChannelDraft.validate (d : ChannelDraft) : Except ChannelFault Platform :=
  match Platform.ofName? d.platform with
  | none => .error (.unknownPlatform d.platform)
  | some p =>
    let target := Text.trim d.target
    let group := Text.trim d.group
    if target = "" then .error .targetBlank
    else if group = "" then .error .groupBlank
    else if Target.isNumeric group then .error .groupNumeric
    else if p.accepts target then .ok p
    else .error (p.rejection target)

/-- Whether a text is an email address: something before the first at sign, and a dot somewhere after it. -/
def isAddress (s : String) : Bool :=
  let (before, after) := s.toList.span (· != '@')
  !before.isEmpty && after.contains '.'

/-- The user whom a token is for. -/
def TokenDraft.user (d : TokenDraft) : Except ServiceError String :=
  let user := Text.trim d.adminUser
  if isAddress user then .ok user
  else .error (.validation ("admin_user '" ++ d.adminUser ++ "' must be an email address"))

namespace Registration

variable {α : Type}

/-- The answer to a call on the registers; a failure is one of the database. -/
def answered : Except String α → Except ServiceError α
  | .ok a => .ok a
  | .error e => .error (.database e)

/-- An answer that has to be there. -/
def found (missing : String) : Except String (Option α) → Except ServiceError α
  | .ok (some a) => .ok a
  | .ok none => .error (.notFound missing)
  | .error e => .error (.database e)

/-- Registers a channel. -/
def addChannel (d : ChannelDraft) : Plan (Except ServiceError Channel) :=
  match d.validate with
  | .error f => .done (.error (.validation f.message))
  | .ok p => .ask (.addChannel p (Text.trim d.target) (Text.trim d.group)) fun r => .done (answered r)

/-- The text for a channel that does not exist. -/
def channelMissing (id : Int64) : String := "Channel " ++ Decimal.ofInt id.toInt ++ " not found"

/-- The channel with an id. -/
def channel (id : Int64) : Plan (Except ServiceError Channel) :=
  .ask (.channelWithId id) fun r => .done (found (channelMissing id) r)

/-- The channels in a group. -/
def groupMembers (group : String) : Plan (Except ServiceError (List Channel)) :=
  .ask (.groupMembers group) fun r => .done (answered r)

/-- The channels on the platform with a name. -/
def platformMembers (name : String) : Plan (Except ServiceError (List Channel)) :=
  match Platform.ofName? name with
  | none => .done (.error (.validation (Platform.unknownMessage name)))
  | some p => .ask (.platformMembers p) fun r => .done (answered r)

/-- Removes a channel; whether there was one. -/
def removeChannel (id : Int64) : Plan (Except ServiceError Bool) :=
  .ask (.removeChannel id) fun r => .done (answered r)

/-- Issues a token. A user holds at most one. -/
def issueToken (d : TokenDraft) : Plan (Except ServiceError AccessToken) :=
  match d.user with
  | .error e => .done (.error e)
  | .ok user =>
    .ask (.issueToken user) fun
      | .error e => .done (.error (.database e))
      | .ok none => .done (.error (.conflict ("A token already exists for " ++ user)))
      | .ok (some t) => .done (.ok t)

/-- The text for a user without a token. -/
def tokenMissing (user : String) : String := "No token for " ++ user

/-- The token of a user. -/
def tokenOfUser (user : String) : Plan (Except ServiceError AccessToken) :=
  .ask (.tokenOfUser user) fun r => .done (found (tokenMissing user) r)

/-- The token with a text, if it was issued. -/
def findToken (token : String) : Plan (Except ServiceError (Option AccessToken)) :=
  .ask (.findToken token) fun r => .done (answered r)

/-- Takes the token of a user away; whether there was one. -/
def revokeToken (user : String) : Plan (Except ServiceError Bool) :=
  .ask (.revokeToken user) fun r => .done (answered r)

end Registration

end Courier
