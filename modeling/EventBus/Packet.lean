import EventBus.Qos
import EventBus.Utf8

namespace EventBus

inductive SubscribeCode where
  | success (granted : Qos)
  | failure
  | unspecified
  | implementationSpecific
  | notAuthorized
  | topicFilterInvalid
  | identifierInUse
  | quotaExceeded
  | sharedSubscriptionsUnsupported
  | identifiersUnsupported
  | wildcardsUnsupported
  deriving DecidableEq, Repr

namespace SubscribeCode

def text : SubscribeCode → String
  | .success granted => s!"Success({granted.name})"
  | .failure => "Failure"
  | .unspecified => "Unspecified"
  | .implementationSpecific => "ImplementationSpecific"
  | .notAuthorized => "NotAuthorized"
  | .topicFilterInvalid => "TopicFilterInvalid"
  | .identifierInUse => "PkidInUse"
  | .quotaExceeded => "QuotaExceeded"
  | .sharedSubscriptionsUnsupported => "SharedSubscriptionsNotSupported"
  | .identifiersUnsupported => "SubscriptionIdNotSupported"
  | .wildcardsUnsupported => "WildcardSubscriptionsNotSupported"

def listText (codes : List SubscribeCode) : String :=
  "[" ++ ", ".intercalate (codes.map text) ++ "]"

end SubscribeCode

inductive Confirmation.Kind where
  | acknowledged
  | received
  | released
  | complete
  deriving DecidableEq, Repr

def Confirmation.Kind.name : Confirmation.Kind → String
  | .acknowledged => "PubAck"
  | .received => "PubRec"
  | .released => "PubRel"
  | .complete => "PubComp"

/-- A confirmation, with its reason and its properties as the client shows them. -/
structure Confirmation where
  kind : Confirmation.Kind
  id : UInt16
  reason : String
  properties : String
  deriving DecidableEq, Repr

def Confirmation.describe (c : Confirmation) : String :=
  String.join [c.kind.name, "(", c.kind.name, " \x7b pkid: ", toString c.id.toNat, ", reason: ",
    c.reason, ", properties: ", c.properties, " \x7d)"]

inductive Packet where
  | connectAnswer
  | publish (topic payload : List UInt8) (retain : Bool)
  | disconnect
  | subscribeAnswer (id : UInt16) (codes : List SubscribeCode)
  | confirmation (confirmation : Confirmation)
  | pingRequest
  | pingAnswer
  deriving DecidableEq, Repr

/-- What the client is told by its connection: a packet came in, or one went out. -/
inductive Traffic where
  | incoming (packet : Packet)
  | outgoing
  deriving DecidableEq, Repr

inductive Route where
  | connected
  | message (topic : String) (payload : List UInt8) (retain : Bool)
  | disconnected
  | subscribed (id : UInt16) (codes : List SubscribeCode)
  | housekeeping (description : String)
  | outgoing
  deriving DecidableEq, Repr

/-- A topic that is not UTF-8 is read with replacement characters. -/
def Traffic.route : Traffic → Route
  | .incoming .connectAnswer => .connected
  | .incoming (.publish topic payload retain) =>
    .message (String.ofList (Utf8.decodeLossy topic)) payload retain
  | .incoming .disconnect => .disconnected
  | .incoming (.subscribeAnswer id codes) => .subscribed id codes
  | .incoming (.confirmation confirmation) => .housekeeping confirmation.describe
  | .incoming .pingRequest => .housekeeping "PingReq(PingReq)"
  | .incoming .pingAnswer => .housekeeping "PingResp(PingResp)"
  | .outgoing => .outgoing

end EventBus
