import Majuscule.Json.Parser
import Majuscule.Server.Handler

/-!
# Messages

A body is a JSON object of one of two kinds: a call, with a method and, if it is a request, an
identifier, or the reply to a request of the server. `Incoming.read` tells them apart and says what
is wrong with a body that is neither: a text that is not JSON is a parse error, and any other JSON
an invalid request. A key that the message needs may not come twice.
-/

namespace Majuscule.Wire

open Decode Record

/-- A message from the client. -/
inductive Incoming where
  /-- A request if it has an identifier, a notification if not. -/
  | call (method : String) (params : Option Json) (id : Option RequestId)
  | reply (id : RequestId) (reply : ClientReply)

namespace Incoming

/-- The version of the message format. -/
def version : Decoder Unit
  | .str "2.0" => .ok ()
  | v => .error (.wrongType v "2.0")

/-- No two members have one of the keys. -/
def distinct (keys : List String) : Json → Bool
  | .obj members => keys.all fun key => (members.filter fun m => m.1 = key).length ≤ 1
  | _ => true

/-- The value of the only member with a key; none if there are several or there is none. -/
def only? (members : List (String × Json)) (key : String) : Option Json :=
  match members.filter fun m => m.1 = key with
  | [m] => some m.2.canonical
  | _ => none

/-- The keys of an error. -/
def errorKeys : List String := ["code", "message", "data"]

/-- Whether an object has no keys but those of an error, each at most once. -/
def isStrictError : Json → Bool
  | .obj members =>
    members.all (fun m => errorKeys.contains m.1) && distinct errorKeys (.obj members)
  | _ => true

/-- The error of a reply, as it was written. -/
def errorReply? (members : List (String × Json)) : Option RpcError :=
  match members.filter fun m => m.1 = "error" with
  | [m] => if isStrictError m.2 then (RpcError.decode m.2.canonical).toOption else none
  | _ => none

/-- What a reply says: a result, or else an error. -/
def outcome? (members : List (String × Json)) : Option ClientReply :=
  match only? members "result" with
  | some v => some (.result v)
  | none => (errorReply? members).map .error

/-- A reply, which comes as an object only. -/
def reply? : Json → Option Incoming
  | .obj members => do
    let _ ← (version (← only? members "jsonrpc")).toOption
    let id ← (RequestId.decode (← only? members "id")).toOption
    return .reply id (← outcome? members)
  | _ => none

/-- A call. -/
def callDecoder : Decoder Incoming :=
  ((fun _ method params id => Incoming.call method params id)
    <$> required "jsonrpc" version
    <*> defaulted "method" "" text
    <*> defaulted "params" none (fun v => .ok (some v))
    <*> defaulted "id" none (fun v => (RequestId.decode v).map some)).decode "Request"

/-- A call, as it was written. -/
def call? (raw : Json) : Option Incoming :=
  if distinct ["jsonrpc", "method", "params", "id"] raw then (callDecoder raw.canonical).toOption
  else none

/-- The message that a value stands for. Its members are given as they were written. -/
def ofJson? (raw : Json) : Option Incoming :=
  (reply? raw).orElse fun _ => call? raw

/-- The message in a body. -/
def read (body : List UInt8) : Except RpcError Incoming :=
  match String.fromUTF8? ⟨body.toArray⟩ with
  | none => .error .parseError
  | some text =>
    match Json.Parser.front? text.toList with
    | none => .error .parseError
    | some (raw, rest) =>
      match ofJson? raw with
      | none => .error .invalidRequest
      | some m => if (Json.Parser.skipBlanks rest).isEmpty then .ok m else .error .parseError

end Incoming

/-- A member that every message has. -/
def versionMember : String × Option Json :=
  ("jsonrpc", some (.str "2.0"))

/-- A message from the server. -/
def encodeOutbound (m : Outbound) : Json :=
  .object [versionMember, ("method", some (.str m.method)), ("params", some m.params),
    ("id", m.id?.map .nat)]

/-- The reply to a request. -/
def encodeReply (id : RequestId) : Answer → Json
  | .ok v => .object [versionMember, ("result", some v), ("id", some id.encode)]
  | .error e => .object [versionMember, ("error", some e.encode), ("id", some id.encode)]

end Majuscule.Wire
