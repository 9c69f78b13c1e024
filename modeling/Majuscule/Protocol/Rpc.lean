import Majuscule.Decode.Record

/-!
# Requests, replies and their errors

Requests carry an identifier, and a reply repeats it with either a result or an error. `RpcError` is
that error: a code, a message and sometimes a value that says more.
-/

namespace Majuscule

open Decode Record

/-- The identifier of a request. -/
inductive RequestId where
  | number (n : Int)
  | text (s : String)
  | null
  deriving DecidableEq, Repr

namespace RequestId

def encode : RequestId → Json
  | number n => .int n
  | text s => .str s
  | null => .null

/-- Identifiers are integers of 64 bits, texts, or null. -/
def decode : Decoder RequestId
  | .int n =>
    if -0x8000000000000000 ≤ n ∧ n < 0x8000000000000000 then .ok (number n)
    else .error (.noAlternative "Id")
  | .str s => .ok (text s)
  | .null => .ok null
  | _ => .error (.noAlternative "Id")

end RequestId

/-- The error of a reply. -/
structure RpcError where
  code : Int
  message : String
  data : Option Json := none
  deriving Repr

namespace RpcError

/-- The text was not JSON. -/
def parseError : RpcError := ⟨-32700, "Parse error", none⟩

/-- The message may not be sent now, or not in this form. -/
def invalidRequest : RpcError := ⟨-32600, "Invalid request", none⟩

/-- Nobody answers to the method. -/
def methodNotFound : RpcError := ⟨-32601, "Method not found", none⟩

/-- The parameters are not those of the method. -/
def invalidParams (message : String) : RpcError := ⟨-32602, message, none⟩

/-- A request came before the server was started. -/
def notInitialized : RpcError := ⟨-32002, "Server not initialized", none⟩

/-- The request was called off. -/
def canceled : RpcError := ⟨-32800, "Canceled", none⟩

/-- What the code of an error stands for. -/
def description (code : Int) : String :=
  if code = -32700 then "Parse error"
  else if code = -32600 then "Invalid request"
  else if code = -32601 then "Method not found"
  else if code = -32602 then "Invalid params"
  else if code = -32603 then "Internal error"
  else if code = -32800 then "Canceled"
  else if code = -32801 then "Content modified"
  else "Server error"

/-- An error as the log shows it. -/
def logText (e : RpcError) : String :=
  description e.code ++ ": " ++ e.message

def encode (e : RpcError) : Json :=
  .object [("code", some (.int e.code)), ("message", some (.str e.message)), ("data", e.data)]

def decode : Decoder RpcError :=
  (RpcError.mk <$> required "code" (integer (-0x8000000000000000) 0x8000000000000000 "i64") <*>
    required "message" text
    <*> optional "data" any).decode "Error"

end RpcError

/-- How a request is answered. -/
abbrev Answer := Except RpcError Json

end Majuscule
