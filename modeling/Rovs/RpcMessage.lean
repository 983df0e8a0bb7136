import Rovs.Json

/-!
# JSON-RPC messages (`rovs-jsonrpc/src/message.rs`, `error.rs`)

A message is a request or a response.  A request without an id is a notification.  What
comes from the server is a JSON value that is taken for a request if it has the fields of
one, else for a response.
-/

namespace Rovs.JsonRpc

open Json

inductive RpcId where
  | number (n : U64)
  | string (s : String)
deriving DecidableEq, Repr

def RpcId.asU64 : RpcId → Option U64
  | .number n => some n
  | .string _ => none

structure Request where
  method : String
  params : Value
  id : Option RpcId

def Request.new (method : String) (params : Value) (id : U64) : Request :=
  ⟨method, params, some (.number id)⟩

def Request.notification (method : String) (params : Value) : Request :=
  ⟨method, params, none⟩

structure RpcError where
  error : String
  details : Option String
deriving DecidableEq, Repr

structure Response where
  result : Option Value
  error : Option RpcError
  id : RpcId

def Response.success (id : RpcId) (result : Value) : Response := ⟨some result, none, id⟩

inductive Message where
  | request (req : Request)
  | response (resp : Response)

def Message.asRequest : Message → Option Request
  | .request req => some req
  | .response _ => none

def Message.asResponse : Message → Option Response
  | .request _ => none
  | .response resp => some resp

section Messages

variable (msgs : List Message) (req : Request) (resp : Response)

@[simp] theorem requests_request :
    (msgs ++ [Message.request req]).filterMap Message.asRequest =
      msgs.filterMap Message.asRequest ++ [req] := List.filterMap_append

@[simp] theorem requests_response :
    (msgs ++ [Message.response resp]).filterMap Message.asRequest =
      msgs.filterMap Message.asRequest :=
  List.filterMap_append.trans (List.append_nil _)

@[simp] theorem responses_request :
    (msgs ++ [Message.request req]).filterMap Message.asResponse =
      msgs.filterMap Message.asResponse :=
  List.filterMap_append.trans (List.append_nil _)

@[simp] theorem responses_response :
    (msgs ++ [Message.response resp]).filterMap Message.asResponse =
      msgs.filterMap Message.asResponse ++ [resp] := List.filterMap_append

end Messages

/-! ### Errors -/

inductive Error where
  | json
  | io
  | rpc (error : RpcError)
  | unexpectedId (expected got : U64)
  | connectionClosed
deriving DecidableEq, Repr

abbrev Result := Outcome Error

/-! ### Reading a message from a JSON value -/

/-- An untagged id: a number that is a `u64`, or a string. -/
def RpcId.ofJson : Value → Option RpcId
  | .number (.int n) =>
    if 0 ≤ n ∧ n ≤ 0xffffffffffffffff then some (.number (BitVec.ofInt 64 n)) else none
  | .string s => some (.string s)
  | _ => none

/-- A field that may be left out or null. -/
def optional {α : Type} (ofJson : Value → Option α) : Option Value → Option (Option α)
  | none => some none
  | some .null => some none
  | some v => (ofJson v).map some

/-- A plain string, or an object with `error` and `details`. -/
def RpcError.ofJson : Value → Option RpcError
  | .string s => some ⟨s, none⟩
  | .object members =>
    some ⟨((members.lookup "error").bind Value.asStr).getD "unknown error",
      (members.lookup "details").bind Value.asStr⟩
  | _ => none

def Request.ofJson (v : Value) : Option Request := do
  let method ← (← v.get "method").asStr
  let params ← v.get "params"
  let id ← optional RpcId.ofJson (v.get "id")
  return ⟨method, params, id⟩

def Response.ofJson (v : Value) : Option Response := do
  let result ← optional some (v.get "result")
  let error ← optional RpcError.ofJson (v.get "error")
  let id ← RpcId.ofJson (← v.get "id")
  return ⟨result, error, id⟩

/-- The untagged message: a request if it can be read as one, else a response. -/
def Message.ofJson (v : Value) : Option Message :=
  ((Request.ofJson v).map .request).or ((Response.ofJson v).map .response)

end Rovs.JsonRpc
