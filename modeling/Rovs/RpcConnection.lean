import Rovs.RpcMessage

/-!
# Requests and their responses (`rovs-jsonrpc/src/connection.rs`)

A connection numbers its requests.  A call sends its request and then reads one message
after the other until a response comes; requests of the server that come before it are
buffered.  The part of the connection that does not read or write is embedded here.
-/

namespace Rovs.JsonRpc

open Json Outcome

structure Connection where
  nextId : U64
  pendingNotifications : List Request

namespace Connection

def new : Connection where
  nextId := 1
  pendingNotifications := []

/-- The request of a call, with the next id; the counter wraps around. -/
def request (conn : Connection) (method : String) (params : Value) : Request × Connection :=
  (Request.new method params conn.nextId, { conn with nextId := conn.nextId + 1 })

/-- One pass of the loop of `recv_response`: a response ends it, and a request of the
    server is buffered. -/
def recvResponse (conn : Connection) (expectedId : U64) (msg : Message) :
    Result (Pass Connection Response) :=
  match msg with
  | .response resp =>
    if resp.id ≠ .number expectedId then
      .err (.unexpectedId expectedId (resp.id.asU64.getD 0))
    else .ok (.leave resp)
  | .request req =>
    .ok (.again { conn with pendingNotifications := conn.pendingNotifications ++ [req] })

def popNotification (conn : Connection) : Option (Request × Connection) :=
  match conn.pendingNotifications with
  | [] => none
  | req :: rest => some (req, { conn with pendingNotifications := rest })

end Connection

/-- What a call returns for a response. -/
def Response.value (resp : Response) : Result Value :=
  match resp.error with
  | some error => .err (.rpc error)
  | none => .ok (resp.result.getD .null)

end Rovs.JsonRpc
