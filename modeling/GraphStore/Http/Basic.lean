import GraphStore.Json.Parser
import GraphStore.Text.FormEncoding
import GraphStore.Worker.Basic

/-!
# Asking the server

A request about a workspace names it twice: in the query and in a header.  A network sends a
request to its server and brings back the reply, if there is a way to the server.

`Network.fetch` makes one request.  Without a reply, and with one that is not JSON, the exchange
fails; a reply without success is the server's refusal.
-/

namespace GraphStore

/-- A request for the JSON at a target. -/
structure Request where
  server : String
  /-- The path with its query. -/
  target : String
  workspaceHeader : String
  deriving DecidableEq

/-- A reply of a server. -/
structure ServerReply where
  status : Nat
  body : List Char
  deriving DecidableEq

/-- A way to servers. -/
structure Network where
  /-- The reply to a request; none if the server cannot be reached. -/
  send : Request → Option ServerReply

/-- The network of a machine without connections. -/
def Network.offline : Network := ⟨fun _ => none⟩

/-- A text without slashes at its end. -/
def withoutLastSlashes (s : String) : String :=
  String.ofList ((s.toList.reverse.dropWhile (· = '/')).reverse)

/-- A text without slashes in front. -/
def withoutFirstSlashes (s : String) : String := String.ofList (s.toList.dropWhile (· = '/'))

/-- The text can be the value of a header: it has no controls but tabs. -/
def isHeaderValue (s : String) : Bool :=
  s.toList.all fun c => (0x20 ≤ c.toNat && c.toNat ≠ 0x7F) || c = '\t'

namespace Request

/-- The request for a path about a workspace, unless the workspace cannot be named in a
header. -/
def new? (baseUrl path workspaceId : String) : Option Request :=
  let target := "/" ++ withoutFirstSlashes path
  let mark := if target.toList.contains '?' then "&" else "?"
  if isHeaderValue workspaceId then
    some {
      server := withoutLastSlashes baseUrl
      target := target ++ mark ++ "workspaceId=" ++ Text.formEncode workspaceId
      workspaceHeader := workspaceId }
  else none

end Request

/-- What came of asking the server. -/
structure Exchange where
  /-- The requests that reached the server. -/
  requests : List Request
  result : Except WorkerError Json

/-- What a reply to a request for a path means. -/
def ServerReply.read (reply : ServerReply) (path : String) : Except WorkerError Json :=
  if 200 ≤ reply.status && reply.status < 300 then
    match Json.parse? reply.body with
    | some a => .ok a
    | none => .error .transport
  else .error (.status reply.status path)

/-- Ask the server for a path about a workspace. -/
def Network.fetch (network : Network) (baseUrl path workspaceId : String) : Exchange :=
  match Request.new? baseUrl path workspaceId with
  | none => ⟨[], .error .transport⟩
  | some request =>
    match network.send request with
    | none => ⟨[], .error .transport⟩
    | some reply => ⟨[request], reply.read path⟩

end GraphStore
