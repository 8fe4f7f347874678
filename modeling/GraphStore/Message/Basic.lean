import GraphStore.Graph.Workspace

/-!
# Messages

* `ObjectsUpdated` lists entities that changed; `MainMessage` is what the worker tells the user
  interface;
* `SocketMessage` is what the worker tells the server over its socket;
* `StoreRequest` and `SwitchWorkspace` are what the user interface asks of the worker.

A message travels under its name, as `type`, with its payload, as `data`: as an object or as the
list of the two.  In an object the name is read before the payload, which waits in a buffer.
-/

namespace GraphStore

open Wire

/-- Entities that changed, by kind. -/
structure ObjectsUpdated where
  vertices : Option (List Vertex)
  edges : Option (List Edge)
  deriving DecidableEq

namespace ObjectsUpdated

/-- The update that lists entities of one kind. -/
def ofKind : (k : Kind) → List (Entity k) → ObjectsUpdated
  | .vertex, vertices => ⟨some vertices, none⟩
  | .edge, edges => ⟨none, some edges⟩

/-- The entities of a kind. -/
def listed (u : ObjectsUpdated) : (k : Kind) → List (Entity k)
  | .vertex => u.vertices.getD []
  | .edge => u.edges.getD []

def size (u : ObjectsUpdated) : Nat := (u.listed .vertex).length + (u.listed .edge).length

def isEmpty (u : ObjectsUpdated) : Bool := u.size == 0

instance : Wire ObjectsUpdated where
  read source
    | .obj fields => do
      let edges ← optionalField fields "edges" (readNullable (readList (read source)))
      let vertices ← optionalField fields "vertices" (readNullable (readList (read source)))
      return ⟨vertices.join, edges.join⟩
    | .arr items => do
      let vertices ← element items 0 (readNullable (readList (read source))) (.ok none)
      let edges ← element items 1 (readNullable (readList (read source))) (.ok none)
      noExcess source items 2
      return ⟨vertices, edges⟩
    | a => refuse a (.record "ObjectsUpdated")
  write u := .obj (
    writeOptional "vertices" (fun vs => .arr (vs.map write)) u.vertices ++
    writeOptional "edges" (fun es => .arr (es.map write)) u.edges)

end ObjectsUpdated

/-- A message from the worker to the user interface. -/
inductive MainMessage where
  | storeObjectsUpdated (update : ObjectsUpdated)
  | workspaceLoaded (workspace : Workspace) (vertices : List Vertex)
  | edgesLoaded (edges : List Edge)
  deriving DecidableEq

/-- A message from the worker to the server. -/
inductive SocketMessage where
  | setActiveWorkspace (workspaceId userId : String)
  deriving DecidableEq

/-- A request to read entities; the kind is still a name. -/
structure StoreRequest where
  workspaceId : String
  kind : String
  /-- The ids to read, in the order of the answer. -/
  ids : List String
  deriving DecidableEq

/-- A request to show a workspace. -/
structure SwitchWorkspace where
  workspaceId : String
  deriving DecidableEq

namespace Wire

/-- A message of a type: its name, and its payload by `payload`. -/
def readMessage {ν μ : Type} (type : String) (names : List (String × ν))
    (payload : ν → Source → Json → Decoded μ) : Json → Decoded μ
  | .obj fields => do
    let name ← require "type" (← optionalField fields "type" (readName names .direct))
    let data ← require "data" (Assoc.get? "data" fields)
    payload name .buffered data
  | .arr items => do
    let name ← element items 0 (readName names .direct) (.error (.wrongLength 0 (.tagged type)))
    let message ← element items 1 (payload name .direct) (.error (.wrongLength 1 (.tagged type)))
    noExcess .direct items 2
    return message
  | a => refuse a (.tagged type)

/-- The fields that come with one message, from an object only. -/
def readPayload {μ : Type} (message variant : String)
    (read : List (String × Json) → Decoded μ) : Json → Decoded μ
  | .obj fields => read fields
  | a => refuse a (.payload message variant)

/-- A message under its name. -/
def writeMessage (name : String) (data : Json) : Json :=
  .obj [("type", .str name), ("data", data)]

end Wire

namespace MainMessage

/-- The messages, without their payloads. -/
inductive Name where
  | storeObjectsUpdated
  | workspaceLoaded
  | edgesLoaded
  deriving DecidableEq

def Name.text : Name → String
  | storeObjectsUpdated => "storeObjectsUpdated"
  | workspaceLoaded => "workspaceLoaded"
  | edgesLoaded => "edgesLoaded"

/-- The names, with their texts. -/
def names : List (String × Name) :=
  [("storeObjectsUpdated", .storeObjectsUpdated), ("workspaceLoaded", .workspaceLoaded),
    ("edgesLoaded", .edgesLoaded)]

def name : MainMessage → Name
  | storeObjectsUpdated _ => .storeObjectsUpdated
  | workspaceLoaded _ _ => .workspaceLoaded
  | edgesLoaded _ => .edgesLoaded

/-- The payload of a message with a name. -/
def readData : Name → Source → Json → Decoded MainMessage
  | .storeObjectsUpdated, source, a => (read source a).map storeObjectsUpdated
  | .workspaceLoaded, source, a =>
    readPayload "MainMessage" "WorkspaceLoaded" (fun fields => do
      let vertices ← optionalField fields "vertices" (readList (read source))
      let workspace ← optionalField fields "workspace" (read source)
      return workspaceLoaded (← require "workspace" workspace) (← require "vertices" vertices)) a
  | .edgesLoaded, source, a =>
    readPayload "MainMessage" "EdgesLoaded" (fun fields => do
      let edges ← optionalField fields "edges" (readList (read source))
      return edgesLoaded (← require "edges" edges)) a

def data : MainMessage → Json
  | storeObjectsUpdated update => write update
  | workspaceLoaded workspace vertices =>
    .obj [("workspace", write workspace), ("vertices", .arr (vertices.map write))]
  | edgesLoaded edges => .obj [("edges", .arr (edges.map write))]

instance : Wire MainMessage where
  read _ := readMessage "MainMessage" names readData
  write m := writeMessage m.name.text m.data

end MainMessage

namespace SocketMessage

instance : Wire SocketMessage where
  read _ := readMessage "SocketMessage" [("setActiveWorkspace", ())] fun _ _ =>
    readPayload "SocketMessage" "SetActiveWorkspace" fun fields => do
      let userId ← optionalField fields "userId" readString
      let workspaceId ← optionalField fields "workspaceId" readString
      return setActiveWorkspace (← require "workspaceId" workspaceId) (← require "userId" userId)
  write
    | setActiveWorkspace workspaceId userId => writeMessage "setActiveWorkspace"
      (.obj [("workspaceId", .str workspaceId), ("userId", .str userId)])

end SocketMessage

instance : Wire StoreRequest where
  read source
    | .obj fields => do
      let ids ← optionalField fields "ids" (readList readString)
      let kind ← optionalField fields "kind" readString
      let workspaceId ← optionalField fields "workspaceId" readString
      return ⟨← require "workspaceId" workspaceId, ← require "kind" kind, ← require "ids" ids⟩
    | .arr items => do
      let short {α : Type} : Decoded α := tooShort items "StoreRequest" 3
      let workspaceId ← element items 0 readString short
      let kind ← element items 1 readString short
      let ids ← element items 2 (readList readString) short
      noExcess source items 3
      return ⟨workspaceId, kind, ids⟩
    | a => refuse a (.record "StoreRequest")
  write r := .obj [("workspaceId", .str r.workspaceId), ("kind", .str r.kind),
    ("ids", .arr (r.ids.map .str))]

instance : Wire SwitchWorkspace where
  read source
    | .obj fields => do
      let workspaceId ← optionalField fields "workspaceId" readString
      return ⟨← require "workspaceId" workspaceId⟩
    | .arr items => do
      let workspaceId ← element items 0 readString (tooShort items "SwitchWorkspace" 1)
      noExcess source items 1
      return ⟨workspaceId⟩
    | a => refuse a (.record "SwitchWorkspace")
  write r := .obj [("workspaceId", .str r.workspaceId)]

end GraphStore
