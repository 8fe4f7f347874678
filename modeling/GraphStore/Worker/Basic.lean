import GraphStore.Store.Replay
import GraphStore.Worker.Error

/-!
# The worker

The worker serves the user interface: it keeps the store, knows who is signed in and which
workspace is on display, and has a line to the user interface and one to the server's socket.

`Worker.receive` is the way of every response: it goes to the store first, whatever becomes of
it later, and is then decoded for the caller.
-/

namespace GraphStore

open Wire

/-- The state of the worker. -/
structure Worker where
  store : Store
  user : Option String
  focus : Focus
  uiOpen : Bool
  socketOpen : Bool
  deriving DecidableEq

/-- What the server can be asked about a workspace. -/
inductive Endpoint where
  | metadata
  | vertices
  | edges
  deriving DecidableEq

def Endpoint.path : Endpoint → String
  | .metadata => "/workspace"
  | .vertices => "/workspace/vertices"
  | .edges => "/workspace/edges"

/-- A list of entities in a field of a response; without the field it is empty. -/
def readListing {α : Type} (name field : String) (read : Json → Decoded α) :
    Json → Decoded (List α)
  | .obj fields => do return (← optionalField fields field (readList read)).getD []
  | .arr items => do
    let found ← element items 0 (readList read) (.ok [])
    noExcess .direct items 1
    return found
  | a => refuse a (.record name)

def readVertices : Json → Decoded (List Vertex) :=
  readListing "VerticesResponse" "vertices" (read .direct)

def readEdges : Json → Decoded (List Edge) :=
  readListing "EdgesResponse" "edges" (read .direct)

def readMetadata : Json → Decoded Workspace := read .direct

/-- A decoded value, or the worker's error. -/
def ofDecoded {α : Type} : Decoded α → Except WorkerError α
  | .ok a => .ok a
  | .error e => .error (.decode e)

namespace Worker

/-- A worker with an empty store, nobody signed in and both lines open. -/
def new (settings : StoreSettings) : Worker := ⟨.new settings true, none, .none, true, true⟩

def signIn (w : Worker) (user : String) : Worker := { w with user := some user }

def signOut (w : Worker) : Worker := { w with user := none }

def activate (w : Worker) (workspaceId : String) : Worker :=
  { w with focus := w.focus.set workspaceId }

def deactivate (w : Worker) : Worker := { w with focus := w.focus.clear }

/-- The user who is signed in. -/
def requireUser (w : Worker) : Except WorkerError String :=
  match w.user with
  | some user => .ok user
  | none => .error .notAuthenticated

/-- A response to a request about a workspace, or the error in its place: the store takes in
what the response carries, and nothing when there is none. -/
def intake (w : Worker) (workspaceId : String) :
    Except WorkerError Json → Worker × Emission
  | .ok response =>
    let (s, _, emission) := w.store.absorb w.focus workspaceId response
    ({ w with store := s }, emission)
  | .error _ => (w, .none)

/-- Take in a response and decode it. -/
def receive {α : Type} (w : Worker) (workspaceId : String) (decode : Json → Decoded α)
    (response : Except WorkerError Json) : Worker × Except WorkerError α × Emission :=
  let (w, emission) := w.intake workspaceId response
  (w, response.bind fun a => ofDecoded (decode a), emission)

/-- The worker after an operation of its store. -/
def withStore {α : Type} (w : Worker) : Store × α × Emission → Worker × α × Emission
  | (s, a, emission) => ({ w with store := s }, a, emission)

def serve (w : Worker) (request : StoreRequest) :
    Worker × Except WorkerError (List (Option AnyEntity)) × Emission :=
  let (w, found, emission) := w.withStore (w.store.serve request)
  (w, found.mapError .store, emission)

def replay (w : Worker) (workspaceId : String) (capture : List UInt8) :
    Worker × Except WorkerError ReplayTotals × Emission :=
  let (w, totals, emission) := w.withStore (w.store.replay w.focus workspaceId capture)
  (w, totals.mapError fun _ => .notText, emission)

/-- The part of an emission that somebody hears. -/
def heard (w : Worker) (emission : Emission) : Emission :=
  if w.uiOpen then emission
  else { emission with sent := emission.sent.filter fun s => s.ui?.isNone }

end Worker

end GraphStore
