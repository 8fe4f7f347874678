import GraphStore.Worker.Basic

/-!
# Switching to another workspace

A switch puts its workspace on display at once and asks the server for metadata, vertices and
edges at the same time.  Nothing is taken back: every response goes to the store, whatever
becomes of the switch.

A `Switch` is a switch under way, which changes in steps: `Switch.start`, and `Switch.settle`
for each of the three responses, in any order and with anything in between.

* When metadata and vertices have both settled, the workspace is announced if the one that the
  metadata names is on display at that moment.
* When that is done and the edges have settled, the switch ends.  The edges are announced if
  the workspace was and the one asked for is on display at that moment; otherwise the switch was
  superseded.
-/

namespace GraphStore

/-- What became of the announcement of a workspace. -/
inductive Announcement where
  /-- The workspace was announced with so many vertices. -/
  | spoken (workspace : Workspace) (vertices : Nat)
  /-- Another workspace was on display. -/
  | withheld
  deriving DecidableEq

/-- How a switch ends. -/
inductive Outcome where
  /-- The workspace was announced, with so many vertices and edges. -/
  | loaded (workspace : Workspace) (vertices edges : Nat)
  /-- Another workspace came on display. -/
  | superseded (workspaceId : String)
  deriving DecidableEq

/-- The user interface was told about the workspace. -/
def Outcome.isLoaded : Outcome → Bool
  | .loaded _ _ _ => true
  | .superseded _ => false

/-- A switch under way.  Parts that have not settled yet are absent. -/
structure Switch where
  target : String
  user : String
  metadata : Option (Except WorkerError Workspace)
  vertices : Option (Except WorkerError (List Vertex))
  edges : Option (Except WorkerError (List Edge))
  announcement : Option (Except WorkerError Announcement)

/-- A switch after a step. -/
inductive Progress where
  | pending (switch : Switch)
  | ended (result : Except WorkerError Outcome)

namespace Switch

/-- Put the workspace on display and ask for everything about it; somebody has to be signed
in. -/
def start (w : Worker) (target : String) : Worker × Except WorkerError Switch :=
  match w.requireUser with
  | .error e => (w, .error e)
  | .ok user => (w.activate target, .ok ⟨target, user, none, none, none, none⟩)

/-- Put the vertices of a workspace on its canvas. -/
def seed (w : Worker) (workspace : Workspace) : Worker :=
  { w with store := w.store.setOnGraph workspace.workspaceId workspace.vertexIds }

/-- Announce a workspace, if it is on display. -/
def announce (w : Worker) (user : String) (workspace : Workspace) (vertices : List Vertex) :
    Worker × Except WorkerError Announcement × Emission :=
  -- vertices of a workspace that is not on display go on its canvas all the same
  if !w.focus.isOn workspace.workspaceId then (seed w workspace, .ok .withheld, .none)
  -- a closed socket fails the switch, and nothing goes on the canvas
  else if !w.socketOpen then (w, .error (.channelClosed .socket), .none)
  else
    (seed w workspace, .ok (.spoken workspace vertices.length),
      { sent := [.server (.setActiveWorkspace workspace.workspaceId user),
          .ui (.workspaceLoaded workspace vertices)]
        departures := [] })

/-- Announce the workspace once metadata and vertices have settled. -/
def announceWhenReady (w : Worker) (c : Switch) : Worker × Switch × Emission :=
  match c.announcement, c.metadata, c.vertices with
  | none, some metadata, some vertices =>
    match metadata, vertices with
    -- when both have failed, the metadata are to blame
    | .error e, _ => (w, { c with announcement := some (.error e) }, .none)
    | .ok _, .error e => (w, { c with announcement := some (.error e) }, .none)
    | .ok workspace, .ok vertices =>
      let (w, announcement, emission) := announce w c.user workspace vertices
      (w, { c with announcement := some announcement }, emission)
  | _, _, _ => (w, c, .none)

/-- The end of a switch for `target` whose parts have all settled. -/
def conclude (w : Worker) (target : String) :
    Except WorkerError Announcement → Except WorkerError (List Edge) →
      Except WorkerError Outcome × Emission
  | .error e, _ => (.error e, .none)
  | .ok _, .error e => (.error e, .none)
  | .ok .withheld, .ok _ => (.ok (.superseded target), .none)
  | .ok (.spoken workspace vertices), .ok edges =>
    -- another workspace may have come on display since the announcement
    if w.focus.isOn target then
      (.ok (.loaded workspace vertices edges.length), .ofMessages [.edgesLoaded edges])
    else (.ok (.superseded target), .none)

/-- End the switch once everything has settled. -/
def endWhenReady (w : Worker) (c : Switch) : Progress × Emission :=
  match c.announcement, c.edges with
  | some announcement, some edges =>
    let (result, emission) := conclude w c.target announcement edges
    (.ended result, emission)
  | _, _ => (.pending c, .none)

/-- A response settles: the store takes it in, and the switch has one more part. -/
def arrive (w : Worker) (c : Switch) (endpoint : Endpoint) (response : Except WorkerError Json) :
    Worker × Switch × Emission :=
  match endpoint with
  | .metadata =>
    let (w, result, emission) := w.receive c.target readMetadata response
    (w, { c with metadata := some result }, emission)
  | .vertices =>
    let (w, result, emission) := w.receive c.target readVertices response
    (w, { c with vertices := some result }, emission)
  | .edges =>
    let (w, result, emission) := w.receive c.target readEdges response
    (w, { c with edges := some result }, emission)

/-- A response settles, and the switch goes on as far as it can. -/
def settle (w : Worker) (c : Switch) (endpoint : Endpoint) (response : Except WorkerError Json) :
    Worker × Progress × Emission :=
  let (w, c, taken) := arrive w c endpoint response
  let (w, c, announced) := announceWhenReady w c
  let (progress, concluded) := endWhenReady w c
  (w, progress, taken ++ announced ++ concluded)

end Switch

end GraphStore
