import GraphStore.Worker.Switchboard

/-!
# A worker against a scripted server

A `Rig` is a worker whose server replies by a script on a clock that is moved by hand.  A request
picks its reply when it is made and receives it once the clock stands at the reply's delay after
that moment.  Switches under way are polled in the order of their start; in a poll the edges
come first, then the metadata, then the vertices.
-/

namespace GraphStore

/-- A reply of the scripted server. -/
inductive ScriptedReply where
  | body (value : Json)
  | status (code : Nat)
  | closed

/-- A line of the script. -/
structure Route where
  workspaceId : String
  path : String
  reply : ScriptedReply
  delay : Nat

/-- A reply on its way. -/
structure Delivery where
  endpoint : Endpoint
  due : Nat
  response : Except WorkerError Json

/-- A switch under way, with the replies it waits for in the order in which they are polled. -/
structure Flight where
  number : Nat
  waiting : List Delivery

/-- A worker against a scripted server. -/
structure Rig where
  board : Switchboard
  routes : List Route
  clock : Nat
  /-- The switches under way, in the order of their start. -/
  flights : List Flight

/-- A switch that has ended, by number. -/
structure Landing where
  number : Nat
  result : Except WorkerError Outcome

namespace Flight

/-- Settle the replies to a switch that have arrived: the switchboard after it, the replies still
on their way, and what is sent. -/
def settleDue (b : Switchboard) (clock number : Nat) :
    List Delivery → Switchboard × List Delivery × Emission
  | [] => (b, [], .none)
  | d :: rest =>
    if clock < d.due then
      let (b, waiting, emission) := settleDue b clock number rest
      (b, d :: waiting, emission)
    else
      let (b, emission) := b.perform (.settle number d.endpoint d.response)
      let (b, waiting, emission') := settleDue b clock number rest
      (b, waiting, emission ++ emission')

/-- Poll a switch: the switchboard after it, the switch if it is still under way, its end
otherwise, and what is sent. -/
def poll (b : Switchboard) (clock : Nat) (f : Flight) :
    Switchboard × Except Landing Flight × Emission :=
  let (b, waiting, emission) := settleDue b clock f.number f.waiting
  match b.result? f.number with
  | some result => (b, .error ⟨f.number, result⟩, emission)
  | none => (b, .ok { f with waiting }, emission)

/-- Poll switches one after another: the ones still under way and the ones that ended. -/
def pollAll (b : Switchboard) (clock : Nat) :
    List Flight → Switchboard × List Flight × List Landing × Emission
  | [] => (b, [], [], .none)
  | f :: rest =>
    let (b, polled, emission) := f.poll b clock
    let (b, flights, landings, emission') := pollAll b clock rest
    match polled with
    | .ok f => (b, f :: flights, landings, emission ++ emission')
    | .error landing => (b, flights, landing :: landings, emission ++ emission')

end Flight

namespace Rig

def new (settings : StoreSettings) : Rig := ⟨.new settings, [], 0, []⟩

def worker (r : Rig) : Worker := r.board.worker

def withWorker (r : Rig) (w : Worker) : Rig := { r with board := { r.board with worker := w } }

/-- An event other than the start or a step of a switch happens. -/
def perform (r : Rig) (e : Event) : Rig × Emission :=
  let (board, emission) := r.board.perform e
  ({ r with board }, emission)

/-- The rig with a route in place of an older one for the same workspace and path. -/
def route (r : Rig) (route : Route) : Rig :=
  { r with routes := route ::
      r.routes.filter fun old =>
        !(old.workspaceId == route.workspaceId && old.path == route.path) }

/-- What the server replies about a workspace, and after how many ticks. -/
def reply (r : Rig) (workspaceId path : String) : Except WorkerError Json × Nat :=
  match r.routes.find? fun route => route.workspaceId == workspaceId && route.path == path with
  | none => (.error (.status 404 path), 0)
  | some route =>
    (match route.reply with
      | .body a => .ok a
      | .status code => .error (.status code path)
      | .closed => .error (.channelClosed .gate), route.delay)

def ask (r : Rig) (workspaceId : String) (endpoint : Endpoint) : Delivery :=
  let (response, delay) := r.reply workspaceId endpoint.path
  ⟨endpoint, r.clock + delay, response⟩

/-- Poll switches and take the ones still under way aboard, after those in `flights`. -/
def poll (r : Rig) (polled : List Flight) : Rig × List Landing × Emission :=
  let (board, flights, landings, emission) := Flight.pollAll r.board r.clock polled
  ({ r with board, flights := r.flights ++ flights }, landings, emission)

/-- Start a switch and poll it once: its end, if it ends at once. -/
def switch (r : Rig) (target : String) : Rig × List Landing × Emission :=
  let number := r.board.calls.length
  let (r, called) := r.perform (.call target)
  let waiting := [.edges, .metadata, .vertices].map (r.ask target)
  let (r, landings, emission) := r.poll [⟨number, waiting⟩]
  (r, landings, called ++ emission)

/-- Move the clock by one and poll every switch under way. -/
def tick (r : Rig) : Rig × List Landing × Emission :=
  { r with clock := r.clock + 1, flights := [] }.poll r.flights

/-- Move the clock by a number of ticks. -/
def ticks (r : Rig) : Nat → Rig × List Landing × Emission
  | 0 => (r, [], .none)
  | n + 1 =>
    let (r, landings, emission) := r.tick
    let (r, landings', emission') := ticks r n
    (r, landings ++ landings', emission ++ emission')

/-- Ask the server about a workspace and take in the reply at once. -/
def fetch {α : Type} (r : Rig) (workspaceId : String) (endpoint : Endpoint)
    (decode : Json → Decoded α) : Rig × Except WorkerError α × Emission :=
  let (w, result, emission) :=
    r.worker.receive workspaceId decode (r.ask workspaceId endpoint).response
  (r.withWorker w, result, emission)

end Rig

end GraphStore
