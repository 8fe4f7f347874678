import GraphStore.Worker.Switch

/-!
# Switches side by side

Several switches may be under way at once, and between their steps anything else may happen to
the worker.  A `Switchboard` is a worker with every switch that was ever called for, by number.
`Switchboard.perform` carries out one `Event`, and `Switchboard.run` a list of them; any order of
events is allowed, so the runs are all the interleavings of the switches.

An event is one step: nothing else happens between the arrival of a response and what the switch
does because of it.  A response that its switch does not wait for, or not any more, is no event
and changes nothing.
-/

namespace GraphStore

/-- A worker with the switches that were called for, in the order of the calls. -/
structure Switchboard where
  worker : Worker
  /-- The switches, each as far as it has come. -/
  calls : List Progress

/-- Something that happens to a worker. -/
inductive Event where
  | call (target : String)
  | settle (number : Nat) (endpoint : Endpoint) (response : Except WorkerError Json)
  /-- A response to somebody else comes by. -/
  | intercept (workspaceId : String) (response : Json)
  | activate (workspaceId : String)
  | deactivate
  | signIn (user : String)
  | signOut
  | closeUi
  | closeSocket

/-- The switch that an event is a step of, once it is under way. -/
def Event.number? : Event → Option Nat
  | .settle number _ _ => some number
  | _ => none

/-- The switch still waits for the response of an endpoint. -/
def Switch.awaits (c : Switch) : Endpoint → Bool
  | .metadata => c.metadata.isNone
  | .vertices => c.vertices.isNone
  | .edges => c.edges.isNone

namespace Switchboard

def new (settings : StoreSettings) : Switchboard := ⟨.new settings, []⟩

/-- How the switch with a number ended, if it did. -/
def result? (b : Switchboard) (number : Nat) : Option (Except WorkerError Outcome) :=
  match b.calls[number]? with
  | some (.ended result) => some result
  | _ => none

def quiet (b : Switchboard) : Bool :=
  b.calls.all fun
    | .ended _ => true
    | .pending _ => false

/-- Call for a switch.  It gets the next number, even if it ends at once. -/
def call (b : Switchboard) (target : String) : Switchboard :=
  match Switch.start b.worker target with
  | (w, .ok c) => ⟨w, b.calls ++ [.pending c]⟩
  | (w, .error e) => ⟨w, b.calls ++ [.ended (.error e)]⟩

/-- A response to the switch with a number settles. -/
def settle (b : Switchboard) (number : Nat) (endpoint : Endpoint)
    (response : Except WorkerError Json) : Switchboard × Emission :=
  match b.calls[number]? with
  | some (.pending c) =>
    if c.awaits endpoint then
      let (w, progress, emission) := c.settle b.worker endpoint response
      (⟨w, b.calls.set number progress⟩, emission)
    else (b, .none)
  | _ => (b, .none)

/-- Carry out an event: the switchboard after it, and what is sent. -/
def perform (b : Switchboard) : Event → Switchboard × Emission
  | .call target => (b.call target, .none)
  | .settle number endpoint response => b.settle number endpoint response
  | .intercept workspaceId response =>
    let (w, emission) := b.worker.intake workspaceId (.ok response)
    ({ b with worker := w }, emission)
  | .activate workspaceId => ({ b with worker := b.worker.activate workspaceId }, .none)
  | .deactivate => ({ b with worker := b.worker.deactivate }, .none)
  | .signIn user => ({ b with worker := b.worker.signIn user }, .none)
  | .signOut => ({ b with worker := b.worker.signOut }, .none)
  | .closeUi => ({ b with worker := { b.worker with uiOpen := false } }, .none)
  | .closeSocket => ({ b with worker := { b.worker with socketOpen := false } }, .none)

/-- Carry out events: the switchboard after them, and what each one sent. -/
def run (b : Switchboard) : List Event → Switchboard × List (Event × Emission)
  | [] => (b, [])
  | e :: es =>
    let (b, emission) := b.perform e
    let (b, log) := run b es
    (b, (e, emission) :: log)

end Switchboard

end GraphStore
