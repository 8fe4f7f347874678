import GraphStore.Store.Replay

/-!
# A store at work

A `Desk` is a store with the slot of the workspace on display, a watcher of that slot and the
line to the user interface.  `Desk.perform` carries out one `Command`, and `Desk.run` a list of
them.
-/

namespace GraphStore

/-- A store with what stands around it. -/
structure Desk where
  store : Store
  focus : Focus
  /-- How many writes to the slot the watcher has seen, if there is a watcher. -/
  seen : Option Nat
  listening : Bool
  deriving DecidableEq

/-- A command to the desk. -/
inductive Command where
  | setCurrent (workspaceId : String)
  | clearCurrent
  | current
  | isCurrent (workspaceId : String)
  | watch
  /-- Ask whether the slot was written since the last look. -/
  | look
  | cache (workspaceId : String) (kind : Kind) (batch : List (Entity kind))
  | absorb (workspaceId : String) (response : Json)
  | absorbText (workspaceId : String) (text : List Char)
  | replay (workspaceId : String) (capture : List UInt8)
  /-- Read one entity; the kind is still a name. -/
  | readOne (workspaceId kind id : String)
  | read (request : StoreRequest)
  | setOnGraph (workspaceId : String) (ids : List String)
  | onGraph (workspaceId : String)
  | isOnGraph (workspaceId id : String)
  | ensure (workspaceId : String)
  | size
  | partition (workspaceId : String)
  | settings
  | publish (workspaceId : String) (update : ObjectsUpdated)
  | stopListening

/-- What the desk answers. -/
inductive Reply where
  | done
  | truth (value : Bool)
  | number (value : Nat)
  | workspace (value : Option String)
  /-- Whether the slot was written, and its value; nothing without a watcher. -/
  | change (value : Option (Bool × Option String))
  | tally (value : Tally)
  | totals (value : Except ReplayError ReplayTotals)
  | entity (value : Option AnyEntity)
  /-- Entities or none, one for each id. -/
  | entities (value : List (Option AnyEntity))
  | unknownKind (error : UnknownKind)
  | names (value : Option NameSet)
  | partition (value : Option Partition)
  | settings (value : StoreSettings)

namespace Desk

/-- A desk with an empty store. -/
def new (settings : StoreSettings) (observed : Bool) : Desk :=
  ⟨.new settings observed, .none, none, true⟩

/-- The desk after an operation of its store. -/
def after {α : Type} (d : Desk) (reply : α → Reply) : Store × α × Emission → Desk × Reply × Emission
  | (s, a, emission) => ({ d with store := s }, reply a, emission)

/-- Carry out a command: the desk after it, the answer, and what is sent. -/
def perform (d : Desk) : Command → Desk × Reply × Emission
  | .setCurrent w => ({ d with focus := d.focus.set w }, .done, .none)
  | .clearCurrent => ({ d with focus := d.focus.clear }, .done, .none)
  | .current => (d, .workspace d.focus.current, .none)
  | .isCurrent w => (d, .truth (d.focus.isOn w), .none)
  | .watch => ({ d with seen := some d.focus.writes }, .done, .none)
  | .look =>
    ({ d with seen := d.seen.map fun _ => d.focus.writes },
      .change (d.seen.map fun n => (n != d.focus.writes, d.focus.current)), .none)
  | .cache w k batch => d.after .tally (d.store.cacheBatch d.focus w k batch)
  | .absorb w response => d.after .tally (d.store.absorb d.focus w response)
  | .absorbText w text => d.after .tally (d.store.absorbText d.focus w text)
  | .replay w capture => d.after .totals (d.store.replay d.focus w capture)
  | .readOne w kind id =>
    match Kind.ofName kind with
    | .error e => (d, .unknownKind e, .none)
    | .ok k => d.after (fun found => .entity (found.map .of)) (d.store.readOne w k id)
  | .read request =>
    d.after (fun
      | .ok found => .entities found
      | .error e => .unknownKind e) (d.store.serve request)
  | .setOnGraph w ids => ({ d with store := d.store.setOnGraph w ids }, .done, .none)
  | .onGraph w => (d, .names (d.store.onGraph? w), .none)
  | .isOnGraph w id => (d, .truth (d.store.isOnGraph w id), .none)
  | .ensure w =>
    let s := d.store.ensure w
    ({ d with store := s }, .number s.size, .none)
  | .size => (d, .number d.store.size, .none)
  | .partition w => (d, .partition (d.store.partition? w), .none)
  | .settings => (d, .settings d.store.settings, .none)
  | .publish w update =>
    let messages := d.focus.publish w update
    (d, .truth !messages.isEmpty, .ofMessages messages)
  | .stopListening => ({ d with listening := false }, .done, .none)

/-- Carry out commands: the desk after them, and the answers and emissions in order. -/
def run (d : Desk) : List Command → Desk × List (Reply × Emission)
  | [] => (d, [])
  | c :: cs =>
    let (d, reply, emission) := d.perform c
    let (d, rest) := run d cs
    (d, (reply, emission) :: rest)

/-- The messages of an emission that somebody hears. -/
def heard (d : Desk) (emission : Emission) : List MainMessage :=
  if d.listening then emission.messages else []

end Desk

end GraphStore
