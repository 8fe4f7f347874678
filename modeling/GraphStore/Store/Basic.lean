import GraphStore.Cache.Basic
import GraphStore.Graph.Recognition
import GraphStore.Json.Parser
import GraphStore.Store.Focus
import GraphStore.Store.Settings
import GraphStore.Store.Tally

/-!
# The store

The store holds, for every workspace, what the user interface believes about the entities of its
graph: a `Partition` with one cache for each kind and the set of vertices on the canvas.  A
partition comes into being with the first write to its workspace and stays.

* `Store.cacheBatch` takes in a batch of entities of one kind and publishes the updates among
  them, if the workspace is on display;
* `Store.absorb` takes in whatever entities a response carries;
* `Store.read` and `Store.serve` answer requests.

An operation returns the store after it and an `Emission`: the messages it sends and the
departures from its caches.
-/

namespace GraphStore

/-! ### Partitions -/

/-- What is held for one workspace. -/
structure Partition where
  vertices : Cache Vertex
  edges : Cache Edge
  /-- The ids of the vertices on the canvas, whether held or not. -/
  onGraph : NameSet
  deriving DecidableEq

namespace Partition

def new (capacity : Nat) : Partition := ⟨.new capacity, .new capacity, .empty⟩

def cache (p : Partition) : (k : Kind) → Cache (Entity k)
  | .vertex => p.vertices
  | .edge => p.edges

/-- The partition with another cache of a kind. -/
def withCache (p : Partition) : (k : Kind) → Cache (Entity k) → Partition
  | .vertex, c => { p with vertices := c }
  | .edge, c => { p with edges := c }

@[simp] theorem cache_withCache (p : Partition) (k : Kind) (c : Cache (Entity k)) :
    (p.withCache k c).cache k = c := by cases k <;> rfl

theorem cache_withCache_of_ne (p : Partition) {k l : Kind} (c : Cache (Entity k)) (h : l ≠ k) :
    (p.withCache k c).cache l = p.cache l := by
  cases k <;> cases l <;> first | rfl | exact absurd rfl h

@[simp] theorem onGraph_withCache (p : Partition) (k : Kind) (c : Cache (Entity k)) :
    (p.withCache k c).onGraph = p.onGraph := by cases k <;> rfl

end Partition

/-! ### Emissions -/

/-- Something that goes out on a line of the worker. -/
inductive Signal where
  | ui (message : MainMessage)
  | server (message : SocketMessage)
  deriving DecidableEq

namespace Signal

def ui? : Signal → Option MainMessage
  | ui m => some m
  | server _ => none

def server? : Signal → Option SocketMessage
  | ui _ => none
  | server m => some m

end Signal

/-- What an operation shows outside. -/
@[ext] structure Emission where
  /-- What is sent, in this order. -/
  sent : List Signal
  departures : List (Departure AnyEntity)
  deriving DecidableEq

namespace Emission

def none : Emission := ⟨[], []⟩

/-- One emission after another. -/
def append (a b : Emission) : Emission := ⟨a.sent ++ b.sent, a.departures ++ b.departures⟩

instance : Append Emission := ⟨append⟩

def messages (e : Emission) : List MainMessage := e.sent.filterMap Signal.ui?

def socket (e : Emission) : List SocketMessage := e.sent.filterMap Signal.server?

/-- Messages to the user interface. -/
def ofMessages (messages : List MainMessage) : Emission := ⟨messages.map .ui, []⟩

/-- Departures of entities of one kind. -/
def ofDepartures {k : Kind} (departures : List (Departure (Entity k))) : Emission :=
  ⟨[], departures.map fun d => ⟨d.key, d.cause, .of d.value⟩⟩

@[simp] theorem sent_none : none.sent = [] := rfl

@[simp] theorem sent_append (a b : Emission) : (a ++ b).sent = a.sent ++ b.sent := rfl

@[simp] theorem departures_none : none.departures = [] := rfl

@[simp] theorem departures_append (a b : Emission) :
    (a ++ b).departures = a.departures ++ b.departures := rfl

@[simp] theorem append_none (e : Emission) : e ++ none = e := by ext1 <;> simp

@[simp] theorem none_append (e : Emission) : none ++ e = e := by ext1 <;> simp

theorem append_assoc (a b c : Emission) : a ++ b ++ c = a ++ (b ++ c) := by ext1 <;> simp

@[simp] theorem sent_ofMessages (ms : List MainMessage) : (ofMessages ms).sent = ms.map .ui := rfl

@[simp] theorem sent_ofDepartures {k : Kind} (ds : List (Departure (Entity k))) :
    (ofDepartures ds).sent = [] := rfl

end Emission

/-! ### The store -/

/-- What is held for all workspaces. -/
structure Store where
  settings : StoreSettings
  observed : Bool
  partitions : SortedMap Partition
  deriving DecidableEq

namespace Store

def new (settings : StoreSettings) (observed : Bool) : Store := ⟨settings, observed, .empty⟩

/-- The store with its departures observed, as far as records are concerned that come from now
on. -/
def observe (s : Store) : Store := { s with observed := true }

/-- The partition of a workspace, if there is one. -/
def partition? (s : Store) (workspaceId : String) : Option Partition :=
  s.partitions.get? workspaceId

/-- The partition of a workspace; an empty one if there is none yet. -/
def partition (s : Store) (workspaceId : String) : Partition :=
  (s.partition? workspaceId).getD (.new s.settings.entityCapacity)

/-- The store with another partition of a workspace. -/
def withPartition (s : Store) (workspaceId : String) (p : Partition) : Store :=
  { s with partitions := s.partitions.insert workspaceId p }

/-- The store with a partition for a workspace. -/
def ensure (s : Store) (workspaceId : String) : Store :=
  s.withPartition workspaceId (s.partition workspaceId)

/-- The number of workspaces with a partition. -/
def size (s : Store) : Nat := s.partitions.size

/-! ### Writing -/

/-- The policy of the store's records: they resist as long as they can and never expire. -/
def policy (s : Store) : Policy := ⟨.high, none, none, s.observed⟩

/-- The moment at which the store's caches are used.  Its records never expire, so one moment
serves for all. -/
def moment : Nat := 0

/-- A batch half taken in. -/
structure Intake (k : Kind) where
  cache : Cache (Entity k)
  tally : Tally
  /-- The updated entities so far, the first one first. -/
  updated : List (Entity k)
  departures : List (Departure (Entity k))
  deriving DecidableEq

/-- Take in one entity: compare it, without its volatile fields, with the one held, and put it
into the cache unless they are equal. -/
def Intake.take {k : Kind} (settings : StoreSettings) (policy : Policy) (i : Intake k)
    (incoming : Entity k) : Intake k :=
  let e := incoming.strip settings.volatileFields
  let verdict := Verdict.of (i.cache.peek moment e.id) e
  let tally := i.tally.count verdict
  match verdict with
  | .unchanged => { i with tally := tally }
  | .new =>
    let (cache, departures) := i.cache.insert moment e.id e policy
    { i with cache := cache, tally := tally, departures := i.departures ++ departures }
  | .updated =>
    let (cache, departures) := i.cache.insert moment e.id e policy
    ⟨cache, tally, i.updated ++ [e], i.departures ++ departures⟩

/-- Take in a batch of entities of one kind, one after another, and publish the updated ones. -/
def cacheBatch (s : Store) (focus : Focus) (workspaceId : String) (k : Kind)
    (batch : List (Entity k)) : Store × Tally × Emission :=
  let p := s.partition workspaceId
  let intake := batch.foldl (Intake.take s.settings s.policy) ⟨p.cache k, .zero, [], []⟩
  let messages := focus.publish workspaceId (.ofKind k intake.updated)
  (s.withPartition workspaceId (p.withCache k intake.cache),
    { intake.tally with notified := !messages.isEmpty },
    .ofMessages messages ++ .ofDepartures intake.departures)

/-- Take in batches of entities of one kind. -/
def cacheBatches (s : Store) (focus : Focus) (workspaceId : String) (k : Kind) :
    List (List (Entity k)) → Store × Tally × Emission
  | [] => (s, .zero, .none)
  | batch :: rest =>
    let (s, tally, emission) := s.cacheBatch focus workspaceId k batch
    let (s, tally', emission') := cacheBatches s focus workspaceId k rest
    (s, tally.merge tally', emission ++ emission')

/-- Take in the entities that a response carries: the vertex that it is, the vertices in it, the
edge that it is, the edges in it, each as a batch. -/
def absorb (s : Store) (focus : Focus) (workspaceId : String) (response : Json) :
    Store × Tally × Emission :=
  let found := Findings.of response
  let (s, tally, emission) := s.cacheBatches focus workspaceId .vertex (found.batches .vertex)
  let (s, tally', emission') := s.cacheBatches focus workspaceId .edge (found.batches .edge)
  (s, tally.merge tally', emission ++ emission')

/-- Take in the text of a response; text that is not JSON carries nothing. -/
def absorbText (s : Store) (focus : Focus) (workspaceId : String) (text : List Char) :
    Store × Tally × Emission :=
  match Json.parse? text with
  | some a => s.absorb focus workspaceId a
  | none => (s, .zero, .none)

/-- Put other vertices on the canvas of a workspace. -/
def setOnGraph (s : Store) (workspaceId : String) (ids : List String) : Store :=
  s.withPartition workspaceId { s.partition workspaceId with onGraph := .ofNames ids }

/-! ### Reading -/

/-- Read one entity. -/
def readOne (s : Store) (workspaceId : String) (k : Kind) (id : String) :
    Store × Option (Entity k) × Emission :=
  match s.partition? workspaceId with
  | none => (s, none, .none)
  | some p =>
    let (cache, found, departures) := (p.cache k).get moment id
    (s.withPartition workspaceId (p.withCache k cache), found, .ofDepartures departures)

/-- Read entities, one for each id; the ones not held are absent. -/
def read (s : Store) (workspaceId : String) (k : Kind) :
    List String → Store × List (Option (Entity k)) × Emission
  | [] => (s, [], .none)
  | id :: ids =>
    let (s, found, emission) := s.readOne workspaceId k id
    let (s, rest, emission') := read s workspaceId k ids
    (s, found :: rest, emission ++ emission')

/-- Serve a request, whose kind is still a name. -/
def serve (s : Store) (request : StoreRequest) :
    Store × Except UnknownKind (List (Option AnyEntity)) × Emission :=
  match Kind.ofName request.kind with
  | .error e => (s, .error e, .none)
  | .ok k =>
    let (s, found, emission) := s.read request.workspaceId k request.ids
    (s, .ok (found.map (·.map .of)), emission)

/-- The vertices on the canvas of a workspace, if it has a partition. -/
def onGraph? (s : Store) (workspaceId : String) : Option NameSet :=
  (s.partition? workspaceId).map Partition.onGraph

/-- Whether a vertex is on the canvas of a workspace. -/
def isOnGraph (s : Store) (workspaceId vertexId : String) : Bool :=
  ((s.onGraph? workspaceId).map fun ids => ids.contains vertexId).getD false

end Store

end GraphStore
