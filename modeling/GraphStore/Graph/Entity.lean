import GraphStore.Graph.Kind
import GraphStore.Graph.Property
import GraphStore.Wire.Reader

/-!
# Graph entities

An entity has an id, the fields that its kind declares (`Body`), and every other field it was
sent with.  Nothing that was sent is lost, so entities can be compared and written in full.

* `Entity k` is an entity of kind `k`; `Vertex` and `Edge` are its two cases, and `AnyEntity` is
  an entity of either kind;
* `Entity.same` is equality of all fields, by `Json.same`;
* `Entity.read` and `Entity.write` decode and encode;
* `Entity.strip` drops fields other than the declared ones.
-/

namespace GraphStore

/-- How far a vertex is published. -/
inductive SandboxStatus where
  | published
  /-- Published, with changes that only this workspace sees. -/
  | publishedChanged
  | unpublished
  /-- Any other status, kept as it was sent. -/
  | other (text : String)
  deriving DecidableEq

namespace SandboxStatus

def text : SandboxStatus → String
  | published => "PUBLIC"
  | publishedChanged => "PUBLIC_CHANGED"
  | unpublished => "PRIVATE"
  | other s => s

/-- The status of a text. -/
def ofText (s : String) : SandboxStatus :=
  if s = "PUBLIC" then published
  else if s = "PUBLIC_CHANGED" then publishedChanged
  else if s = "PRIVATE" then unpublished
  else other s

theorem text_ofText (s : String) : (ofText s).text = s := by
  simp only [ofText]
  split
  · simp_all [text]
  · split
    · simp_all [text]
    · split <;> simp_all [text]

end SandboxStatus

/-- The fields that a kind of entities declares, next to the id. -/
inductive Body : Kind → Type where
  | vertex (status : SandboxStatus) (properties : List Property) : Body .vertex
  | edge (label source target : String) : Body .edge

/-- An entity of a kind. -/
structure Entity (k : Kind) where
  /-- The id, unique in a workspace among the entities of the kind. -/
  id : String
  body : Body k
  /-- The other fields. -/
  extra : SortedMap Json

abbrev Vertex := Entity .vertex

abbrev Edge := Entity .edge

/-- An entity of either kind. -/
structure AnyEntity where
  kind : Kind
  entity : Entity kind

namespace Body

/-- Equality of declared fields. -/
def same : {k : Kind} → Body k → Body k → Bool
  | _, vertex status properties, vertex status' properties' =>
    status == status' &&
      Json.agreeItems Number.same (properties.map Property.raw) (properties'.map Property.raw)
  | _, edge label source target, edge label' source' target' =>
    label == label' && source == source' && target == target'

instance {k : Kind} : DecidableEq (Body k) := fun a b => by
  cases a with
  | vertex s p =>
    cases b with
    | vertex s' p' => exact decidable_of_iff (s = s' ∧ p = p') (by simp)
  | edge l s t =>
    cases b with
    | edge l' s' t' => exact decidable_of_iff (l = l' ∧ s = s' ∧ t = t') (by simp)

end Body

namespace Entity

variable {k : Kind}

instance : DecidableEq (Entity k) := fun a b =>
  decidable_of_iff (a.id = b.id ∧ a.body = b.body ∧ a.extra = b.extra)
    ⟨fun h => by cases a; cases b; simp_all, fun h => by simp [h]⟩

/-- A vertex without properties. -/
def vertex (id : String) (status : SandboxStatus) : Vertex := ⟨id, .vertex status [], .empty⟩

/-- An edge between two vertices. -/
def edge (id label source target : String) : Edge := ⟨id, .edge label source target, .empty⟩

/-- The vertex with a property added at the end. -/
def withProperty : Vertex → Property → Vertex
  | ⟨id, .vertex status properties, extra⟩, p => ⟨id, .vertex status (properties ++ [p]), extra⟩

/-- The entity with another field beside the declared ones. -/
def withField (e : Entity k) (name : String) (value : Json) : Entity k :=
  { e with extra := e.extra.insert name value }

/-- The entity without the named fields; declared fields stay. -/
def strip (names : List String) (e : Entity k) : Entity k :=
  { e with extra := e.extra.eraseAll names }

/-- How many fields `strip` drops. -/
def strippedCount (names : List String) (e : Entity k) : Nat :=
  e.extra.size - (e.extra.eraseAll names).size

/-- Equality of entities in all their fields. -/
def same (a b : Entity k) : Bool :=
  a.id == b.id && a.body.same b.body && Json.sameFields a.extra.entries b.extra.entries

/-! ### As JSON -/

/-- The names of the declared fields of a kind, in declared order. -/
def declared : Kind → List String
  | .vertex => ["id", "sandboxStatus", "properties"]
  | .edge => ["id", "label", "source", "target", "type"]

/-- The declared fields of an entity, in declared order. -/
def declaredFields : {k : Kind} → Entity k → List (String × Json)
  | _, ⟨id, .vertex status properties, _⟩ =>
    [("id", .str id), ("sandboxStatus", .str status.text),
      ("properties", .arr (properties.map Property.raw))]
  | _, ⟨id, .edge label source target, _⟩ =>
    [("id", .str id), ("label", .str label), ("source", .str source), ("target", .str target),
      ("type", .str "edge")]

/-- The entity as JSON: the declared fields, then the others. -/
def write (e : Entity k) : Json := .obj (e.declaredFields ++ e.extra.entries)

/-- The fields of an object that a kind does not declare. -/
def undeclared (k : Kind) (fields : List (String × Json)) : SortedMap Json :=
  (SortedMap.ofList fields).eraseAll (declared k)

/-- The only name that the type of an edge can have. -/
def edgeType : List (String × Unit) := [("edge", ())]

open Wire in
/-- Decode an entity; only objects are entities. -/
def read : (k : Kind) → Source → Json → Decoded (Entity k)
  | .vertex, _, .obj fields => do
    let id ← optionalField fields "id" readString
    let properties ← optionalField fields "properties" (readList fun a => .ok (Property.mk a))
    let status ← optionalField fields "sandboxStatus" readString
    let id ← require "id" id
    let status ← require "sandboxStatus" status
    let properties ← require "properties" properties
    return ⟨id, .vertex (.ofText status) properties, undeclared .vertex fields⟩
  | .vertex, _, a => refuse a (.record "Vertex")
  | .edge, source, .obj fields => do
    let id ← optionalField fields "id" readString
    let label ← optionalField fields "label" readString
    let tail ← optionalField fields "source" readString
    let head ← optionalField fields "target" readString
    let type ← optionalField fields "type" (readName edgeType source)
    let id ← require "id" id
    let label ← require "label" label
    let tail ← require "source" tail
    let head ← require "target" head
    require "type" type
    return ⟨id, .edge label tail head, undeclared .edge fields⟩
  | .edge, _, a => refuse a (.record "Edge")

instance : Wire (Entity k) := ⟨read k, write⟩

end Entity

namespace AnyEntity

/-- An entity of a kind, as an entity of either. -/
def of {k : Kind} (e : Entity k) : AnyEntity := ⟨k, e⟩

def id (e : AnyEntity) : String := e.entity.id

def vertex? : AnyEntity → Option Vertex
  | ⟨.vertex, v⟩ => some v
  | ⟨.edge, _⟩ => none

def edge? : AnyEntity → Option Edge
  | ⟨.vertex, _⟩ => none
  | ⟨.edge, e⟩ => some e

/-- Equality of entities in kind and all fields. -/
def same : AnyEntity → AnyEntity → Bool
  | ⟨.vertex, a⟩, ⟨.vertex, b⟩ => a.same b
  | ⟨.edge, a⟩, ⟨.edge, b⟩ => a.same b
  | _, _ => false

def write (e : AnyEntity) : Json := e.entity.write

/-- The entity as a JSON value. -/
def value (e : AnyEntity) : Json := e.write.canonical

instance : DecidableEq AnyEntity := fun
  | ⟨.vertex, a⟩, ⟨.vertex, b⟩ => decidable_of_iff (a = b) (by simp)
  | ⟨.edge, a⟩, ⟨.edge, b⟩ => decidable_of_iff (a = b) (by simp)
  | ⟨.vertex, _⟩, ⟨.edge, _⟩ => isFalse (by simp)
  | ⟨.edge, _⟩, ⟨.vertex, _⟩ => isFalse (by simp)

end AnyEntity

end GraphStore
