import GraphStore.Graph.Entity

/-!
# Recognising entities in responses

Any response may carry entities.  A value is taken for a vertex or an edge when it has the right
shape and decodes; anything else is passed over without an error.  A list is judged by its first
element: it counts when that one is an entity, and then its other elements count one by one.

`Findings.of` looks at a whole response: it may be a vertex or an edge itself, and it may carry
lists of them in its fields `vertices` and `edges`.
-/

namespace GraphStore

namespace Recognition

/-- The object has a field of this name. -/
def has (fields : List (String × Json)) (name : String) : Bool :=
  (Assoc.get? name fields).isSome

def isArray : Json → Bool
  | .arr _ => true
  | _ => false

/-- The fields look like those of an entity of a kind.  A record with the ends of a connection
is no vertex. -/
def looksLike (fields : List (String × Json)) : Kind → Bool
  | .vertex =>
    has fields "id" && has fields "sandboxStatus" &&
      ((Assoc.get? "properties" fields).map isArray).getD false &&
      !has fields "sourceVertexId" && !has fields "destVertexId"
  | .edge =>
    (Assoc.get? "type" fields).bind Json.string? == some "edge" &&
      has fields "id" && has fields "label" && has fields "source" && has fields "target"

/-- The entity of a kind that a value is. -/
def entity? (k : Kind) : Json → Option (Entity k)
  | .obj fields =>
    if looksLike fields k then (Entity.read k .direct (.obj fields)).toOption else none
  | _ => none

/-- The entities of a kind that a list carries, if its first element is one. -/
def entities? (k : Kind) : Json → Option (List (Entity k))
  | .arr (a :: rest) => (entity? k a).map fun e => e :: rest.filterMap (entity? k)
  | _ => none

/-- The entity that a value is; a vertex comes before an edge. -/
def any? (a : Json) : Option AnyEntity :=
  ((entity? .vertex a).map AnyEntity.of).or ((entity? .edge a).map AnyEntity.of)

end Recognition

/-- The entities that a response carries. -/
structure Findings where
  /-- The vertex that the response is. -/
  vertex : Option Vertex
  /-- The vertices in its field `vertices`. -/
  vertices : Option (List Vertex)
  /-- The edge that the response is. -/
  edge : Option Edge
  /-- The edges in its field `edges`. -/
  edges : Option (List Edge)
  deriving DecidableEq

namespace Findings

open Recognition

/-- The entities that a response carries. -/
def of (response : Json) : Findings where
  vertex := entity? .vertex response
  vertices := (response.field? "vertices").bind (entities? .vertex)
  edge := entity? .edge response
  edges := (response.field? "edges").bind (entities? .edge)

def isEmpty (f : Findings) : Bool :=
  f.vertex.isNone && f.vertices.isNone && f.edge.isNone && f.edges.isNone

/-- The batches of entities of a kind, each found in one place. -/
def batches (f : Findings) : (k : Kind) → List (List (Entity k))
  | .vertex => (f.vertex.map ([·])).toList ++ f.vertices.toList
  | .edge => (f.edge.map ([·])).toList ++ f.edges.toList

end Findings

end GraphStore
