import GraphStore.Message.Basic
import GraphStore.View.Comment

/-!
# Views

A view shows one entity.  When a message lists a newer copy of the entity, the view takes it;
the first copy in the list counts.
-/

namespace GraphStore

/-- A view of an entity. -/
structure View where
  entity : AnyEntity
  deriving DecidableEq

namespace View

/-- The copy of the entity on show that an update lists. -/
def copyIn? (v : View) (update : ObjectsUpdated) : Option AnyEntity :=
  ((update.listed v.entity.kind).find? fun e => e.id == v.entity.id).map .of

/-- Take the copy that an update lists: the view after it, and whether the entity changed. -/
def apply (v : View) (update : ObjectsUpdated) : View × Bool :=
  match v.copyIn? update with
  | some e => if e.same v.entity then (v, false) else (⟨e⟩, true)
  | none => (v, false)

/-- Take the copy that a message lists; messages that list no updates change nothing. -/
def receive (v : View) : MainMessage → View × Bool
  | .storeObjectsUpdated update => v.apply update
  | _ => (v, false)

/-- The properties of the entity on show.  An edge has them among its other fields. -/
def properties (v : View) : List Property :=
  match v.entity with
  | ⟨.vertex, ⟨_, .vertex _ properties, _⟩⟩ => properties
  | ⟨.edge, e⟩ =>
    match e.extra.get? "properties" with
    | some (.arr items) => items.map Property.mk
    | _ => []

/-- The comments on the entity on show, the oldest first. -/
def comments (v : View) : List Comment := Comment.thread v.properties

end View

end GraphStore
