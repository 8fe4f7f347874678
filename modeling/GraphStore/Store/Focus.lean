import GraphStore.Message.Basic

/-!
# The workspace on display

`Focus` is the slot that says which workspace the user interface shows.  Every write is counted,
so that a watcher can tell that the slot was written even when its value is the same.
-/

namespace GraphStore

/-- The slot with the workspace on display. -/
structure Focus where
  current : Option String
  /-- How often the slot was written. -/
  writes : Nat
  deriving DecidableEq

namespace Focus

/-- No workspace was ever on display. -/
def none : Focus := ⟨.none, 0⟩

/-- Put a workspace on display. -/
def set (f : Focus) (workspaceId : String) : Focus := ⟨some workspaceId, f.writes + 1⟩

/-- Put no workspace on display. -/
def clear (f : Focus) : Focus := ⟨.none, f.writes + 1⟩

/-- The workspace is on display. -/
def isOn (f : Focus) (workspaceId : String) : Bool := f.current == some workspaceId

/-- The messages by which an update of a workspace is published: none when it lists no entity or
its workspace is not on display. -/
def publish (f : Focus) (workspaceId : String) (update : ObjectsUpdated) : List MainMessage :=
  if update.isEmpty || !f.isOn workspaceId then [] else [.storeObjectsUpdated update]

end Focus

end GraphStore
