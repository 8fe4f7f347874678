import GraphStore.Graph.Entity

/-!
# Workspace metadata

A workspace is a view on the graph: its id and title, the users who may see it, and the vertices
that stand on its canvas, with every other field it was sent with.
-/

namespace GraphStore

/-- What a user may do in a workspace. -/
inductive WorkspaceAccess where
  | none
  | read
  | write
  deriving DecidableEq

/-- A user of a workspace. -/
structure WorkspaceUser where
  userId : String
  access : WorkspaceAccess
  deriving DecidableEq

/-- A place on the canvas. -/
structure GraphPosition where
  x : Int
  y : Int
  deriving DecidableEq

/-- A vertex on the canvas of a workspace. -/
structure WorkspaceVertex where
  vertexId : String
  /-- Its place, once it is laid out. -/
  graphPosition : Option GraphPosition
  deriving DecidableEq

/-- The metadata of a workspace. -/
structure Workspace where
  workspaceId : String
  title : String
  createdBy : Option String
  /-- Whether somebody else shares it with the user, if known. -/
  isSharedToUser : Option Bool
  isEditable : Bool
  users : List WorkspaceUser
  vertices : List WorkspaceVertex
  extra : SortedMap Json
  deriving DecidableEq

/-- A field that is written only if it is there. -/
def writeOptional {α : Type} (name : String) (write : α → Json) : Option α → List (String × Json)
  | some a => [(name, write a)]
  | none => []

namespace WorkspaceAccess

def names : List (String × WorkspaceAccess) := [("none", none), ("read", read), ("write", write)]

def text : WorkspaceAccess → String
  | none => "none"
  | read => "read"
  | write => "write"

end WorkspaceAccess

open Wire

instance : Wire WorkspaceUser where
  read source
    | .obj fields => do
      let access ← optionalField fields "access" (readName WorkspaceAccess.names source)
      let userId ← optionalField fields "userId" readString
      return ⟨← require "userId" userId, ← require "access" access⟩
    | .arr items => do
      let short {α : Type} : Decoded α := tooShort items "WorkspaceUser" 2
      let userId ← element items 0 readString short
      let access ← element items 1 (readName WorkspaceAccess.names source) short
      noExcess source items 2
      return ⟨userId, access⟩
    | a => refuse a (.record "WorkspaceUser")
  write u := .obj [("userId", .str u.userId), ("access", .str u.access.text)]

instance : Wire GraphPosition where
  read source
    | .obj fields => do
      let x ← optionalField fields "x" (readInteger .i64)
      let y ← optionalField fields "y" (readInteger .i64)
      return ⟨← require "x" x, ← require "y" y⟩
    | .arr items => do
      let short {α : Type} : Decoded α := tooShort items "GraphPosition" 2
      let x ← element items 0 (readInteger .i64) short
      let y ← element items 1 (readInteger .i64) short
      noExcess source items 2
      return ⟨x, y⟩
    | a => refuse a (.record "GraphPosition")
  write p := .obj [("x", .int p.x), ("y", .int p.y)]

instance : Wire WorkspaceVertex where
  read source
    | .obj fields => do
      let position ← optionalField fields "graphPosition" (readNullable (read source))
      let vertexId ← optionalField fields "vertexId" readString
      return ⟨← require "vertexId" vertexId, position.join⟩
    | .arr items => do
      let vertexId ← element items 0 readString (tooShort items "WorkspaceVertex" 2)
      let position ← element items 1 (readNullable (read source)) (.ok none)
      noExcess source items 2
      return ⟨vertexId, position⟩
    | a => refuse a (.record "WorkspaceVertex")
  write v := .obj (("vertexId", .str v.vertexId) ::
    writeOptional "graphPosition" write v.graphPosition)

namespace Workspace

/-- The names of the declared fields, in declared order. -/
def declared : List String :=
  ["workspaceId", "title", "createdBy", "isSharedToUser", "isEditable", "users", "vertices"]

/-- An empty workspace that the user may change. -/
def new (workspaceId title : String) : Workspace :=
  ⟨workspaceId, title, none, none, true, [], [], .empty⟩

/-- The workspace with another vertex on its canvas. -/
def withVertex (w : Workspace) (vertexId : String) (position : Option GraphPosition) :
    Workspace :=
  { w with vertices := w.vertices ++ [⟨vertexId, position⟩] }

/-- The ids of the vertices on the canvas, in their order. -/
def vertexIds (w : Workspace) : List String := w.vertices.map WorkspaceVertex.vertexId

/-- The declared fields, in declared order. -/
def declaredFields (w : Workspace) : List (String × Json) :=
  [("workspaceId", .str w.workspaceId), ("title", .str w.title)] ++
    writeOptional "createdBy" .str w.createdBy ++
    writeOptional "isSharedToUser" .bool w.isSharedToUser ++
    [("isEditable", .bool w.isEditable), ("users", .arr (w.users.map write)),
      ("vertices", .arr (w.vertices.map write))]

instance : Wire Workspace where
  read source
    | .obj fields => do
      let createdBy ← optionalField fields "createdBy" (readNullable readString)
      let isEditable ← optionalField fields "isEditable" readBool
      let isSharedToUser ← optionalField fields "isSharedToUser" (readNullable readBool)
      let title ← optionalField fields "title" readString
      let users ← optionalField fields "users" (readList (read source))
      let vertices ← optionalField fields "vertices" (readList (read source))
      let workspaceId ← optionalField fields "workspaceId" readString
      let workspaceId ← require "workspaceId" workspaceId
      let title ← require "title" title
      return {
        workspaceId, title
        createdBy := createdBy.join
        isSharedToUser := isSharedToUser.join
        isEditable := isEditable.getD false
        users := users.getD []
        vertices := vertices.getD []
        extra := (SortedMap.ofList fields).eraseAll declared }
    | a => refuse a (.record "Workspace")
  write w := .obj (w.declaredFields ++ w.extra.entries)

end Workspace

end GraphStore
