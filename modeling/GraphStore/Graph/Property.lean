import GraphStore.Json.Basic

/-!
# Properties

A property is kept exactly as it was sent, whatever value it is.  The accessors read the parts
that a well-formed property has: a name, a key, a value and metadata.
-/

namespace GraphStore

/-- A property of a vertex or an edge. -/
structure Property where
  /-- The property as it was sent. -/
  raw : Json
  deriving DecidableEq

namespace Property

/-- A property with a name and a value. -/
def ofNameValue (name : String) (value : Json) : Property :=
  ⟨.obj (SortedMap.ofList [("name", .str name), ("value", value)]).entries⟩

def field? (p : Property) (name : String) : Option Json := p.raw.field? name

/-- The name, if it is a string. -/
def name? (p : Property) : Option String := (p.field? "name").bind Json.string?

/-- The key that tells apart properties of one name, if it is a string. -/
def key? (p : Property) : Option String := (p.field? "key").bind Json.string?

def value? (p : Property) : Option Json := p.field? "value"

/-- An entry of the metadata. -/
def metadata? (p : Property) (name : String) : Option Json :=
  (p.field? "metadata").bind (Json.field? name)

/-- The fields of a value; a value that is no object has none. -/
def fieldsOf : Json → List (String × Json)
  | .obj fields => fields
  | _ => []

/-- The property with an entry put into its metadata.  Metadata that is no object is replaced by
one; a property that is no object stays as it is. -/
def withMetadata (p : Property) (name : String) (value : Json) : Property :=
  match p.raw with
  | .obj fields =>
    let metadata := fieldsOf ((Assoc.get? "metadata" fields).getD .null)
    ⟨.obj (Assoc.insert "metadata" (.obj (Assoc.insert name value metadata)) fields)⟩
  | _ => p

end Property

end GraphStore
