import GraphStore.Graph.Property
import GraphStore.Json.Writer

/-!
# Comments

Comments are properties with a certain name.  A thread lists the comments among some properties
with the oldest first; comments without a date come last, and comments of one date stay in the
order of the properties.
-/

namespace GraphStore

/-- A comment on a vertex or an edge. -/
structure Comment where
  text : String
  /-- The key that tells it apart from other comments of the entity. -/
  key : Option String
  author : Option String
  /-- When it was made, in milliseconds. -/
  created : Option Int
  modified : Option Int
  visibility : Option Json
  deriving DecidableEq

namespace Comment

/-- The name of a property that is a comment. -/
def propertyName : String := "http://lumify.io/comment#entry"

def createdEntry : String := "http://lumify.io#createDate"

def modifiedEntry : String := "http://lumify.io#modifiedDate"

def authorEntry : String := "http://lumify.io#modifiedBy"

def visibilityEntry : String := "http://lumify.io#visibilityJson"

/-- What a value says: a string as it is, nothing for null, and any other value as JSON. -/
def textOf : Option Json → String
  | none => ""
  | some .null => ""
  | some (.str s) => s
  | some a => a.compact

/-- The comment that a property holds. -/
def ofProperty (p : Property) : Comment where
  text := textOf p.value?
  key := p.key?
  author := (p.metadata? authorEntry).bind Json.string?
  created := (p.metadata? createdEntry).bind Json.int64?
  modified := (p.metadata? modifiedEntry).bind Json.int64?
  visibility := p.metadata? visibilityEntry

/-- The comment was changed after it was made. -/
def edited (c : Comment) : Bool := c.created != c.modified

/-- The first comment may stand before the second: it is not younger, and it has a date if the
second has one. -/
def notAfter (a b : Comment) : Bool :=
  match a.created, b.created with
  | some a, some b => a ≤ b
  | some _, none => true
  | none, some _ => false
  | none, none => true

/-- The property is a comment. -/
def isComment (p : Property) : Bool := p.name? == some propertyName

/-- Put a comment in front of the first one that it may stand before. -/
def place (c : Comment) : List Comment → List Comment
  | [] => [c]
  | d :: rest => if c.notAfter d then c :: d :: rest else d :: place c rest

/-- The comments in order of date, without changing the order of those with the same date. -/
def byDate : List Comment → List Comment
  | [] => []
  | c :: rest => place c (byDate rest)

/-- The comments among some properties, the oldest first. -/
def thread (properties : List Property) : List Comment :=
  byDate ((properties.filter isComment).map ofProperty)

end Comment

end GraphStore
