import GraphStore.Wire.Reader

/-!
# Settings of the store
-/

namespace GraphStore

open Wire

/-- The settings of a store. -/
structure StoreSettings where
  /-- The most entities of one kind held for one workspace. -/
  entityCapacity : Nat
  /-- Fields dropped from entities before they are compared and held. -/
  volatileFields : List String
  deriving DecidableEq

namespace StoreSettings

/-- The settings without a configuration: responses to searches carry a score. -/
def default : StoreSettings := ⟨10000, ["score"]⟩

/-- An integer as a natural number. -/
def readNat (kind : IntegerKind) (a : Json) : Decoded Nat := (readInteger kind a).map Int.toNat

instance : Wire StoreSettings where
  read source
    | .obj fields => do
      let capacity ← optionalField fields "entity_capacity" (readNat .usize)
      let names ← optionalField fields "volatile_fields" (readList readString)
      return ⟨capacity.getD default.entityCapacity, names.getD default.volatileFields⟩
    | .arr items => do
      let capacity ← element items 0 (readNat .usize) (.ok default.entityCapacity)
      let names ← element items 1 (readList readString) (.ok default.volatileFields)
      noExcess source items 2
      return ⟨capacity, names⟩
    | a => refuse a (.record "StoreConfig")
  write s := .obj [("entity_capacity", .int s.entityCapacity),
    ("volatile_fields", .arr (s.volatileFields.map .str))]

end StoreSettings

end GraphStore
