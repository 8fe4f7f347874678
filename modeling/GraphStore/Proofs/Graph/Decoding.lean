import GraphStore.Graph.Recognition
import Mathlib.Data.List.Forall2

/-!
# What decoders accept

A decoder reads the fields that are there one after another, and then requires the ones that have
to be there.  So it succeeds exactly when every required field is there and is read, and the
result is made of what was read.

* `Wire.bind_eq_ok_iff`, `Wire.optionalField_eq_some_iff`, `Wire.require_eq_ok_iff` : one step of a
  decoder that succeeds.
* `Wire.readList_eq_ok_iff` : a list is read item by item.
* `Entity.read_vertex_iff`, `Entity.read_edge_iff` : the objects that are decoded, and the entities
  they are decoded to.
* `Recognition.entity?_eq_some_iff` : an entity that is recognised in a response is one that is
  decoded and plain.
-/

namespace GraphStore

namespace Wire

variable {α β : Type}

theorem bind_eq_ok_iff {x : Decoded α} {f : α → Decoded β} {b : β} :
    x >>= f = .ok b ↔ ∃ a, x = .ok a ∧ f a = .ok b := by
  cases x with
  | error e =>
    constructor
    · intro h
      cases h
    · rintro ⟨a, h, -⟩
      cases h
  | ok a =>
    constructor
    · exact fun h => ⟨a, rfl, h⟩
    · rintro ⟨a', h, hb⟩
      cases h
      exact hb

theorem readString_eq_ok_iff {a : Json} {s : String} : readString a = .ok s ↔ a = .str s := by
  cases a <;> simp [readString, refuse]

theorem optionalField_eq_some_iff {fields : List (String × Json)} {name : String}
    {read : Json → Decoded α} {x : α} :
    optionalField fields name read = .ok (some x) ↔
      ∃ a, Assoc.get? name fields = some a ∧ read a = .ok x := by
  unfold optionalField
  cases Assoc.get? name fields with
  | none => simp
  | some a => cases h : read a <;> simp [Except.map, h]

theorem stringField_iff {fields : List (String × Json)} {name s : String} :
    optionalField fields name readString = .ok (some s) ↔
      Assoc.get? name fields = some (.str s) := by
  simp only [optionalField_eq_some_iff, readString_eq_ok_iff, exists_eq_right]

theorem require_eq_ok_iff {name : String} {o : Option α} {x : α} :
    require name o = .ok x ↔ o = some x := by
  cases o <;> simp [require]

theorem readList_ok_iff {f : Json → α} {a : Json} {xs : List α} :
    readList (fun b => .ok (f b)) a = .ok xs ↔ ∃ items, a = .arr items ∧ xs = items.map f := by
  cases a with
  | arr items =>
    have hall : items.mapM (fun b => (.ok (f b) : Decoded α)) = .ok (items.map f) :=
      List.mapM_pure
    simp [readList, hall, eq_comm]
  | _ => simp [readList, refuse]

theorem readList_eq_ok_iff {read : Json → Decoded α} {a : Json} {xs : List α} :
    readList read a = .ok xs ↔
      ∃ items, a = .arr items ∧ List.Forall₂ (fun b x => read b = .ok x) items xs := by
  have hitems (items : List Json) : items.mapM read = .ok xs ↔
      List.Forall₂ (fun b x => read b = .ok x) items xs := by
    induction items generalizing xs with
    | nil => cases xs <;> simp [pure, Except.pure]
    | cons b items ih =>
      simp only [List.mapM_cons, bind_eq_ok_iff, ih]
      constructor
      · rintro ⟨x, hx, ys, hys, h⟩
        cases h
        exact .cons hx hys
      · rintro (_ | ⟨hx, hys⟩)
        exact ⟨_, hx, _, hys, rfl⟩
  cases a with
  | arr items => simp [readList, hitems]
  | _ => simp [readList, refuse]

end Wire

namespace Entity

open Wire

theorem read_vertex_iff {source : Source} {fields : List (String × Json)} {e : Vertex} :
    read .vertex source (.obj fields) = .ok e ↔
      ∃ id status items,
        Assoc.get? "id" fields = some (.str id) ∧
        Assoc.get? "sandboxStatus" fields = some (.str status) ∧
        Assoc.get? "properties" fields = some (.arr items) ∧
        e = ⟨id, .vertex (.ofText status) (items.map Property.mk), undeclared .vertex fields⟩ := by
  simp only [read, bind_eq_ok_iff, require_eq_ok_iff]
  constructor
  · rintro ⟨_, hid, _, hitems, _, hstatus, id, rfl, status, rfl, _, rfl, he⟩
    obtain ⟨_, hproperties, hitems⟩ := optionalField_eq_some_iff.1 hitems
    obtain ⟨items, rfl, rfl⟩ := readList_ok_iff.1 hitems
    cases he
    exact ⟨id, status, items, stringField_iff.1 hid, stringField_iff.1 hstatus, hproperties, rfl⟩
  · rintro ⟨id, status, items, hid, hstatus, hproperties, rfl⟩
    have hitems : readList (fun a => .ok (Property.mk a)) (.arr items) =
        .ok (items.map Property.mk) := readList_ok_iff.2 ⟨items, rfl, rfl⟩
    exact ⟨_, stringField_iff.2 hid, _, optionalField_eq_some_iff.2 ⟨_, hproperties, hitems⟩,
      _, stringField_iff.2 hstatus, id, rfl, status, rfl, _, rfl, rfl⟩

theorem read_edge_iff {source : Source} {fields : List (String × Json)} {e : Edge} :
    read .edge source (.obj fields) = .ok e ↔
      ∃ id label tail head type,
        Assoc.get? "id" fields = some (.str id) ∧
        Assoc.get? "label" fields = some (.str label) ∧
        Assoc.get? "source" fields = some (.str tail) ∧
        Assoc.get? "target" fields = some (.str head) ∧
        Assoc.get? "type" fields = some type ∧ readName edgeType source type = .ok () ∧
        e = ⟨id, .edge label tail head, undeclared .edge fields⟩ := by
  simp only [read, bind_eq_ok_iff, require_eq_ok_iff]
  constructor
  · rintro ⟨_, hid, _, hlabel, _, htail, _, hhead, _, hname, id, rfl, label, rfl, tail, rfl,
      head, rfl, _, rfl, he⟩
    obtain ⟨type, htype, hname⟩ := optionalField_eq_some_iff.1 hname
    cases he
    exact ⟨id, label, tail, head, type, stringField_iff.1 hid, stringField_iff.1 hlabel,
      stringField_iff.1 htail, stringField_iff.1 hhead, htype, hname, rfl⟩
  · rintro ⟨id, label, tail, head, type, hid, hlabel, htail, hhead, htype, hname, rfl⟩
    exact ⟨_, stringField_iff.2 hid, _, stringField_iff.2 hlabel, _, stringField_iff.2 htail,
      _, stringField_iff.2 hhead, _, optionalField_eq_some_iff.2 ⟨type, htype, hname⟩,
      id, rfl, label, rfl, tail, rfl, head, rfl, (), rfl, rfl⟩

theorem fields_of_read {k : Kind} {source : Source} {a : Json} {e : Entity k}
    (h : read k source a = .ok e) : ∃ fields, a = .obj fields := by
  cases k <;> cases a <;> first | exact ⟨_, rfl⟩ | cases h

end Entity

namespace Recognition

variable {k : Kind}

/-- What is asked of an entity beyond its decoding: a vertex has no end of a connection, and the
type of an edge is written as a string. -/
def Plain : Kind → Json → Prop
  | .vertex, .obj fields =>
    Assoc.get? "sourceVertexId" fields = none ∧ Assoc.get? "destVertexId" fields = none
  | .edge, .obj fields => Assoc.get? "type" fields = some (.str "edge")
  | _, _ => False

/-- The look of an entity follows from its decoding. -/
theorem looksLike_of_read {fields : List (String × Json)} {e : Entity k}
    (h : Entity.read k .direct (.obj fields) = .ok e) :
    looksLike fields k = true ↔ Plain k (.obj fields) := by
  cases k with
  | vertex =>
    obtain ⟨id, status, items, hid, hstatus, hitems, -⟩ := Entity.read_vertex_iff.1 h
    simp [looksLike, Plain, has, isArray, hid, hstatus, hitems]
  | edge =>
    obtain ⟨id, label, tail, head, type, hid, hlabel, htail, hhead, htype, -, -⟩ :=
      Entity.read_edge_iff.1 h
    cases type <;> simp [looksLike, Plain, has, hid, hlabel, htail, hhead, htype, Json.string?]

theorem entity?_eq_some_iff {a : Json} {e : Entity k} :
    entity? k a = some e ↔ Entity.read k .direct a = .ok e ∧ Plain k a := by
  constructor
  · intro h
    cases a with
    | obj fields =>
      simp only [entity?] at h
      split at h
      next hlooks =>
        cases hread : Entity.read k .direct (.obj fields) with
        | error e => simp [hread, Except.toOption] at h
        | ok e' =>
          obtain rfl : e' = e := by simpa [hread, Except.toOption] using h
          exact ⟨rfl, (looksLike_of_read hread).1 hlooks⟩
      next => cases h
    | _ => cases h
  · rintro ⟨hread, hplain⟩
    obtain ⟨fields, rfl⟩ := Entity.fields_of_read hread
    simp [entity?, (looksLike_of_read hread).2 hplain, hread, Except.toOption]

end Recognition

end GraphStore
