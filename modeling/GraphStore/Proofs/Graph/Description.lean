import GraphStore.Proofs.Graph.Decoding
import GraphStore.Proofs.Graph.Equality
import GraphStore.Proofs.Json.Alike
import GraphStore.Proofs.Wire.Lossless

/-!
# Entities and the objects that describe them

An entity that is recognised in an object holds all that the object says, the declared fields apart
from the others.  So it can be exchanged for the object: it is written as the same object again
(`Entity.Describes.value_eq`), dropping fields of one is dropping fields of the other
(`Entity.Describes.strip`), and two entities are equal when their objects are
(`Entity.Describes.same_iff`).

* `Entity.Describes` : the object says what the entity is.
* `Entity.droppable` : the names that matter when fields are dropped; declared fields stay.
* `Entity.same_value` : entities that are equal are written alike, whatever they hold.
* `Recognition.value_strip`, `Recognition.same_strip_iff` : an entity that is recognised, without
  its volatile fields, stands for the object that was sent, without these fields.
-/

namespace GraphStore

/-- The status of a vertex is the one of its text. -/
def Body.Regular : {k : Kind} → Body k → Prop
  | _, .vertex status _ => .ofText status.text = status
  | _, .edge .. => True

theorem Property.raw_comp_mk : raw ∘ mk = id := rfl

namespace Entity

variable {k : Kind}

/-- The names among these that are not names of declared fields. -/
def droppable (k : Kind) (names : List String) : List String :=
  names.filter fun name => !(declared k).contains name

/-- The entity is what the fields of an object, in their order, say. -/
structure Describes (e : Entity k) (fields : List (String × Json)) : Prop where
  /-- The fields are in order. -/
  sorted : Assoc.Sorted fields
  /-- The declared fields are among them. -/
  declared : ∀ name ∈ declared k, Assoc.get? name e.declaredFields = Assoc.get? name fields
  /-- The other fields of the entity are the other ones among them. -/
  extra : ∀ name, e.extra.get? name =
    if name ∈ Entity.declared k then none else Assoc.get? name fields
  /-- A known status is not held as a text. -/
  regular : e.body.Regular

/-! ### Names -/

theorem names_declaredFields (e : Entity k) : e.declaredFields.map Prod.fst = declared k := by
  obtain ⟨id, body, extra⟩ := e
  cases body <;> rfl

theorem nodup_declared (k : Kind) : (declared k).Nodup := by
  cases k <;> decide

theorem get?_declaredFields_eq_none (e : Entity k) {name : String} (h : name ∉ declared k) :
    Assoc.get? name e.declaredFields = none := by
  rwa [Assoc.get?_eq_none_iff, names_declaredFields]

theorem mem_droppable {names : List String} {name : String} :
    name ∈ droppable k names ↔ name ∈ names ∧ name ∉ declared k := by
  simp [droppable]

theorem get?_undeclared {fields : List (String × Json)} (h : Assoc.Sorted fields) (name : String) :
    (undeclared k fields).get? name =
      if name ∈ declared k then none else Assoc.get? name fields :=
  (Wire.Rest.of_sorted h).get?_eq name

theorem get?_id (e : Entity k) : Assoc.get? "id" e.declaredFields = some (.str e.id) := by
  obtain ⟨id, body, extra⟩ := e
  cases body <;> rfl

theorem nodup_declaredFields (e : Entity k) : (e.declaredFields.map Prod.fst).Nodup := by
  rw [names_declaredFields]
  exact nodup_declared k

/-- A written entity has its other fields, and the declared ones among the rest. -/
theorem field?_value (e : Entity k) (name : String) :
    (Wire.value e).field? name =
      ((e.extra.get? name).or (Assoc.get? name e.declaredFields)).map Json.canonical :=
  Wire.get?_written_append e.nodup_declaredFields e.extra name

section

variable {x y : Entity k}

theorem same_declared_iff (hx : x.body.Regular) (hy : y.body.Regular) :
    (x.id = y.id ∧ x.body.same y.body = true) ↔ ∀ name ∈ Entity.declared k,
      Json.AgreeAt Number.same (Assoc.get? name x.declaredFields)
        (Assoc.get? name y.declaredFields) := by
  obtain ⟨id, body, extra⟩ := x
  obtain ⟨id', body', extra'⟩ := y
  cases body with
  | vertex status properties =>
    cases body' with
    | vertex status' properties' =>
      have hstatus : status.text = status'.text ↔ status = status' :=
        ⟨fun h => hx.symm.trans ((congrArg SandboxStatus.ofText h).trans hy), congrArg _⟩
      simp [Entity.declared, declaredFields, Assoc.get?, Json.agree, Body.same, hstatus]
  | edge label source target =>
    cases body' with
    | edge label' source' target' =>
      simp [Entity.declared, declaredFields, Assoc.get?, Json.agree, Body.same, and_assoc]

/-- Equal entities are written alike. -/
theorem same_value (h : x.same y = true) : Json.same (Wire.value x) (Wire.value y) = true := by
  obtain ⟨id, body, extra⟩ := x
  obtain ⟨id', body', extra'⟩ := y
  simp only [Entity.same, Bool.and_eq_true, beq_iff_eq] at h
  obtain ⟨⟨rfl, hbody⟩, hextra⟩ := h
  have hdeclared : Json.agreeFields Number.same (declaredFields ⟨id, body, extra⟩)
      (declaredFields ⟨id, body', extra'⟩) = true := by
    cases body <;> cases body' <;>
      simp_all [Body.same, declaredFields, Json.agreeFields, Json.agreeField, Json.agree]
  exact Json.agree_canonical (Json.agreeFields_iff_forall₂.2
    (List.rel_append (Json.agreeFields_iff_forall₂.1 hdeclared)
      (Json.agreeFields_iff_forall₂.1 hextra)))

end

namespace Describes

variable {fields as bs : List (String × Json)} {e x y : Entity k}

theorem get?_eq (h : Describes e fields) (name : String) :
    (e.extra.get? name).or (Assoc.get? name e.declaredFields) = Assoc.get? name fields := by
  rw [h.extra]
  by_cases hname : name ∈ Entity.declared k
  · rw [if_pos hname, Option.none_or, h.declared name hname]
  · rw [if_neg hname, get?_declaredFields_eq_none e hname, Option.or_none]

/-- An object describes the entity that is recognised in it. -/
theorem of_entity? (h : Recognition.entity? k (.obj fields) = some e) (hs : Assoc.Sorted fields) :
    Describes e fields := by
  obtain ⟨hread, hplain⟩ := Recognition.entity?_eq_some_iff.1 h
  cases k with
  | vertex =>
    obtain ⟨id, status, items, hid, hstatus, hitems, rfl⟩ := read_vertex_iff.1 hread
    refine ⟨hs, fun name hname => ?_, get?_undeclared hs, ?_⟩
    · simp only [Entity.declared, List.mem_cons, List.not_mem_nil, or_false] at hname
      rcases hname with rfl | rfl | rfl <;>
        simp [declaredFields, Assoc.get?, hid, hstatus, hitems, Property.raw_comp_mk,
          SandboxStatus.text_ofText]
    · simp [Body.Regular, SandboxStatus.text_ofText]
  | edge =>
    obtain ⟨id, label, tail, head, type, hid, hlabel, htail, hhead, -, -, rfl⟩ :=
      read_edge_iff.1 hread
    have htype : Assoc.get? "type" fields = some (.str "edge") := hplain
    refine ⟨hs, fun name hname => ?_, get?_undeclared hs, trivial⟩
    simp only [Entity.declared, List.mem_cons, List.not_mem_nil, or_false] at hname
    rcases hname with rfl | rfl | rfl | rfl | rfl <;>
      simp [declaredFields, Assoc.get?, hid, hlabel, htail, hhead, htype]

/-- The entity is written as the object that describes it. -/
theorem value_eq (h : Describes e fields) (hfields : (Json.obj fields).Canonical) :
    Wire.value e = .obj fields := by
  refine congrArg Json.obj (Assoc.Sorted.ext (SortedMap.sorted _) h.sorted fun name => ?_)
  have hfield := e.field?_value name
  rw [h.get?_eq] at hfield
  refine hfield.trans ?_
  cases ha : Assoc.get? name fields with
  | none => rfl
  | some a => exact congrArg some (hfields.of_get? ha).canonical_eq

theorem strip (h : Describes e fields) (names : List String) :
    Describes (e.strip names) (fields.filter fun f => !(droppable k names).contains f.1) where
  sorted := h.sorted.filter _
  declared name hname := by
    have hsame : (e.strip names).declaredFields = e.declaredFields := by
      obtain ⟨id, body, extra⟩ := e
      cases body <;> rfl
    have hstays : name ∉ droppable k names := fun hdrop => (mem_droppable.1 hdrop).2 hname
    rw [hsame, h.declared name hname, Json.get?_without, if_neg hstays]
  extra name := by
    rw [Json.get?_without, Entity.strip, SortedMap.get?_eraseAll, h.extra]
    by_cases hname : name ∈ Entity.declared k
    · simp [hname]
    · simp [hname, mem_droppable]
  regular := h.regular

/-- Entities are equal when the objects that describe them are. -/
theorem same_iff (hx : Describes x as) (hy : Describes y bs) :
    x.same y = true ↔ Json.sameFields as bs = true := by
  have hextra : Json.sameFields x.extra.entries y.extra.entries = true ↔
      ∀ name, Json.AgreeAt Number.same (x.extra.get? name) (y.extra.get? name) :=
    Json.agreeFields_iff x.extra.sorted y.extra.sorted
  have hfields : Json.sameFields as bs = true ↔
      ∀ name, Json.AgreeAt Number.same (Assoc.get? name as) (Assoc.get? name bs) :=
    Json.agreeFields_iff hx.sorted hy.sorted
  have hsame : x.same y = true ↔ (x.id = y.id ∧ x.body.same y.body = true) ∧
      Json.sameFields x.extra.entries y.extra.entries = true := by
    simp [Entity.same]
  rw [hsame, hextra, hfields, same_declared_iff hx.regular hy.regular]
  -- a name is declared or not, so one of the two conditions on the left is about it
  constructor
  · rintro ⟨hdeclared, hextra⟩ name
    by_cases hname : name ∈ Entity.declared k
    · have := hdeclared name hname
      rwa [hx.declared name hname, hy.declared name hname] at this
    · have := hextra name
      rwa [hx.extra, hy.extra, if_neg hname, if_neg hname] at this
  · intro hall
    refine ⟨fun name hname => ?_, fun name => ?_⟩
    · rw [hx.declared name hname, hy.declared name hname]
      exact hall name
    · rw [hx.extra, hy.extra]
      by_cases hname : name ∈ Entity.declared k
      · rw [if_pos hname, if_pos hname]
        exact .none
      · rw [if_neg hname, if_neg hname]
        exact hall name

end Describes

end Entity

/-! ### Entities that are recognised -/

namespace Recognition

open Json

variable {k : Kind} {a b : Json} {x y : Entity k}

theorem describes_of_entity? (ha : a.Canonical) (hx : entity? k a = some x) :
    ∃ fields, a = .obj fields ∧ x.Describes fields := by
  obtain ⟨fields, rfl⟩ := Entity.fields_of_read (entity?_eq_some_iff.1 hx).1
  exact ⟨fields, rfl, .of_entity? hx ha.1⟩

/-- An entity that is recognised is written as it was sent. -/
theorem value_of_entity? (ha : a.Canonical) (hx : entity? k a = some x) : Wire.value x = a := by
  obtain ⟨fields, rfl, hdescribes⟩ := describes_of_entity? ha hx
  exact hdescribes.value_eq ha

theorem value_strip (ha : a.Canonical) (hx : entity? k a = some x) (names : List String) :
    Wire.value (x.strip names) = a.without (Entity.droppable k names) := by
  obtain ⟨fields, rfl, hdescribes⟩ := describes_of_entity? ha hx
  exact (hdescribes.strip names).value_eq (ha.without _)

theorem id_of_entity? (ha : a.Canonical) (hx : entity? k a = some x) :
    a.field? "id" = some (.str x.id) := by
  obtain ⟨fields, rfl, hdescribes⟩ := describes_of_entity? ha hx
  have hid : "id" ∈ Entity.declared k := by cases k <;> decide
  exact (hdescribes.declared "id" hid).symm.trans x.get?_id

/-- Entities are equal without some of their fields when what was sent is. -/
theorem same_strip_iff (ha : a.Canonical) (hb : b.Canonical) (hx : entity? k a = some x)
    (hy : entity? k b = some y) (names : List String) :
    (x.strip names).same (y.strip names) = true ↔
      Alike (a.without (Entity.droppable k names)) (b.without (Entity.droppable k names)) := by
  rw [← same_iff_alike (ha.without _) (hb.without _)]
  obtain ⟨as, rfl, hdx⟩ := describes_of_entity? ha hx
  obtain ⟨bs, rfl, hdy⟩ := describes_of_entity? hb hy
  exact (hdx.strip names).same_iff (hdy.strip names)

end Recognition

end GraphStore
