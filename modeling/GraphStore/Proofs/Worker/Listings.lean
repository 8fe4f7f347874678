import GraphStore.Proofs.Graph.Decoding
import GraphStore.Proofs.Store.Operations
import GraphStore.Worker.Basic

/-!
# Recognised and decoded

Entities in a response are read twice.  The store goes through it for whatever looks like an
entity and passes over the rest; the caller has a list decoded, and any item that is wrong is an
error.  Both find the same entities, up to a small difference (`Recognition.Plain`): a record with
the ends of a connection is decoded as a vertex, and the type of an edge may be written as an
object.

* `Recognition.entity?_eq_some_iff` : an entity that is recognised is one that is decoded and plain.
* `Findings.listed_eq_some_iff`, `readEntities_obj_iff` : the lists that are found and the lists
  that are decoded.
* `Recognition.agrees_with_decoding` : a list of plain entities that the caller gets is the list
  that the store takes in.  This is so for objects; a response that is itself a list carries nothing
  for the store (`Worker.receive_positional`).
-/

namespace GraphStore

open Wire

namespace Recognition

variable {k : Kind}

theorem entities?_eq_some_iff {a : Json} {es : List (Entity k)} :
    entities? k a = some es ↔ ∃ first rest, a = .arr (first :: rest) ∧
      (entity? k first).isSome ∧ es = (first :: rest).filterMap (entity? k) := by
  constructor
  · intro h
    match a, h with
    | .arr (first :: rest), h =>
      obtain ⟨e, he, rfl⟩ := Option.map_eq_some_iff.1 h
      exact ⟨first, rest, rfl, by simp [he], by simp [he]⟩
  · rintro ⟨first, rest, rfl, hsome, rfl⟩
    obtain ⟨e, he⟩ := Option.isSome_iff_exists.1 hsome
    simp [entities?, he]

theorem filterMap_entity? {items : List Json} {es : List (Entity k)}
    (h : List.Forall₂ (fun a e => Entity.read k .direct a = .ok e) items es)
    (hplain : ∀ a ∈ items, Plain k a) : items.filterMap (entity? k) = es := by
  induction h with
  | nil => rfl
  | @cons a e items es hread _ ih =>
    have ha : entity? k a = some e :=
      entity?_eq_some_iff.2 ⟨hread, hplain a List.mem_cons_self⟩
    rw [List.filterMap_cons_some ha, ih fun b hb => hplain b (List.mem_cons_of_mem a hb)]

end Recognition

namespace Kind

/-- The field of a response that lists entities of the kind. -/
def listing : Kind → String
  | vertex => "vertices"
  | edge => "edges"

end Kind

/-- The entities of a kind in a response to a request for them. -/
def readEntities : (k : Kind) → Json → Decoded (List (Entity k))
  | .vertex => readVertices
  | .edge => readEdges

/-- The entities of a kind that a response lists. -/
def Findings.listed (f : Findings) : (k : Kind) → Option (List (Entity k))
  | .vertex => f.vertices
  | .edge => f.edges

namespace Findings

variable {k : Kind}

theorem listed_eq_some_iff {fields : List (String × Json)} {es : List (Entity k)} :
    (of (.obj fields)).listed k = some es ↔ ∃ first rest,
      Assoc.get? k.listing fields = some (.arr (first :: rest)) ∧
        (Recognition.entity? k first).isSome ∧
        es = (first :: rest).filterMap (Recognition.entity? k) := by
  have hlisted : (of (.obj fields)).listed k =
      (Assoc.get? k.listing fields).bind (Recognition.entities? k) := by
    cases k <;> rfl
  rw [hlisted]
  cases Assoc.get? k.listing fields with
  | none => simp
  | some a =>
    rw [Option.bind_some, Recognition.entities?_eq_some_iff]
    simp

end Findings

section

variable {k : Kind} {fields : List (String × Json)} {es : List (Entity k)}

/-- The lists that are decoded, but for the empty list, which is also what a response without the
field is decoded to. -/
theorem readEntities_obj_iff (hne : es ≠ []) :
    readEntities k (.obj fields) = .ok es ↔ ∃ items,
      Assoc.get? k.listing fields = some (.arr items) ∧
        List.Forall₂ (fun a e => Entity.read k .direct a = .ok e) items es := by
  have hread : readEntities k (.obj fields) = (do
      return (← optionalField fields k.listing (readList (Entity.read k .direct))).getD []) := by
    cases k <;> rfl
  rw [hread, bind_eq_ok_iff]
  constructor
  · rintro ⟨found, hfound, h⟩
    cases found with
    | none =>
      cases h
      exact absurd rfl hne
    | some found =>
      cases h
      obtain ⟨a, ha, hlist⟩ := optionalField_eq_some_iff.1 hfound
      obtain ⟨items, rfl, hitems⟩ := readList_eq_ok_iff.1 hlist
      exact ⟨items, ha, hitems⟩
  · rintro ⟨items, hfield, hitems⟩
    have hlist : readList (Entity.read k .direct) (.arr items) = .ok es :=
      readList_eq_ok_iff.2 ⟨items, rfl, hitems⟩
    exact ⟨some es, optionalField_eq_some_iff.2 ⟨_, hfield, hlist⟩, rfl⟩

end

namespace Batch

variable {k : Kind} {response : Json} {es : List (Entity k)}

/-- A list that is found comes as a batch; the only other batch of the kind is the response itself.
-/
theorem ofResponse_of_listed (h : (Findings.of response).listed k = some es) :
    ∃ before after, ofResponse response = before ++ ⟨k, es⟩ :: after ∧
      ∀ b ∈ before ++ after, b.kind = k →
        ∃ e, Recognition.entity? k response = some e ∧ b = ⟨k, [e]⟩ := by
  -- the batch of what the response is itself
  have hown {b : Batch} {l : Kind} {o : Option (Entity l)}
      (hb : b ∈ ((o.map ([·])).toList).map (mk l)) : ∃ e, o = some e ∧ b = ⟨l, [e]⟩ := by
    cases o with
    | none => cases hb
    | some e =>
      obtain rfl : b = ⟨l, [e]⟩ := by simpa using hb
      exact ⟨e, rfl, rfl⟩
  have hkind {b : Batch} {l : Kind} {bs : List (List (Entity l))} (hb : b ∈ bs.map (mk l)) :
      b.kind = l := by
    obtain ⟨_, -, rfl⟩ := List.mem_map.1 hb
    rfl
  cases k with
  | vertex =>
    have hlist : (Findings.of response).vertices = some es := h
    refine ⟨((((Findings.of response).vertex).map ([·])).toList).map (mk .vertex),
      ((Findings.of response).batches .edge).map (mk .edge), ?_, fun b hb hk => ?_⟩
    · simp [ofResponse, Findings.batches, hlist]
    · rcases List.mem_append.1 hb with hb | hb
      · exact hown hb
      · rw [hkind hb] at hk
        cases hk
  | edge =>
    have hlist : (Findings.of response).edges = some es := h
    refine ⟨((Findings.of response).batches .vertex).map (mk .vertex) ++
      ((((Findings.of response).edge).map ([·])).toList).map (mk .edge), [], ?_,
      fun b hb hk => ?_⟩
    · simp [ofResponse, Findings.batches, hlist]
    · rw [List.append_nil] at hb
      rcases List.mem_append.1 hb with hb | hb
      · rw [hkind hb] at hk
        cases hk
      · exact hown hb

end Batch

namespace Worker

theorem receive_ok {α : Type} (w : Worker) (workspaceId : String) (decode : Json → Decoded α)
    (response : Json) :
    w.receive workspaceId decode (.ok response) =
      let taken := w.store.takeIn w.focus workspaceId (Batch.ofResponse response)
      ({ w with store := taken.1 }, ofDecoded (decode response), taken.2.2) := by
  simp only [receive, intake, Store.absorb_eq]
  rfl

/-- The list may also come as the only element of a list.  It is decoded then, but nothing of it is
taken in. -/
theorem receive_positional (w : Worker) (workspaceId : String) {k : Kind} {items : List Json}
    {es : List (Entity k)}
    (h : List.Forall₂ (fun a e => Entity.read k .direct a = .ok e) items es) :
    w.receive workspaceId (readEntities k) (.ok (.arr [.arr items])) = (w, .ok es, .none) := by
  have hread : readEntities k (.arr [.arr items]) = .ok es := by
    have hlist : readList (Entity.read k .direct) (.arr items) = .ok es :=
      readList_eq_ok_iff.2 ⟨items, rfl, h⟩
    have hfound : element [.arr items] 0 (readList (Entity.read k .direct)) (.ok []) = .ok es :=
      hlist
    cases k <;> exact bind_eq_ok_iff.2 ⟨es, hfound, rfl⟩
  rw [receive_ok, hread]
  rfl

end Worker

namespace Recognition

/-- **Recognition agrees with decoding.**  A value is recognised as an entity of a kind exactly when
it is decoded to it and is plain.  A response that is an object lists entities of a kind exactly
when the field for them is an array whose first item is recognised, and these are the items that are
recognised, in their order.  So when a list that is not empty is decoded for the caller and its
items are plain, the list is found, and the store takes it in as one batch, whatever else the
response carries; there is no other batch of the kind, unless the response is itself an entity. -/
theorem agrees_with_decoding (k : Kind) :
    (∀ (a : Json) (e : Entity k),
      entity? k a = some e ↔ Entity.read k .direct a = .ok e ∧ Plain k a) ∧
    (∀ (fields : List (String × Json)) (es : List (Entity k)),
      (Findings.of (.obj fields)).listed k = some es ↔ ∃ first rest,
        Assoc.get? k.listing fields = some (.arr (first :: rest)) ∧ (entity? k first).isSome ∧
          es = (first :: rest).filterMap (entity? k)) ∧
    ∀ (w : Worker) (workspaceId : String) (fields : List (String × Json)) (es : List (Entity k)),
      readEntities k (.obj fields) = .ok es → es ≠ [] →
      (∀ items, Assoc.get? k.listing fields = some (.arr items) → ∀ a ∈ items, Plain k a) →
      (Findings.of (.obj fields)).listed k = some es ∧
      ∃ before after : List Batch,
        (∀ b ∈ before ++ after, b.kind = k →
          ∃ e, entity? k (.obj fields) = some e ∧ b = ⟨k, [e]⟩) ∧
        let taken := w.store.takeIn w.focus workspaceId (before ++ ⟨k, es⟩ :: after)
        w.receive workspaceId (readEntities k) (.ok (.obj fields)) =
          ({ w with store := taken.1 }, .ok es, taken.2.2) := by
  refine ⟨fun a e => entity?_eq_some_iff, fun fields es => Findings.listed_eq_some_iff,
    fun w workspaceId fields es hread hne hplain => ?_⟩
  obtain ⟨items, hfield, hitems⟩ := (readEntities_obj_iff hne).1 hread
  have hfound := filterMap_entity? hitems (hplain items hfield)
  have hlisted : (Findings.of (.obj fields)).listed k = some es := by
    cases hitems with
    | nil => exact absurd rfl hne
    | @cons first e rest _ hfirst =>
      have hentity : entity? k first = some e :=
        entity?_eq_some_iff.2 ⟨hfirst, hplain _ hfield first List.mem_cons_self⟩
      exact Findings.listed_eq_some_iff.2 ⟨first, rest, hfield, by simp [hentity], hfound.symm⟩
  obtain ⟨before, after, hbatches, hothers⟩ := Batch.ofResponse_of_listed hlisted
  refine ⟨hlisted, before, after, hothers, ?_⟩
  rw [Worker.receive_ok, hbatches, hread]
  rfl

/-- A response that lists two vertices. -/
def twoVertices : List (String × Json) :=
  [("vertices", .arr
    [.obj [("id", .str "v1"), ("properties", .arr []), ("sandboxStatus", .str "PUBLIC")],
      .obj [("id", .str "v2"), ("properties", .arr []), ("sandboxStatus", .str "PRIVATE")]])]

/-- The theorem applies to a response that lists two vertices. -/
theorem agrees_with_decoding_twoVertices :
    let es : List Vertex := [.vertex "v1" .published, .vertex "v2" .unpublished]
    readVertices (.obj twoVertices) = .ok es ∧
      (∀ items, Assoc.get? "vertices" twoVertices = some (.arr items) →
        ∀ a ∈ items, Plain .vertex a) ∧
      (Findings.of (.obj twoVertices)).vertices = some es ∧
      ((Worker.new .default).receive "w1" readVertices (.ok (.obj twoVertices))).2.1 = .ok es := by
  intro es
  have hread : readEntities .vertex (.obj twoVertices) = .ok es := rfl
  have hplain (items : List Json) (h : Assoc.get? "vertices" twoVertices = some (.arr items)) :
      ∀ a ∈ items, Plain .vertex a := by
    obtain rfl := Json.arr.inj (Option.some.inj h)
    simp [Plain, Assoc.get?]
  obtain ⟨hlisted, before, after, -, hreceive⟩ := (agrees_with_decoding .vertex).2.2
    (Worker.new .default) "w1" twoVertices es hread (by simp [es]) hplain
  exact ⟨hread, hplain, hlisted, congrArg (·.2.1) hreceive⟩

end Recognition

end GraphStore
