import GraphStore.Message.Basic
import GraphStore.Proofs.Graph.RoundTrip

/-!
# Messages that are sent on

A message may be read from several forms: from objects or lists, with names as strings or as
objects, with optional fields missing or null.  It is written in one of them, and from this one it
is read again; the entities and workspaces in it keep the fields that they do not declare.

* `Entity.ListKeeps`, `ObjectsUpdated.Keeps`, `MainMessage.Keeps` : the entities and workspaces
  inside hold the undeclared fields of the objects they are read from.
* `Wire.read_of_readMessage`, `Wire.readMessage_writeMessage` : a message is read from its payload,
  and so is one that is written.
* `Wire.decoded_restored` : the round trip, for every type that travels.
-/

namespace GraphStore

open Wire

/-! ### Lists of entities -/

namespace Entity

variable {k : Kind} {o : Option Json} {es : List (Entity k)} {source : Source}

/-- The entities hold the undeclared fields of the items of a part, one after another. -/
def ListKeeps (o : Option Json) (es : List (Entity k)) : Prop :=
  List.Forall₂ (fun a e => Rest (declared k) e.extra a) (itemsOf o) es

theorem listKeeps_of_read (hitems : ∀ a ∈ itemsOf o, a.Canonical)
    (h : List.Forall₂ (fun a e => Wire.read source a = .ok e) (itemsOf o) es) : ListKeeps o es :=
  ((List.forall₂_and_left _ _).2 ⟨hitems, h⟩).imp fun _ _ hread => rest_of_read hread.1 hread.2

theorem listKeeps_written (hitems : ∀ a ∈ itemsOf o, a.Canonical) (h : ListKeeps o es) :
    ListKeeps (some (Json.arr (es.map write)).canonical) es := by
  have hvalues : List.Forall₂ (fun _ e => Rest (declared k) e.extra (value e)) (itemsOf o) es :=
    ((List.forall₂_and_left _ _).2 ⟨hitems, h⟩).imp fun _ _ hrest => rest_value hrest.2 hrest.1
  rw [canonical_arr]
  exact List.forall₂_map_left_iff.2 (List.forall₂_same.2 (forall_mem_right hvalues))

end Entity

/-! ### Updates -/

namespace ObjectsUpdated

variable {u : ObjectsUpdated} {a : Json} {source : Source}

/-- The parts of an update that its entities are read from. -/
def listPart : Kind → Json → Option Json
  | .vertex => part "vertices" 0
  | .edge => part "edges" 1

/-- The entities of an update hold the undeclared fields of what they are read from. -/
def Keeps (u : ObjectsUpdated) (a : Json) : Prop :=
  ∀ k, Entity.ListKeeps (listPart k a) (u.listed k)

theorem readPart_of_read (h : read source a = .ok u) :
    readPart (readList (read source)) (listPart .vertex a) = .ok u.vertices ∧
      readPart (readList (read source)) (listPart .edge a) = .ok u.edges := by
  cases a with
  | obj fields =>
    simp only [Wire.read, bind_eq_ok_iff] at h
    obtain ⟨_, hedges, _, hvertices, hu⟩ := h
    cases hu
    exact ⟨readPart_of_optionalField hvertices, readPart_of_optionalField hedges⟩
  | arr items =>
    simp only [Wire.read, bind_eq_ok_iff, element_nullable] at h
    obtain ⟨_, hvertices, _, hedges, _, -, hu⟩ := h
    cases hu
    exact ⟨hvertices, hedges⟩
  | _ => cases h

theorem canonical_of_mem_listPart (ha : a.Canonical) (k : Kind) :
    ∀ b ∈ itemsOf (listPart k a), b.Canonical := by
  cases k <;> exact canonical_of_mem_itemsOf fun _ => canonical_of_part ha

theorem forall₂_of_read (h : read source a = .ok u) (k : Kind) :
    List.Forall₂ (fun b e => read source b = .ok e) (itemsOf (listPart k a)) (u.listed k) := by
  obtain ⟨hvertices, hedges⟩ := readPart_of_read h
  cases k with
  | vertex => exact forall₂_of_readPart hvertices
  | edge => exact forall₂_of_readPart hedges

theorem keeps_of_read (ha : a.Canonical) (h : read source a = .ok u) : u.Keeps a :=
  fun k => Entity.listKeeps_of_read (canonical_of_mem_listPart ha k) (forall₂_of_read h k)

theorem listPart_value (u : ObjectsUpdated) :
    listPart .vertex (value u) = u.vertices.map (fun es => (Json.arr (es.map write)).canonical) ∧
      listPart .edge (value u) = u.edges.map fun es => (Json.arr (es.map write)).canonical := by
  obtain ⟨vertices, edges⟩ := u
  have hnodup : ((writeOptional "vertices" (fun vs : List Vertex => .arr (vs.map write)) vertices ++
      writeOptional "edges" (fun es : List Edge => .arr (es.map write)) edges).map
        Prod.fst).Nodup := by
    cases vertices <;> cases edges <;> simp [writeOptional]
  have hget := get?_written hnodup
  refine ⟨(hget "vertices").trans ?_, (hget "edges").trans ?_⟩
  · cases vertices <;> cases edges <;> rfl
  · cases vertices <;> cases edges <;> rfl

theorem keeps_value (ha : a.Canonical) (h : u.Keeps a) : u.Keeps (value u) := by
  obtain ⟨hvertices, hedges⟩ := u.listPart_value
  obtain ⟨vertices, edges⟩ := u
  intro k
  cases k with
  | vertex =>
    rw [hvertices]
    cases vertices with
    | none => exact .nil
    | some vs => exact Entity.listKeeps_written (canonical_of_mem_listPart ha .vertex) (h .vertex)
  | edge =>
    rw [hedges]
    cases edges with
    | none => exact .nil
    | some es => exact Entity.listKeeps_written (canonical_of_mem_listPart ha .edge) (h .edge)

instance : Lossless ObjectsUpdated where
  read_value {source a u} ha h source' := by
    have hlist (k : Kind) (es : List (Entity k)) (hes : es = u.listed k) :
        readList (read source') (Json.arr (es.map write)).canonical = .ok es :=
      readList_values (canonical_of_mem_listPart ha k) (hes ▸ forall₂_of_read h k) source'
    obtain ⟨hvertices, hedges⟩ := u.listPart_value
    obtain ⟨vertices, hreadVertices, hvertices⟩ := optionalField_written hvertices
      (fun vs hvs => hlist .vertex vs (by rw [listed, hvs]; rfl)) nofun
    obtain ⟨edges, hreadEdges, hedges⟩ := optionalField_written hedges
      (fun es hes => hlist .edge es (by rw [listed, hes]; rfl)) nofun
    simp only [Wire.read, value, write, Json.canonical, bind_eq_ok_iff]
    exact ⟨_, hreadEdges, _, hreadVertices, by rw [hvertices, hedges]; rfl⟩

end ObjectsUpdated

/-! ### Messages under their names -/

namespace Wire

section

variable {ν μ : Type} {type : String} {names : List (String × ν)}
  {payload : ν → Source → Json → Decoded μ} {a : Json} {m : μ}

/-- A message is read from its payload. -/
theorem read_of_readMessage (h : readMessage type names payload a = .ok m) :
    ∃ name source data, part "data" 1 a = some data ∧ payload name source data = .ok m := by
  cases a with
  | obj fields =>
    simp only [readMessage, bind_eq_ok_iff, require_eq_ok_iff] at h
    obtain ⟨_, -, name, -, data, hdata, h⟩ := h
    exact ⟨name, .buffered, data, hdata, h⟩
  | arr items =>
    simp only [readMessage, bind_eq_ok_iff, element_eq_ok_iff] at h
    obtain ⟨name, -, _, ⟨data, hdata, h⟩, _, -, hm⟩ := h
    cases hm
    exact ⟨name, .direct, data, hdata, h⟩
  | _ => cases h

theorem get?_writeMessage (text : String) (data : Json) (name : String) :
    part name 1 (writeMessage text data).canonical =
      (Assoc.get? name [("type", .str text), ("data", data)]).map Json.canonical :=
  get?_written (show ([("type", .str text), ("data", data)].map Prod.fst).Nodup by simp) name

/-- A written message is read from its payload. -/
theorem readMessage_writeMessage {text : String} {name : ν} (h : Assoc.get? text names = some name)
    (data : Json) : readMessage type names payload (writeMessage text data).canonical =
      payload name .buffered data.canonical := by
  have hget := get?_writeMessage text data
  have hname : readName names .direct (.str text) = .ok name := readName_str h .direct
  have htype : optionalField (written [("type", .str text), ("data", data)]) "type"
      (readName names .direct) = .ok (some name) :=
    optionalField_eq_some_iff.2 ⟨_, hget "type", hname⟩
  have hdata : Assoc.get? "data" (written [("type", .str text), ("data", data)]) =
      some data.canonical := hget "data"
  have hmessage : (writeMessage text data).canonical =
      .obj (written [("type", .str text), ("data", data)]) := rfl
  simp only [hmessage, readMessage, htype, hdata]
  rfl

end

end Wire

/-! ### The messages -/

namespace MainMessage

variable {m : MainMessage} {a : Json} {source : Source}

/-- The entities and the workspace in a payload hold the undeclared fields of what they are read
from. -/
def DataKeeps : MainMessage → Json → Prop
  | storeObjectsUpdated u, data => u.Keeps data
  | workspaceLoaded w vs, data =>
    (∃ a, data.field? "workspace" = some a ∧ Rest Workspace.declared w.extra a) ∧
      Entity.ListKeeps (data.field? "vertices") vs
  | edgesLoaded es, data => Entity.ListKeeps (data.field? "edges") es

/-- Those of a message do. -/
def Keeps (m : MainMessage) (a : Json) : Prop :=
  ∃ data, part "data" 1 a = some data ∧ m.DataKeeps data

theorem get?_name (m : MainMessage) : Assoc.get? m.name.text names = some m.name := by
  cases m <;> rfl

theorem readData_workspaceLoaded_iff :
    readData .workspaceLoaded source a = .ok m ↔
      ∃ fields b c w vs, a = .obj fields ∧
        Assoc.get? "workspace" fields = some b ∧ Wire.read source b = .ok w ∧
        Assoc.get? "vertices" fields = some c ∧ readList (Wire.read source) c = .ok vs ∧
        workspaceLoaded w vs = m := by
  constructor
  · intro h
    cases a with
    | obj fields =>
      simp only [readData, readPayload, bind_eq_ok_iff, require_eq_ok_iff] at h
      obtain ⟨_, hvertices, _, hworkspace, w, rfl, vs, rfl, hm⟩ := h
      obtain ⟨c, hc, hvertices⟩ := optionalField_eq_some_iff.1 hvertices
      obtain ⟨b, hb, hworkspace⟩ := optionalField_eq_some_iff.1 hworkspace
      exact ⟨fields, b, c, w, vs, rfl, hb, hworkspace, hc, hvertices, Except.ok.inj hm⟩
    | _ => cases h
  · rintro ⟨fields, b, c, w, vs, rfl, hb, hworkspace, hc, hvertices, rfl⟩
    simp only [readData, readPayload, bind_eq_ok_iff, require_eq_ok_iff]
    exact ⟨_, optionalField_eq_some_iff.2 ⟨c, hc, hvertices⟩,
      _, optionalField_eq_some_iff.2 ⟨b, hb, hworkspace⟩, w, rfl, vs, rfl, rfl⟩

theorem readData_edgesLoaded_iff :
    readData .edgesLoaded source a = .ok m ↔
      ∃ fields b es, a = .obj fields ∧ Assoc.get? "edges" fields = some b ∧
        readList (Wire.read source) b = .ok es ∧ edgesLoaded es = m := by
  constructor
  · intro h
    cases a with
    | obj fields =>
      simp only [readData, readPayload, bind_eq_ok_iff, require_eq_ok_iff] at h
      obtain ⟨_, hedges, es, rfl, hm⟩ := h
      obtain ⟨b, hb, hedges⟩ := optionalField_eq_some_iff.1 hedges
      exact ⟨fields, b, es, rfl, hb, hedges, Except.ok.inj hm⟩
    | _ => cases h
  · rintro ⟨fields, b, es, rfl, hb, hedges, rfl⟩
    simp only [readData, readPayload, bind_eq_ok_iff, require_eq_ok_iff]
    exact ⟨_, optionalField_eq_some_iff.2 ⟨b, hb, hedges⟩, es, rfl, rfl⟩

theorem get?_workspaceLoaded (w : Workspace) (vs : List Vertex) (name : String) :
    (workspaceLoaded w vs).data.canonical.field? name = (Assoc.get? name
      [("workspace", write w), ("vertices", .arr (vs.map write))]).map Json.canonical :=
  get?_written (show ([("workspace", write w), ("vertices", .arr (vs.map write))].map
    Prod.fst).Nodup by simp) name

theorem get?_edgesLoaded (es : List Edge) (name : String) :
    (edgesLoaded es).data.canonical.field? name =
      (Assoc.get? name [("edges", .arr (es.map write))]).map Json.canonical :=
  get?_written (show ([("edges", .arr (es.map write))].map Prod.fst).Nodup by simp) name

theorem dataKeeps_of_read (ha : a.Canonical) {name : Name} (h : readData name source a = .ok m) :
    m.DataKeeps a := by
  cases name with
  | storeObjectsUpdated =>
    obtain ⟨u, hu, rfl⟩ := map_eq_ok_iff.1 h
    exact ObjectsUpdated.keeps_of_read ha hu
  | workspaceLoaded =>
    obtain ⟨fields, b, c, w, vs, rfl, hb, hw, hc, hvs, rfl⟩ := readData_workspaceLoaded_iff.1 h
    obtain ⟨items, rfl, hall⟩ := readList_eq_ok_iff.1 hvs
    refine ⟨⟨b, hb, Workspace.rest_of_read (ha.of_get? hb) hw⟩, ?_⟩
    rw [Json.field?, hc]
    exact Entity.listKeeps_of_read (Json.canonicalItems_iff.1 (ha.of_get? hc)) hall
  | edgesLoaded =>
    obtain ⟨fields, b, es, rfl, hb, hes, rfl⟩ := readData_edgesLoaded_iff.1 h
    obtain ⟨items, rfl, hall⟩ := readList_eq_ok_iff.1 hes
    rw [DataKeeps, Json.field?, hb]
    exact Entity.listKeeps_of_read (Json.canonicalItems_iff.1 (ha.of_get? hb)) hall

theorem dataKeeps_data (ha : a.Canonical) (h : m.DataKeeps a) : m.DataKeeps m.data.canonical := by
  have hitems (name : String) : ∀ b ∈ itemsOf (a.field? name), b.Canonical :=
    canonical_of_mem_itemsOf fun _ => ha.of_field?
  cases m with
  | storeObjectsUpdated u => exact ObjectsUpdated.keeps_value ha h
  | workspaceLoaded w vs =>
    have hget := get?_workspaceLoaded w vs
    obtain ⟨⟨b, hb, hw⟩, hvs⟩ := h
    refine ⟨⟨value w, hget "workspace", Workspace.rest_value hw (ha.of_field? hb)⟩, ?_⟩
    rw [hget "vertices"]
    exact Entity.listKeeps_written (hitems "vertices") hvs
  | edgesLoaded es =>
    rw [DataKeeps, get?_edgesLoaded]
    exact Entity.listKeeps_written (hitems "edges") h

theorem readData_data (ha : a.Canonical) {name : Name} (h : readData name source a = .ok m)
    (source' : Source) : readData m.name source' m.data.canonical = .ok m := by
  cases name with
  | storeObjectsUpdated =>
    obtain ⟨u, hu, rfl⟩ := map_eq_ok_iff.1 h
    exact map_eq_ok_iff.2 ⟨u, Lossless.read_value ha hu source', rfl⟩
  | workspaceLoaded =>
    obtain ⟨fields, b, c, w, vs, rfl, hb, hw, hc, hvs, rfl⟩ := readData_workspaceLoaded_iff.1 h
    obtain ⟨items, rfl, hall⟩ := readList_eq_ok_iff.1 hvs
    have hget := get?_workspaceLoaded w vs
    have hitems := Json.canonicalItems_iff.1 (ha.of_get? hc)
    exact readData_workspaceLoaded_iff.2 ⟨_, _, _, w, vs, rfl, hget "workspace",
      Lossless.read_value (ha.of_get? hb) hw source', hget "vertices",
      readList_values hitems hall source', rfl⟩
  | edgesLoaded =>
    obtain ⟨fields, b, es, rfl, hb, hes, rfl⟩ := readData_edgesLoaded_iff.1 h
    obtain ⟨items, rfl, hall⟩ := readList_eq_ok_iff.1 hes
    have hitems := Json.canonicalItems_iff.1 (ha.of_get? hb)
    exact readData_edgesLoaded_iff.2 ⟨_, _, es, rfl, get?_edgesLoaded es "edges",
      readList_values hitems hall source', rfl⟩

theorem keeps_of_read (ha : a.Canonical) (h : read source a = .ok m) : m.Keeps a := by
  obtain ⟨name, source, data, hdata, hread⟩ := read_of_readMessage h
  exact ⟨data, hdata, dataKeeps_of_read (canonical_of_part ha hdata) hread⟩

theorem keeps_value (ha : a.Canonical) (h : m.Keeps a) : m.Keeps (value m) := by
  obtain ⟨data, hdata, hkeeps⟩ := h
  exact ⟨_, get?_writeMessage m.name.text m.data "data",
    dataKeeps_data (canonical_of_part ha hdata) hkeeps⟩

instance : Lossless MainMessage where
  read_value {source a m} ha h source' := by
    obtain ⟨name, source, data, hdata, hread⟩ := read_of_readMessage h
    exact (readMessage_writeMessage m.get?_name m.data).trans
      (readData_data (canonical_of_part ha hdata) hread .buffered)

end MainMessage

namespace SocketMessage

theorem read_value (m : SocketMessage) (source : Source) : Wire.read source (value m) = .ok m := by
  obtain ⟨workspaceId, userId⟩ := m
  have hget := get?_written (show ([("workspaceId", .str workspaceId), ("userId", .str userId)].map
    Prod.fst).Nodup by simp)
  have hname : Assoc.get? "setActiveWorkspace" [("setActiveWorkspace", ())] = some () := rfl
  refine (readMessage_writeMessage hname _).trans ?_
  simp only [readPayload, Json.canonical, bind_eq_ok_iff, require_eq_ok_iff]
  exact ⟨_, stringField_iff.2 (hget "userId"), _, stringField_iff.2 (hget "workspaceId"),
    _, rfl, _, rfl, rfl⟩

end SocketMessage

/-! ### Requests -/

theorem StoreRequest.read_value (r : StoreRequest) (source : Source) :
    Wire.read source (value r) = .ok r := by
  have hget := get?_written (show ([("workspaceId", .str r.workspaceId), ("kind", .str r.kind),
    ("ids", .arr (r.ids.map .str))].map Prod.fst).Nodup by simp)
  have hids : readList readString (Json.arr (r.ids.map .str)).canonical = .ok r.ids := by
    rw [canonical_arr]
    exact readList_map fun _ _ => rfl
  simp only [Wire.read, value, write, Json.canonical, bind_eq_ok_iff, require_eq_ok_iff]
  exact ⟨_, optionalField_eq_some_iff.2 ⟨_, hget "ids", hids⟩,
    _, stringField_iff.2 (hget "kind"), _, stringField_iff.2 (hget "workspaceId"),
    _, rfl, _, rfl, _, rfl, rfl⟩

theorem SwitchWorkspace.read_value (r : SwitchWorkspace) (source : Source) :
    Wire.read source (value r) = .ok r := by
  have hget := get?_written (show ([("workspaceId", .str r.workspaceId)].map Prod.fst).Nodup
    by simp)
  simp only [Wire.read, value, write, Json.canonical, bind_eq_ok_iff, require_eq_ok_iff]
  exact ⟨_, stringField_iff.2 (hget "workspaceId"), _, rfl, rfl⟩

/-! ### The round trip -/

namespace Wire

/-- Whatever is decoded is encoded as a value that is decoded to the same, wherever the two are read
from.  Every entity and every workspace in it holds the undeclared fields of the object it is
decoded from, as they are, and is encoded as an object with the same ones. -/
theorem decoded_restored {a : Json} (ha : a.Canonical) (source : Source) :
    (∀ k (e : Entity k), read source a = .ok e → (∀ source', read source' (value e) = .ok e) ∧
        Rest (Entity.declared k) e.extra a ∧ Rest (Entity.declared k) e.extra (value e)) ∧
      (∀ w : Workspace, read source a = .ok w → (∀ source', read source' (value w) = .ok w) ∧
        Rest Workspace.declared w.extra a ∧ Rest Workspace.declared w.extra (value w)) ∧
      (∀ u : ObjectsUpdated, read source a = .ok u → (∀ source', read source' (value u) = .ok u) ∧
        u.Keeps a ∧ u.Keeps (value u)) ∧
      (∀ m : MainMessage, read source a = .ok m → (∀ source', read source' (value m) = .ok m) ∧
        m.Keeps a ∧ m.Keeps (value m)) ∧
      (∀ m : SocketMessage, read source a = .ok m → ∀ source', read source' (value m) = .ok m) ∧
      (∀ r : StoreRequest, read source a = .ok r → ∀ source', read source' (value r) = .ok r) ∧
      ∀ r : SwitchWorkspace, read source a = .ok r → ∀ source', read source' (value r) = .ok r := by
  refine ⟨fun k e h => ?_, fun w h => ?_, fun u h => ?_, fun m h => ?_, fun m _ => m.read_value,
    fun r _ => r.read_value, fun r _ => r.read_value⟩
  · have hrest := Entity.rest_of_read ha h
    exact ⟨Lossless.read_value ha h, hrest, Entity.rest_value hrest ha⟩
  · have hrest := Workspace.rest_of_read ha h
    exact ⟨Lossless.read_value ha h, hrest, Workspace.rest_value hrest ha⟩
  · have hkeeps := ObjectsUpdated.keeps_of_read ha h
    exact ⟨Lossless.read_value ha h, hkeeps, ObjectsUpdated.keeps_value ha hkeeps⟩
  · have hkeeps := MainMessage.keeps_of_read ha h
    exact ⟨Lossless.read_value ha h, hkeeps, MainMessage.keeps_value ha hkeeps⟩

/-- A message as a list, its name and a level of access as objects, with a list for a record, an
optional field that is null and a field that is not declared. -/
def loaded : Json :=
  .arr [.obj [("workspaceLoaded", .null)],
    .obj [("vertices", .arr []),
      ("workspace", .obj [("createdBy", .null), ("title", .str "t"),
        ("users", .arr [.arr [.str "u1", .obj [("read", .null)]]]),
        ("vertices", .arr [.arr [.str "v1"]]), ("workspaceId", .str "w1"), ("zoom", .int 2)])]]

/-- The theorem applies to a message that is written in another form than it was read in. -/
theorem decoded_restored_loaded :
    let w : Workspace := ⟨"w1", "t", none, none, false, [⟨"u1", .read⟩], [⟨"v1", none⟩],
      SortedMap.ofList [("zoom", .int 2)]⟩
    let m : MainMessage := .workspaceLoaded w []
    loaded.Canonical ∧ read .direct loaded = .ok m ∧ value m ≠ loaded ∧
      read .direct (value m) = .ok m ∧ m.Keeps loaded ∧ m.Keeps (value m) := by
  intro w m
  have hform : loaded.canonical = loaded := by decide +kernel
  have hcanonical : loaded.Canonical := hform ▸ Json.canonical_canonical loaded
  have hread : read .direct loaded = .ok m := by decide +kernel
  obtain ⟨-, -, -, hmain, -⟩ := decoded_restored hcanonical .direct
  obtain ⟨hagain, hkeeps⟩ := hmain m hread
  exact ⟨hcanonical, hread, by decide +kernel, hagain .direct, hkeeps⟩

end Wire

end GraphStore
