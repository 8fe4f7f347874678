import GraphStore.Graph.Workspace
import GraphStore.Proofs.Graph.Description

/-!
# Entities and workspaces that are sent on

An entity or a workspace is written with all the fields that it was read from, declared or not, and
so it is read again from what is written.  What is decoded need not be what was sent: a record may
be sent as a list, a name as an object, an optional field as null, and it is written in one form
only.

* `Entity.rest_of_read`, `Workspace.rest_of_read` : undeclared fields are held as they were sent.
* `Entity.read_value`, and the instances of `Wire.Lossless` : what was decoded is decoded again.
-/

namespace GraphStore

open Wire

/-! ### Entities -/

namespace Entity

variable {k : Kind} {e : Entity k} {a : Json} {source : Source}

/-- The entity holds the undeclared fields of the object it is decoded from. -/
theorem rest_of_read (ha : a.Canonical) (h : read k source a = .ok e) :
    Rest (declared k) e.extra a := by
  obtain ⟨fields, rfl⟩ := fields_of_read h
  cases k with
  | vertex =>
    obtain ⟨_, _, _, -, -, -, rfl⟩ := read_vertex_iff.1 h
    exact .of_sorted ha.1
  | edge =>
    obtain ⟨_, _, _, _, _, -, -, -, -, -, -, rfl⟩ := read_edge_iff.1 h
    exact .of_sorted ha.1

theorem rest_value (h : Rest (declared k) e.extra a) (ha : a.Canonical) :
    Rest (declared k) e.extra (value e) :=
  h.written ha e.nodup_declaredFields fun f hf => by
    rw [← names_declaredFields e]
    exact List.mem_map_of_mem hf

/-- An entity that was decoded is decoded again from what is written for it. -/
theorem read_value (ha : a.Canonical) (h : read k source a = .ok e) (source' : Source) :
    read k source' (value e) = .ok e := by
  have hrest := rest_of_read ha h
  have hvalue : value e = .obj (written (e.declaredFields ++ e.extra.entries)) := rfl
  have hundeclared : undeclared k (written (e.declaredFields ++ e.extra.entries)) = e.extra :=
    (rest_value hrest ha).eq (SortedMap.sorted _)
  have hget (name : String) (hname : name ∈ declared k) :
      Assoc.get? name (written (e.declaredFields ++ e.extra.entries)) =
        (Assoc.get? name e.declaredFields).map Json.canonical :=
    hrest.get?_written e.nodup_declaredFields hname
  obtain ⟨fields, rfl⟩ := fields_of_read h
  rw [hvalue]
  cases k with
  | vertex =>
    obtain ⟨id, status, items, -, -, hitems, he⟩ := read_vertex_iff.1 h
    have hcanonical : (Json.arr items).canonical = .arr items := (ha.of_get? hitems).canonical_eq
    refine read_vertex_iff.2 ⟨id, status, items, ?_, ?_, ?_, by rw [hundeclared, he]⟩
    · rw [hget "id" (by decide), he]
      rfl
    · rw [hget "sandboxStatus" (by decide), he]
      simp [declaredFields, Assoc.get?, SandboxStatus.text_ofText, Json.canonical]
    · rw [hget "properties" (by decide), he]
      simp [declaredFields, Assoc.get?, Property.raw_comp_mk, hcanonical]
  | edge =>
    obtain ⟨id, label, tail, head, type, -, -, -, -, -, -, he⟩ := read_edge_iff.1 h
    have hdeclared (name : String) : Assoc.get? name e.declaredFields = Assoc.get? name
        [("id", .str id), ("label", .str label), ("source", .str tail), ("target", .str head),
          ("type", .str "edge")] := by rw [he]; rfl
    simp only [hdeclared] at hget
    exact read_edge_iff.2 ⟨id, label, tail, head, .str "edge", hget "id" (by decide),
      hget "label" (by decide), hget "source" (by decide), hget "target" (by decide),
      hget "type" (by decide), rfl, by rw [hundeclared, he]⟩

instance : Lossless (Entity k) := ⟨read_value⟩

end Entity

/-! ### Workspaces -/

theorem WorkspaceAccess.get?_text (access : WorkspaceAccess) :
    Assoc.get? access.text names = some access := by
  cases access <;> rfl

theorem WorkspaceUser.read_value (u : WorkspaceUser) (source : Source) :
    Wire.read source (value u) = .ok u := by
  have hget := get?_written (show ([("userId", .str u.userId), ("access", .str u.access.text)].map
    Prod.fst).Nodup by simp)
  have haccess : readName WorkspaceAccess.names source (.str u.access.text) = .ok u.access :=
    readName_str u.access.get?_text source
  simp only [Wire.read, value, write, Json.canonical, bind_eq_ok_iff, require_eq_ok_iff]
  exact ⟨_, optionalField_eq_some_iff.2 ⟨_, hget "access", haccess⟩,
    _, stringField_iff.2 (hget "userId"), _, rfl, _, rfl, rfl⟩

instance : Lossless WorkspaceUser := ⟨fun {_ _ u} _ _ => u.read_value⟩

namespace GraphPosition

variable {p : GraphPosition} {a : Json} {source : Source}

theorem fits_of_read (h : read source a = .ok p) :
    fitsSigned p.x = true ∧ fitsSigned p.y = true := by
  cases a with
  | obj fields =>
    simp only [Wire.read, bind_eq_ok_iff, require_eq_ok_iff] at h
    obtain ⟨_, hx, _, hy, x, rfl, y, rfl, hp⟩ := h
    cases hp
    obtain ⟨_, -, hx⟩ := optionalField_eq_some_iff.1 hx
    obtain ⟨_, -, hy⟩ := optionalField_eq_some_iff.1 hy
    exact ⟨(readInteger_eq_ok_iff.1 hx).2, (readInteger_eq_ok_iff.1 hy).2⟩
  | arr items =>
    simp only [Wire.read, bind_eq_ok_iff, tooShort, element_eq_ok_iff] at h
    obtain ⟨x, ⟨_, -, hx⟩, y, ⟨_, -, hy⟩, _, -, hp⟩ := h
    cases hp
    exact ⟨(readInteger_eq_ok_iff.1 hx).2, (readInteger_eq_ok_iff.1 hy).2⟩
  | _ => cases h

theorem read_value (hx : fitsSigned p.x = true) (hy : fitsSigned p.y = true) :
    Wire.read source (value p) = .ok p := by
  have hget := get?_written (show ([("x", .int p.x), ("y", .int p.y)].map Prod.fst).Nodup by simp)
  have hx : readInteger .i64 (.int p.x) = .ok p.x := readInteger_eq_ok_iff.2 ⟨rfl, hx⟩
  have hy : readInteger .i64 (.int p.y) = .ok p.y := readInteger_eq_ok_iff.2 ⟨rfl, hy⟩
  simp only [Wire.read, value, write, Json.canonical, bind_eq_ok_iff, require_eq_ok_iff]
  exact ⟨_, optionalField_eq_some_iff.2 ⟨_, hget "x", hx⟩,
    _, optionalField_eq_some_iff.2 ⟨_, hget "y", hy⟩, _, rfl, _, rfl, rfl⟩

theorem read_null : read source .null ≠ .ok p := nofun

instance : Lossless GraphPosition :=
  ⟨fun _ h _ => read_value (fits_of_read h).1 (fits_of_read h).2⟩

end GraphPosition

namespace WorkspaceVertex

variable {v : WorkspaceVertex} {a : Json} {source : Source}

theorem readPart_of_read (h : read source a = .ok v) :
    readPart (read source) (part "graphPosition" 1 a) = .ok v.graphPosition := by
  cases a with
  | obj fields =>
    simp only [Wire.read, bind_eq_ok_iff, require_eq_ok_iff] at h
    obtain ⟨_, hposition, _, -, _, -, hv⟩ := h
    cases hv
    exact readPart_of_optionalField hposition
  | arr items =>
    simp only [Wire.read, bind_eq_ok_iff, element_nullable] at h
    obtain ⟨_, -, _, hposition, _, -, hv⟩ := h
    cases hv
    exact hposition
  | _ => cases h

theorem read_value
    (h : ∀ p, v.graphPosition = some p → Wire.read source (value p) = .ok p) :
    Wire.read source (value v) = .ok v := by
  have hnodup : ((("vertexId", .str v.vertexId) ::
      writeOptional "graphPosition" write v.graphPosition).map Prod.fst).Nodup := by
    cases v.graphPosition <;> simp [writeOptional]
  have hget := get?_written hnodup
  have hposition : Assoc.get? "graphPosition" (written (("vertexId", .str v.vertexId) ::
      writeOptional "graphPosition" write v.graphPosition)) = v.graphPosition.map value := by
    rw [hget]
    cases v.graphPosition <;> rfl
  obtain ⟨position, hread, hjoin⟩ := optionalField_written hposition h
    fun _ => GraphPosition.read_null
  simp only [Wire.read, value, write, Json.canonical, bind_eq_ok_iff, require_eq_ok_iff]
  exact ⟨_, hread, _, stringField_iff.2 (hget "vertexId"), _, rfl, by rw [hjoin]; rfl⟩

instance : Lossless WorkspaceVertex where
  read_value ha h source' := read_value fun p hp => by
    have hpart := readPart_of_read h
    rw [hp] at hpart
    obtain ⟨b, hb, hread⟩ := read_of_readPart hpart
    exact Lossless.read_value (canonical_of_part ha hb) hread source'

end WorkspaceVertex

namespace Workspace

variable {w : Workspace} {a : Json} {fields : List (String × Json)} {source : Source}

theorem fields_of_read (h : Wire.read source a = .ok w) : ∃ fields, a = .obj fields := by
  cases a <;> first | exact ⟨_, rfl⟩ | cases h

theorem items_of_read (h : Wire.read source (.obj fields) = .ok w) :
    List.Forall₂ (fun a u => Wire.read source a = .ok u) (itemsOf (Assoc.get? "users" fields))
        w.users ∧
      List.Forall₂ (fun a v => Wire.read source a = .ok v) (itemsOf (Assoc.get? "vertices" fields))
        w.vertices := by
  simp only [Wire.read, bind_eq_ok_iff, require_eq_ok_iff] at h
  obtain ⟨_, -, _, -, _, -, _, -, _, husers, _, hvertices, _, -, _, -, _, -, hw⟩ := h
  cases hw
  exact ⟨forall₂_of_optionalField husers, forall₂_of_optionalField hvertices⟩

theorem rest_of_read (ha : a.Canonical) (h : Wire.read source a = .ok w) :
    Rest declared w.extra a := by
  obtain ⟨fields, rfl⟩ := fields_of_read h
  simp only [Wire.read, bind_eq_ok_iff, require_eq_ok_iff] at h
  obtain ⟨_, -, _, -, _, -, _, -, _, -, _, -, _, -, _, -, _, -, hw⟩ := h
  cases hw
  exact .of_sorted ha.1

theorem sublist_declaredFields (w : Workspace) :
    (w.declaredFields.map Prod.fst).Sublist declared := by
  obtain ⟨_, _, createdBy, isSharedToUser, _, _, _, _⟩ := w
  cases createdBy <;> cases isSharedToUser <;> simp [declaredFields, writeOptional, declared]

theorem nodup_declaredFields (w : Workspace) : (w.declaredFields.map Prod.fst).Nodup :=
  w.sublist_declaredFields.nodup (by decide)

theorem rest_value (h : Rest declared w.extra a) (ha : a.Canonical) :
    Rest declared w.extra (value w) :=
  h.written ha w.nodup_declaredFields fun _ hf =>
    w.sublist_declaredFields.subset (List.mem_map_of_mem hf)

theorem get?_declaredFields (w : Workspace) :
    Assoc.get? "createdBy" w.declaredFields = w.createdBy.map .str ∧
      Assoc.get? "isEditable" w.declaredFields = some (.bool w.isEditable) ∧
      Assoc.get? "isSharedToUser" w.declaredFields = w.isSharedToUser.map .bool ∧
      Assoc.get? "title" w.declaredFields = some (.str w.title) ∧
      Assoc.get? "users" w.declaredFields = some (.arr (w.users.map write)) ∧
      Assoc.get? "vertices" w.declaredFields = some (.arr (w.vertices.map write)) ∧
      Assoc.get? "workspaceId" w.declaredFields = some (.str w.workspaceId) := by
  obtain ⟨_, _, createdBy, isSharedToUser, _, _, _, _⟩ := w
  cases createdBy <;> cases isSharedToUser <;>
    exact ⟨rfl, rfl, rfl, rfl, rfl, rfl, rfl⟩

instance : Lossless Workspace where
  read_value {source a w} ha h source' := by
    have hrest := rest_of_read ha h
    obtain ⟨fields, rfl⟩ := fields_of_read h
    obtain ⟨husers, hvertices⟩ := items_of_read h
    have hitems (name : String) : ∀ b ∈ itemsOf (Assoc.get? name fields), b.Canonical :=
      canonical_of_mem_itemsOf fun _ => ha.of_get?
    have hundeclared := (rest_value hrest ha).eq (SortedMap.sorted _)
    have hget (name : String) (hname : name ∈ declared) :
        Assoc.get? name (written (w.declaredFields ++ w.extra.entries)) =
          (Assoc.get? name w.declaredFields).map Json.canonical :=
      hrest.get?_written w.nodup_declaredFields hname
    -- a field that is always written
    have hfield {α : Type} {name : String} {b : Json} {x : α} {read : Json → Decoded α}
        (hname : name ∈ declared) (hb : Assoc.get? name w.declaredFields = some b)
        (hread : read b.canonical = .ok x) :
        optionalField (written (w.declaredFields ++ w.extra.entries)) name read = .ok (some x) :=
      optionalField_eq_some_iff.2 ⟨_, (hget name hname).trans (congrArg _ hb), hread⟩
    obtain ⟨hcreatedBy, heditable, hshared, htitle, husers', hvertices', hid⟩ :=
      w.get?_declaredFields
    obtain ⟨createdBy, hcreatedBy, hcreated⟩ := optionalField_written
      ((hget "createdBy" (by decide)).trans (by rw [hcreatedBy, Option.map_map]; rfl))
      (fun s _ => readString_eq_ok_iff.2 rfl) nofun
    obtain ⟨isShared, hisShared, hshared⟩ := optionalField_written
      ((hget "isSharedToUser" (by decide)).trans (by rw [hshared, Option.map_map]; rfl))
      (fun b _ => show readBool (.bool b) = .ok b from rfl) nofun
    simp only [Wire.read, value, write, Json.canonical, bind_eq_ok_iff, require_eq_ok_iff]
    refine ⟨_, hcreatedBy, _, hfield (by decide) heditable rfl, _, hisShared,
      _, hfield (by decide) htitle rfl,
      _, hfield (by decide) husers' (readList_values (hitems _) husers source'),
      _, hfield (by decide) hvertices' (readList_values (hitems _) hvertices source'),
      _, hfield (by decide) hid rfl, _, rfl, _, rfl, ?_⟩
    rw [hcreated, hshared]
    exact congrArg Except.ok (congrArg (fun extra => { w with extra }) hundeclared)

end Workspace

end GraphStore
