import GraphStore.Worker.Switch

/-!
# One step of a switch

A response to a switch settles in three parts: it arrives (`Switch.arrive`), the workspace is
announced once metadata and vertices are there (`Switch.announceWhenReady`), and the switch ends
once the edges are there too (`Switch.endWhenReady`).  For each part this file says everything
that it can do.

* `Worker.SameLines` : who is signed in, what is on display and who listens are the same.  No
  part of a step changes them (`Switch.sameLines_settle`).
* `Emission.announcements` : what is sent apart from updates of entities.  A store sends updates
  only (`Store.announcements_absorb`), so the announcements of a step are its switch's own.
* `Switch.announceWhenReady_cases` and `Switch.endWhenReady_cases` : the ways in which the second
  and the third part go.
-/

namespace GraphStore

/-! ### Announcements -/

/-- The signal is more than an update of entities. -/
def Signal.isAnnouncement : Signal → Bool
  | .ui (.storeObjectsUpdated _) => false
  | _ => true

/-- What is sent apart from updates of entities. -/
def Emission.announcements (e : Emission) : List Signal := e.sent.filter Signal.isAnnouncement

@[simp] theorem Emission.announcements_none : Emission.none.announcements = [] := rfl

@[simp] theorem Emission.announcements_append (a b : Emission) :
    (a ++ b).announcements = a.announcements ++ b.announcements := by
  simp [announcements]

namespace Store

theorem announcements_cacheBatch (s : Store) (focus : Focus) (w : String) (k : Kind)
    (batch : List (Entity k)) : (s.cacheBatch focus w k batch).2.2.announcements = [] := by
  simp only [cacheBatch, Emission.announcements, Focus.publish]
  split <;> simp [Signal.isAnnouncement]

theorem announcements_cacheBatches (s : Store) (focus : Focus) (w : String) (k : Kind)
    (batches : List (List (Entity k))) :
    (s.cacheBatches focus w k batches).2.2.announcements = [] := by
  induction batches generalizing s with
  | nil => rfl
  | cons batch rest ih => simp [cacheBatches, announcements_cacheBatch, ih]

/-- A store announces nothing because of a response. -/
theorem announcements_absorb (s : Store) (focus : Focus) (w : String) (response : Json) :
    (s.absorb focus w response).2.2.announcements = [] := by
  simp [absorb, announcements_cacheBatches]

end Store

/-! ### What stays -/

/-- The workers differ in their stores at most. -/
structure Worker.SameLines (v w : Worker) : Prop where
  /-- The same user is signed in. -/
  user : v.user = w.user
  /-- The same workspace is on display. -/
  focus : v.focus = w.focus
  /-- The user interface listens to both or none. -/
  uiOpen : v.uiOpen = w.uiOpen
  /-- The socket listens to both or none. -/
  socketOpen : v.socketOpen = w.socketOpen

namespace Worker.SameLines

@[refl] theorem refl (w : Worker) : w.SameLines w := ⟨rfl, rfl, rfl, rfl⟩

theorem trans {u v w : Worker} (h : u.SameLines v) (h' : v.SameLines w) : u.SameLines w :=
  ⟨h.user.trans h'.user, h.focus.trans h'.focus, h.uiOpen.trans h'.uiOpen,
    h.socketOpen.trans h'.socketOpen⟩

end Worker.SameLines

theorem Worker.sameLines_intake (w : Worker) (workspaceId : String)
    (response : Except WorkerError Json) : (w.intake workspaceId response).1.SameLines w := by
  cases response <;> exact ⟨rfl, rfl, rfl, rfl⟩

theorem Worker.announcements_intake (w : Worker) (workspaceId : String)
    (response : Except WorkerError Json) :
    (w.intake workspaceId response).2.announcements = [] := by
  cases response with
  | error e => rfl
  | ok a => exact Store.announcements_absorb _ _ _ _

namespace Switch

variable (w : Worker) (c : Switch)

/-! ### The arrival of a response -/

theorem sameLines_arrive (endpoint : Endpoint) (response : Except WorkerError Json) :
    (arrive w c endpoint response).1.SameLines w := by
  cases endpoint <;> exact w.sameLines_intake c.target response

theorem announcements_arrive (endpoint : Endpoint) (response : Except WorkerError Json) :
    (arrive w c endpoint response).2.2.announcements = [] := by
  cases endpoint <;> exact w.announcements_intake c.target response

/-- An arrival adds a part to the switch and leaves everything else of it as it is. -/
theorem target_arrive (endpoint : Endpoint) (response : Except WorkerError Json) :
    (arrive w c endpoint response).2.1.target = c.target := by cases endpoint <;> rfl

theorem announcement_arrive (endpoint : Endpoint) (response : Except WorkerError Json) :
    (arrive w c endpoint response).2.1.announcement = c.announcement := by cases endpoint <;> rfl

/-! ### The announcement -/

/-- The words by which a workspace is announced: first to the server, then to the user
interface. -/
def opening (workspace : Workspace) (user : String) (vertices : List Vertex) : List Signal :=
  [.server (.setActiveWorkspace workspace.workspaceId user),
    .ui (.workspaceLoaded workspace vertices)]

/-- The ways in which a switch can go on once metadata and vertices are there: nothing happens, or
the announcement fails with what is missing, is withheld because another workspace is on display,
fails because the socket is closed, or is made. -/
inductive Announced (w : Worker) (c : Switch) : Worker × Switch × Emission → Prop
  /-- Something has not settled yet, or the announcement has been dealt with before. -/
  | idle (h : c.announcement.isSome ∨ c.metadata = none ∨ c.vertices = none) :
    Announced w c (w, c, .none)
  /-- The metadata are missing. -/
  | noMetadata {e v} (h : c.announcement = none) (hm : c.metadata = some (.error e))
    (hv : c.vertices = some v) :
    Announced w c (w, { c with announcement := some (.error e) }, .none)
  /-- The vertices are missing. -/
  | noVertices {m e} (h : c.announcement = none) (hm : c.metadata = some (.ok m))
    (hv : c.vertices = some (.error e)) :
    Announced w c (w, { c with announcement := some (.error e) }, .none)
  /-- Another workspace is on display. -/
  | withheld {m v} (h : c.announcement = none) (hm : c.metadata = some (.ok m))
    (hv : c.vertices = some (.ok v)) (hf : w.focus.isOn m.workspaceId = false) :
    Announced w c (seed w m, { c with announcement := some (.ok .withheld) }, .none)
  /-- The socket is closed. -/
  | closed {m v} (h : c.announcement = none) (hm : c.metadata = some (.ok m))
    (hv : c.vertices = some (.ok v)) (hf : w.focus.isOn m.workspaceId = true)
    (hs : w.socketOpen = false) :
    Announced w c (w, { c with announcement := some (.error (.channelClosed .socket)) }, .none)
  /-- The workspace is announced. -/
  | spoken {m v} (h : c.announcement = none) (hm : c.metadata = some (.ok m))
    (hv : c.vertices = some (.ok v)) (hf : w.focus.isOn m.workspaceId = true)
    (hs : w.socketOpen = true) :
    Announced w c (seed w m, { c with announcement := some (.ok (.spoken m v.length)) },
      ⟨opening m c.user v, []⟩)

theorem announceWhenReady_cases : Announced w c (announceWhenReady w c) := by
  unfold announceWhenReady
  split
  next metadata vertices ha hm hv =>
    split
    next e v => exact .noMetadata ha hm hv
    next m e => exact .noVertices ha hm hv
    next m v =>
      simp only [announce]
      split
      next hf => exact .withheld ha hm hv (by simpa using hf)
      next hf =>
        split
        next hs => exact .closed ha hm hv (by simpa using hf) (by simpa using hs)
        next hs => exact .spoken ha hm hv (by simpa using hf) (by simpa using hs)
  next hnot =>
    refine .idle ?_
    cases ha : c.announcement with
    | some a => exact .inl rfl
    | none =>
      cases hm : c.metadata with
      | none => exact .inr (.inl rfl)
      | some m =>
        cases hv : c.vertices with
        | none => exact .inr (.inr rfl)
        | some v => exact absurd hv (hnot m v ha hm)

theorem Announced.sameLines {w : Worker} {c : Switch} {r : Worker × Switch × Emission}
    (h : Announced w c r) : r.1.SameLines w := by
  cases h <;> exact ⟨rfl, rfl, rfl, rfl⟩

theorem Announced.target {w : Worker} {c : Switch} {r : Worker × Switch × Emission}
    (h : Announced w c r) : r.2.1.target = c.target := by
  cases h <;> rfl

theorem Announced.metadata {w : Worker} {c : Switch} {r : Worker × Switch × Emission}
    (h : Announced w c r) : r.2.1.metadata = c.metadata := by
  cases h <;> rfl

theorem Announced.vertices {w : Worker} {c : Switch} {r : Worker × Switch × Emission}
    (h : Announced w c r) : r.2.1.vertices = c.vertices := by
  cases h <;> rfl

theorem Announced.edges {w : Worker} {c : Switch} {r : Worker × Switch × Emission}
    (h : Announced w c r) : r.2.1.edges = c.edges := by
  cases h <;> rfl

/-! ### The end -/

/-- The ways in which a switch can go on once everything is there: it waits on, or ends with what
is missing, as superseded, or with its edges announced. -/
inductive Ended (w : Worker) (c : Switch) : Progress × Emission → Prop
  /-- Something has not settled yet. -/
  | waiting (h : c.announcement = none ∨ c.edges = none) : Ended w c (.pending c, .none)
  /-- The announcement failed. -/
  | failed {e x} (ha : c.announcement = some (.error e)) (he : c.edges = some x) :
    Ended w c (.ended (.error e), .none)
  /-- The edges are missing. -/
  | noEdges {a e} (ha : c.announcement = some (.ok a)) (he : c.edges = some (.error e)) :
    Ended w c (.ended (.error e), .none)
  /-- The announcement was withheld. -/
  | withheld {x} (ha : c.announcement = some (.ok .withheld)) (he : c.edges = some (.ok x)) :
    Ended w c (.ended (.ok (.superseded c.target)), .none)
  /-- The workspace was announced, but another one is on display now. -/
  | overtaken {m n x} (ha : c.announcement = some (.ok (.spoken m n)))
    (he : c.edges = some (.ok x)) (hf : w.focus.isOn c.target = false) :
    Ended w c (.ended (.ok (.superseded c.target)), .none)
  /-- The edges are announced. -/
  | loaded {m n x} (ha : c.announcement = some (.ok (.spoken m n)))
    (he : c.edges = some (.ok x)) (hf : w.focus.isOn c.target = true) :
    Ended w c (.ended (.ok (.loaded m n x.length)), .ofMessages [.edgesLoaded x])

theorem endWhenReady_cases : Ended w c (endWhenReady w c) := by
  unfold endWhenReady
  split
  next announcement edges ha he =>
    cases announcement with
    | error e => exact .failed ha he
    | ok a =>
      cases edges with
      | error e => cases a <;> exact .noEdges ha he
      | ok x =>
        cases a with
        | withheld => exact .withheld ha he
        | spoken m n =>
          simp only [conclude]
          split
          next hf => exact .loaded ha he hf
          next hf => exact .overtaken ha he (by simpa using hf)
  next hnot =>
    refine .waiting ?_
    cases ha : c.announcement with
    | none => exact .inl rfl
    | some a =>
      cases he : c.edges with
      | none => exact .inr rfl
      | some x => exact absurd he (hnot a x ha)

/-! ### A whole step -/

/-- A step is an arrival, then what comes of the announcement, then what comes of the end. -/
theorem settle_parts (endpoint : Endpoint) (response : Except WorkerError Json) :
    ∃ w' c' said p last,
      Announced (arrive w c endpoint response).1 (arrive w c endpoint response).2.1 (w', c', said) ∧
      Ended w' c' (p, last) ∧
      settle w c endpoint response =
        (w', p, (arrive w c endpoint response).2.2 ++ said ++ last) :=
  ⟨_, _, _, _, _, announceWhenReady_cases _ _, endWhenReady_cases _ _, rfl⟩

theorem target_settle {w : Worker} {c c' : Switch} {endpoint : Endpoint}
    {response : Except WorkerError Json} (h : (settle w c endpoint response).2.1 = .pending c') :
    c'.target = c.target := by
  obtain ⟨w₂, c₂, said, p, last, hs, he, heq⟩ := settle_parts w c endpoint response
  rw [heq] at h
  subst h
  cases he
  exact hs.target.trans (target_arrive w c endpoint response)

/-- A step changes the store at most. -/
theorem sameLines_settle (endpoint : Endpoint) (response : Except WorkerError Json) :
    (settle w c endpoint response).1.SameLines w :=
  (announceWhenReady_cases _ _).sameLines.trans (sameLines_arrive w c endpoint response)

end Switch

end GraphStore
