import GraphStore.Proofs.Store.Canvas
import GraphStore.Proofs.Store.Replica
import GraphStore.Proofs.Worker.Requests

/-!
# No response is lost

A worker with any number of switches under way holds what a plain desk holds that takes in the
responses one after another, as they arrive (`Switchboard.taken_in_as_arrived`).  It does not
matter whether a response makes sense to the switch that waits for it, what the other responses
to that switch are, whether the switch is superseded, or who listens.

* `Requests.commands` : what the desk does.  It takes in every response that arrives, under the
  workspace that was asked about, and sees the same workspace on display; a request that fails
  means nothing to it.
* `Desk.Mirrors` : the desk and the worker hold the same entities and see the same workspace on
  display.  Every event keeps it so (`Desk.Mirrors.perform`).
* `Switchboard.seedings` : the metadata that switches put on the canvas.
* `Switchboard.store_perform` : what an event does to the store.  A response is taken in, and then
  a canvas may be filled; nothing else happens to it.
-/

namespace GraphStore

/-! ### What a store shows -/

namespace Emission

/-- The emission without the announcements: the updates of entities and the departures. -/
def storePart (e : Emission) : Emission :=
  ⟨e.sent.filter fun s => !s.isAnnouncement, e.departures⟩

@[simp] theorem storePart_append (a b : Emission) :
    (a ++ b).storePart = a.storePart ++ b.storePart := by
  ext1 <;> simp [storePart]

theorem storePart_of_announcements {e : Emission} (h : e.announcements = []) : e.storePart = e := by
  have hall : e.sent.filter (fun s => !s.isAnnouncement) = e.sent := by
    rw [List.filter_eq_self]
    intro s hs
    simpa using List.filter_eq_nil_iff.1 h s hs
  rw [storePart, hall]

end Emission

namespace Switch

variable {w : Worker} {c : Switch}

theorem Announced.storePart {r : Worker × Switch × Emission} (h : Announced w c r) :
    r.2.2.storePart = .none := by
  cases h <;> rfl

theorem Ended.storePart {r : Progress × Emission} (h : Ended w c r) : r.2.storePart = .none := by
  cases h <;> rfl

theorem Announced.store {r : Worker × Switch × Emission} (h : Announced w c r) :
    r.1.store = match c.ready? with
      | some (m, _) =>
        if w.focus.isOn m.workspaceId && !w.socketOpen then w.store
        else w.store.setOnGraph m.workspaceId m.vertexIds
      | none => w.store := by
  cases h with
  | idle h =>
    have hnot : c.ready? = none := by
      unfold ready? complete?
      rcases h with h | h | h <;> simp [h]
    rw [hnot]
  | noMetadata h hm hv | noVertices h hm hv => simp [ready?, complete?, h, hm, hv]
  | withheld h hm hv hf => simp [ready?_of_parts h hm hv, hf, seed]
  | closed h hm hv hf hs => simp [ready?_of_parts h hm hv, hf, hs]
  | spoken h hm hv hf hs => simp [ready?_of_parts h hm hv, hs, seed]

theorem arrive_eq (w : Worker) (c : Switch) (endpoint : Endpoint)
    (response : Except WorkerError Json) :
    (arrive w c endpoint response).1 = (w.intake c.target response).1 ∧
      (arrive w c endpoint response).2.2 = (w.intake c.target response).2 := by
  cases endpoint <;> exact ⟨rfl, rfl⟩

/-- A step takes in the response, and then fills the canvas of the workspace that becomes complete,
if one does. -/
theorem store_settle (w : Worker) (c : Switch) (endpoint : Endpoint)
    (response : Except WorkerError Json) :
    (settle w c endpoint response).1.store =
      match (arrive w c endpoint response).2.1.ready? with
      | some (m, _) =>
        if w.focus.isOn m.workspaceId && !w.socketOpen then (w.intake c.target response).1.store
        else (w.intake c.target response).1.store.setOnGraph m.workspaceId m.vertexIds
      | none => (w.intake c.target response).1.store := by
  obtain ⟨w', c', said, p, last, hs, -, heq⟩ := settle_parts w c endpoint response
  have hlines := sameLines_arrive w c endpoint response
  rw [heq, hs.store, hlines.focus, hlines.socketOpen, (arrive_eq w c endpoint response).1]

end Switch

/-! ### Emissions of a run -/

/-- What emissions show together. -/
def Emission.total (es : List Emission) : Emission := es.foldr (· ++ ·) .none

/-- What a switchboard shows while events happen. -/
def Switchboard.shown (b : Switchboard) (es : List Event) : Emission :=
  .total ((b.run es).2.map Prod.snd)

theorem Switchboard.shown_cons (b : Switchboard) (e : Event) (es : List Event) :
    b.shown (e :: es) = (b.perform e).2 ++ (b.perform e).1.shown es := rfl

namespace Desk

/-- What a desk shows while commands are carried out. -/
def shown (d : Desk) (cs : List Command) : Emission := .total ((d.run cs).2.map Prod.snd)

@[simp] theorem shown_nil (d : Desk) : d.shown [] = .none := rfl

theorem shown_cons (d : Desk) (c : Command) (cs : List Command) :
    d.shown (c :: cs) = (d.perform c).2.2 ++ (d.perform c).1.shown cs := rfl

theorem shown_append (d : Desk) (cs ds : List Command) :
    d.shown (cs ++ ds) = d.shown cs ++ (d.reached cs).shown ds := by
  induction cs generalizing d with
  | nil => simp
  | cons c cs ih => rw [List.cons_append, shown_cons, shown_cons, ih, Emission.append_assoc]; rfl

end Desk

/-! ### The plain desk -/

/-- What a desk does about a response: a request that failed brings nothing. -/
def Command.ofResponse (workspaceId : String) : Except WorkerError Json → List Command
  | .ok response => [.absorb workspaceId response]
  | .error _ => []

/-- What an event means to a desk that takes in responses as they arrive. -/
def Requests.commands (q : Requests) : Event → List Command
  | .call target => if q.signedIn then [.setCurrent target] else []
  | .activate workspaceId => [.setCurrent workspaceId]
  | .deactivate => [.clearCurrent]
  | .intercept workspaceId response => [.absorb workspaceId response]
  | .settle number endpoint response =>
    match q.open? number endpoint with
    | some workspaceId => Command.ofResponse workspaceId response
    | none => []
  | .signIn _ | .signOut | .closeUi | .closeSocket => []

/-- What events mean to a desk. -/
def Requests.allCommands (q : Requests) : List Event → List Command
  | [] => []
  | e :: es => q.commands e ++ allCommands (q.next e) es

/-- A desk with the worker's store that sees the same workspace on display. -/
def Worker.desk (w : Worker) : Desk := ⟨w.store, w.focus, none, true⟩

/-- The desk holds the same entities as the worker and sees the same workspace on display. -/
structure Desk.Mirrors (d : Desk) (w : Worker) : Prop where
  /-- They hold the same entities. -/
  caches : w.store.SameCaches d.store
  /-- They see the same workspace on display. -/
  focus : w.focus = d.focus

namespace Desk.Mirrors

variable {d : Desk} {b : Switchboard} {q : Requests} {w : Worker}

/-- Desk and worker take in a response alike. -/
theorem intake (h : d.Mirrors w) (workspaceId : String) (response : Except WorkerError Json) :
    (d.reached (Command.ofResponse workspaceId response)).Mirrors
        (w.intake workspaceId response).1 ∧
      (w.intake workspaceId response).2 = d.shown (Command.ofResponse workspaceId response) := by
  cases response with
  | error e => exact ⟨h, rfl⟩
  | ok a =>
    obtain ⟨hstore, hshown⟩ := h.caches.absorb d.focus workspaceId a
    simp only [Worker.intake, h.focus, Command.ofResponse]
    refine ⟨⟨hstore, rfl⟩, ?_⟩
    rw [shown_cons, shown_nil, Emission.append_none]
    exact congrArg Prod.snd hshown

/-- A step of a switch is to its desk the response that settles. -/
theorem settle (h : d.Mirrors w) (c : Switch) (endpoint : Endpoint)
    (response : Except WorkerError Json) :
    (d.reached (Command.ofResponse c.target response)).Mirrors (c.settle w endpoint response).1 ∧
      (c.settle w endpoint response).2.2.storePart =
        d.shown (Command.ofResponse c.target response) := by
  obtain ⟨w', c', said, p, last, hs, he, heq⟩ := Switch.settle_parts w c endpoint response
  obtain ⟨hworker, hemission⟩ := Switch.arrive_eq w c endpoint response
  obtain ⟨hmirrors, hshown⟩ := h.intake c.target response
  refine ⟨⟨?_, ?_⟩, ?_⟩
  · -- a canvas is none of the caches
    rw [Switch.store_settle]
    split
    · split
      · exact hmirrors.caches
      · exact hmirrors.caches.setOnGraph _ _
    · exact hmirrors.caches
  · rw [← hmirrors.focus, ← hworker, heq]
    exact hs.sameLines.focus
  · rw [heq]
    simp only [Emission.storePart_append, hs.storePart, he.storePart, Emission.append_none]
    rw [hemission, Emission.storePart_of_announcements (w.announcements_intake c.target _), hshown]

/-- An event leaves desk and worker alike, and both show the same of it. -/
theorem perform (h : d.Mirrors b.worker) (hq : q.Tracks b) (e : Event) :
    (d.reached (q.commands e)).Mirrors (b.perform e).1.worker ∧
      (b.perform e).2.storePart = d.shown (q.commands e) := by
  cases e with
  | call r =>
    rw [Switchboard.worker_call, Requests.commands, hq.signedIn]
    split
    · exact ⟨⟨h.caches, congrArg (Focus.set · r) h.focus⟩, rfl⟩
    · exact ⟨h, rfl⟩
  | settle i endpoint response =>
    simp only [Switchboard.perform, Requests.commands]
    split
    next r hopen =>
      obtain ⟨c, hc, -, ha, rfl⟩ := Switchboard.awaits_of_open hq hopen
      rw [Switchboard.settle_of_awaits hc ha]
      exact h.settle c endpoint response
    next hopen =>
      rw [Switchboard.settle_of_closed hq hopen]
      exact ⟨h, rfl⟩
  | intercept r a =>
    obtain ⟨hmirrors, hshown⟩ := h.intake r (.ok a)
    have hstore := Emission.storePart_of_announcements (b.worker.announcements_intake r (.ok a))
    exact ⟨hmirrors, hstore.trans hshown⟩
  | activate r => exact ⟨⟨h.caches, congrArg (Focus.set · r) h.focus⟩, rfl⟩
  | deactivate => exact ⟨⟨h.caches, congrArg Focus.clear h.focus⟩, rfl⟩
  | signIn | signOut | closeUi | closeSocket => exact ⟨⟨h.caches, h.focus⟩, rfl⟩

theorem after (h : d.Mirrors b.worker) (hq : q.Tracks b) (es : List Event) :
    (d.reached (q.allCommands es)).Mirrors (b.after es).worker ∧
      (b.shown es).storePart = d.shown (q.allCommands es) := by
  induction es generalizing d b q with
  | nil => exact ⟨h, rfl⟩
  | cons e es ih =>
    obtain ⟨hmirrors, hshown⟩ := h.perform hq e
    obtain ⟨hmirrors', hshown'⟩ := ih hmirrors (hq.next e)
    rw [Requests.allCommands, reached_append, shown_append, Switchboard.shown_cons,
      Emission.storePart_append, hshown, hshown']
    exact ⟨hmirrors', rfl⟩

end Desk.Mirrors

/-! ### The canvas -/

/-- The metadata among these that are the last ones for a workspace. -/
def lastFor (workspaceId : String) (ms : List Workspace) : Option Workspace :=
  ms.reverse.find? fun m => m.workspaceId == workspaceId

namespace Switchboard

/-- The metadata that a switch puts on the canvas because of an event: the ones that it has with
its vertices now, unless they are to be announced and the socket is closed. -/
def seeding? (b : Switchboard) (q : Requests) (e : Event) : Option Workspace :=
  match q.completed? e with
  | some (m, _) =>
    if b.worker.focus.isOn m.workspaceId && !b.worker.socketOpen then none else some m
  | none => none

/-- The metadata that switches put on the canvas, in order. -/
def seedings (b : Switchboard) (q : Requests) : List Event → List Workspace
  | [] => []
  | e :: es => (b.seeding? q e).toList ++ seedings (b.perform e).1 (q.next e) es

variable {b : Switchboard} {q : Requests}

theorem store_ofResponse (w : Worker) (r : String) (response : Except WorkerError Json) :
    (w.desk.reached (Command.ofResponse r response)).store = (w.intake r response).1.store := by
  cases response <;> rfl

/-- An event leaves the store as the plain desk has it, unless a switch puts metadata on the canvas
because of it. -/
theorem store_perform (hq : q.Tracks b) (e : Event) :
    (b.perform e).1.worker.store =
      (b.seeding? q e).elim (b.worker.desk.reached (q.commands e)).store fun m =>
        (b.worker.desk.reached (q.commands e)).store.setOnGraph m.workspaceId m.vertexIds := by
  cases e with
  | settle i endpoint response =>
    simp only [perform, Requests.commands]
    cases hopen : q.open? i endpoint with
    -- nobody waits for this response
    | none =>
      have hnone : q.completed? (.settle i endpoint response) = none := by
        simp only [Requests.completed?, Event.number?, Requests.next, hopen]
        cases q.complete? i <;> simp
      rw [settle_of_closed hq hopen, seeding?, hnone]
      rfl
    | some r =>
      obtain ⟨c, hc, hserves, ha, rfl⟩ := awaits_of_open hq hopen
      rw [settle_of_awaits hc ha, seeding?, hserves.completed? ha b.worker response]
      change (c.settle b.worker endpoint response).1.store = _
      rw [Switch.store_settle, store_ofResponse]
      split
      · split <;> rfl
      · rfl
  | call r =>
    rw [worker_call, Requests.commands, hq.signedIn]
    split <;> rfl
  | intercept | activate | deactivate | signIn | signOut | closeUi | closeSocket => rfl

/-- The plain desk leaves every canvas as it is. -/
theorem onGraph_commands (d : Desk) (q : Requests) (e : Event) (r : String) :
    ((d.reached (q.commands e)).store.partition r).onGraph = (d.store.partition r).onGraph := by
  cases e with
  | settle i endpoint response =>
    simp only [Requests.commands]
    cases q.open? i endpoint with
    | none => rfl
    | some t =>
      cases response with
      | error => rfl
      | ok a => exact d.store.onGraph_absorb d.focus a
  | call t =>
    simp only [Requests.commands]
    split <;> rfl
  | intercept t a => exact d.store.onGraph_absorb d.focus a
  | activate | deactivate | signIn | signOut | closeUi | closeSocket => rfl

/-- The canvases change only by the metadata that are put there. -/
theorem onGraph_perform (hq : q.Tracks b) (e : Event) (r : String) :
    ((b.perform e).1.worker.store.partition r).onGraph =
      ((b.seeding? q e).filter fun m => m.workspaceId == r).elim
        (b.worker.store.partition r).onGraph fun m => .ofNames m.vertexIds := by
  have hdesk := onGraph_commands b.worker.desk q e r
  rw [store_perform hq]
  cases b.seeding? q e with
  | none => exact hdesk
  | some m =>
    rw [Option.elim_some, Store.onGraph_setOnGraph, hdesk]
    by_cases hr : m.workspaceId = r <;> simp [Option.filter, hr, Worker.desk]

theorem onGraph_after (hq : q.Tracks b) (es : List Event) (r : String) :
    ((b.after es).worker.store.partition r).onGraph =
      (lastFor r (b.seedings q es)).elim (b.worker.store.partition r).onGraph
        fun m => .ofNames m.vertexIds := by
  induction es generalizing b q with
  | nil => rfl
  | cons e es ih =>
    have hafter : b.after (e :: es) = (b.perform e).1.after es := rfl
    have hlast : lastFor r (b.seedings q (e :: es)) =
        (lastFor r ((b.perform e).1.seedings (q.next e) es)).or
          ((b.seeding? q e).filter fun m => m.workspaceId == r) := by
      rw [seedings, lastFor, List.reverse_append, List.find?_append]
      cases b.seeding? q e with
      | none => rfl
      | some m => cases hm : m.workspaceId == r <;> simp [hm, lastFor, Option.filter]
    rw [hafter, ih (hq.next e), onGraph_perform hq e, hlast]
    cases lastFor r ((b.perform e).1.seedings (q.next e) es) <;> rfl

/-- **No response is lost.**  Whatever switches do and in whatever order responses arrive, the
worker holds the entities that a plain desk holds which takes in the responses as they arrive, and
the updates and departures that it shows are the desk's.  The vertices on the canvas of a workspace
are the ones in the metadata that were put there last. -/
theorem taken_in_as_arrived (w : Worker) (es : List Event) :
    let b := after ⟨w, []⟩ es
    let commands := (Requests.start w).allCommands es
    (∀ r k, (b.worker.store.partition r).cache k =
        ((w.desk.reached commands).store.partition r).cache k) ∧
      (shown ⟨w, []⟩ es).storePart = w.desk.shown commands ∧
      ∀ r v, b.worker.store.isOnGraph r v =
        (lastFor r (seedings ⟨w, []⟩ (Requests.start w) es)).elim (w.store.isOnGraph r v)
          fun m => m.vertexIds.contains v := by
  intro b commands
  have hq : (Requests.start w).Tracks ⟨w, []⟩ := Requests.tracks w []
  have hmirrors : w.desk.Mirrors w := ⟨.refl w.store, rfl⟩
  obtain ⟨hafter, hshown⟩ := Desk.Mirrors.after (b := ⟨w, []⟩) hmirrors hq es
  refine ⟨hafter.caches.cache, hshown, fun r v => ?_⟩
  rw [Store.isOnGraph_eq, onGraph_after hq es r, Store.isOnGraph_eq]
  cases lastFor r (seedings ⟨w, []⟩ (Requests.start w) es) with
  | none => rfl
  | some m => exact NameSet.contains_ofNames m.vertexIds v

end Switchboard

end GraphStore
