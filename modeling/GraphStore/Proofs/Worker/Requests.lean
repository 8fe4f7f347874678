import GraphStore.Proofs.Worker.Chronicle

/-!
# What the server was asked and what it answered

`Requests` is the server's side of a run: the workspace that each switch asks about, and the
answers that have come.  A switch asks all three endpoints when it is called for, if somebody is
signed in, and every request is answered once.  Nothing here depends on how far a switch has come.

* `Requests.open?` : the requests that are not answered yet.
* `Requests.completed?` : an answer after which a switch has metadata and vertices.
* `Requests.tracks` : the worker keeps up with its server.  A switch under way has what was
  answered to it (`Requests.Serves`), and no switch ends before all its requests are answered.
-/

namespace GraphStore

/-- The meaning of a response to a caller who decodes it. -/
def decoded {α : Type} (decode : Json → Decoded α) (response : Except WorkerError Json) :
    Except WorkerError α :=
  response.bind fun a => ofDecoded (decode a)

/-- What the server was asked about switches, and what it answered. -/
structure Requests where
  /-- Somebody is signed in. -/
  signedIn : Bool
  /-- For every switch called for the workspace it asks about, if it asks at all. -/
  asked : List (Option String)
  /-- The answers that have come, by the number of the switch. -/
  answers : Nat → Endpoint → Option (Except WorkerError Json)

namespace Requests

/-- Nothing was asked yet. -/
def start (w : Worker) : Requests := ⟨w.user.isSome, [], fun _ _ => none⟩

/-- The workspace that an endpoint was asked about, as long as there is no answer. -/
def open? (q : Requests) (number : Nat) (endpoint : Endpoint) : Option String :=
  match q.answers number endpoint with
  | none => q.asked[number]?.join
  | some _ => none

/-- A request is answered. -/
def answer (q : Requests) (number : Nat) (endpoint : Endpoint)
    (response : Except WorkerError Json) : Requests :=
  { q with answers := fun n e =>
      if n = number ∧ e = endpoint then some response else q.answers n e }

/-- The requests after an event. -/
def next (q : Requests) : Event → Requests
  | .call target => { q with asked := q.asked ++ [if q.signedIn then some target else none] }
  | .settle number endpoint response =>
    match q.open? number endpoint with
    | some _ => q.answer number endpoint response
    | none => q
  | .signIn _ => { q with signedIn := true }
  | .signOut => { q with signedIn := false }
  | .intercept _ _ | .activate _ | .deactivate | .closeUi | .closeSocket => q

/-- The requests after events. -/
def after (q : Requests) (es : List Event) : Requests := es.foldl next q

/-- The metadata that the server answered to a switch. -/
def metadata (q : Requests) (number : Nat) : Option (Except WorkerError Workspace) :=
  (q.answers number .metadata).map (decoded readMetadata)

/-- The vertices that the server answered to a switch. -/
def vertices (q : Requests) (number : Nat) : Option (Except WorkerError (List Vertex)) :=
  (q.answers number .vertices).map (decoded readVertices)

/-- The edges that the server answered to a switch. -/
def edges (q : Requests) (number : Nat) : Option (Except WorkerError (List Edge)) :=
  (q.answers number .edges).map (decoded readEdges)

/-- The workspace with its vertices, once a switch has both metadata and vertices. -/
def complete? (q : Requests) (number : Nat) : Option (Workspace × List Vertex) :=
  match q.metadata number, q.vertices number with
  | some (.ok m), some (.ok v) => some (m, v)
  | _, _ => none

/-- The workspace with its vertices that a switch has because of an event, and did not have
before. -/
def completed? (q : Requests) (e : Event) : Option (Workspace × List Vertex) :=
  match e.number? with
  | some number => if (q.complete? number).isSome then none else (q.next e).complete? number
  | none => none

variable {q : Requests} {i : Nat} {endpoint : Endpoint} {response : Except WorkerError Json}

theorem after_append (es fs : List Event) : q.after (es ++ fs) = (q.after es).after fs :=
  List.foldl_append

theorem answers_answer_of_ne {j : Nat} {endpoint' : Endpoint} (h : j ≠ i ∨ endpoint' ≠ endpoint) :
    (q.answer i endpoint response).answers j endpoint' = q.answers j endpoint' := by
  simp only [answer]
  rw [if_neg]
  rintro ⟨rfl, rfl⟩
  simp at h

theorem open?_of_answered {a : Except WorkerError Json} (h : q.answers i endpoint = some a) :
    q.open? i endpoint = none := by
  simp [open?, h]

theorem open?_eq_some {r : String} (h : q.open? i endpoint = some r) :
    q.answers i endpoint = none ∧ q.asked[i]? = some (some r) := by
  unfold open? at h
  split at h
  next ha => exact ⟨ha, Option.join_eq_some_iff.1 h⟩
  next => cases h

theorem answers_next {a : Except WorkerError Json} (h : q.answers i endpoint = some a)
    (e : Event) : (q.next e).answers i endpoint = some a := by
  cases e with
  | settle j endpoint' response =>
    simp only [next]
    split
    next r hopen =>
      rw [answers_answer_of_ne, h]
      by_contra hsame
      obtain ⟨rfl, rfl⟩ : i = j ∧ endpoint = endpoint' := by simpa using hsame
      rw [open?_of_answered h] at hopen
      cases hopen
    next => exact h
  | _ => exact h

theorem metadata_next {x : Except WorkerError Workspace} (h : q.metadata i = some x) (e : Event) :
    (q.next e).metadata i = some x := by
  obtain ⟨a, ha, rfl⟩ := Option.map_eq_some_iff.1 h
  simp [metadata, answers_next ha e]

theorem metadata_after {x : Except WorkerError Workspace} (h : q.metadata i = some x)
    (es : List Event) : (q.after es).metadata i = some x := by
  induction es generalizing q with
  | nil => exact h
  | cons e es ih => exact ih (metadata_next h e)

/-! ### The worker keeps up -/

/-- The switch with a number has what was answered to it. -/
structure Serves (q : Requests) (i : Nat) (c : Switch) : Prop where
  /-- The server was asked about the workspace that the switch is for. -/
  asked : q.asked[i]? = some (some c.target)
  /-- The metadata are the ones answered. -/
  metadata : c.metadata = q.metadata i
  /-- The vertices are the ones answered. -/
  vertices : c.vertices = q.vertices i
  /-- The edges are the ones answered. -/
  edges : c.edges = q.edges i
  /-- The announcement has been dealt with once metadata and vertices are there. -/
  announcement : c.announcement.isSome = (c.metadata.isSome && c.vertices.isSome)

/-- How far a switch has come fits what was answered to it. -/
def Follows (q : Requests) (i : Nat) : Option Progress → Prop
  | none => ∀ endpoint, q.answers i endpoint = none
  | some (.pending c) => q.Serves i c
  | some (.ended _) => ∀ endpoint, q.open? i endpoint = none

/-- A switchboard fits what its server was asked and answered. -/
structure Tracks (q : Requests) (b : Switchboard) : Prop where
  /-- The same is known about who is signed in. -/
  signedIn : q.signedIn = b.worker.user.isSome
  /-- Every call is counted. -/
  asked : q.asked.length = b.calls.length
  /-- Every switch has come as far as its answers allow. -/
  follows : ∀ i, q.Follows i b.calls[i]?

namespace Serves

variable {c : Switch}

theorem open?_eq (h : q.Serves i c) (endpoint : Endpoint) :
    q.open? i endpoint = if c.awaits endpoint then some c.target else none := by
  have hawaits : c.awaits endpoint = (q.answers i endpoint).isNone := by
    cases endpoint <;>
      simp [Switch.awaits, h.metadata, h.vertices, h.edges, Requests.metadata, Requests.vertices,
        Requests.edges]
  rw [hawaits, open?, h.asked]
  cases q.answers i endpoint <;> rfl

theorem next_settle (h : q.Serves i c) {endpoint : Endpoint} (ha : c.awaits endpoint = true)
    (response : Except WorkerError Json) :
    q.next (.settle i endpoint response) = q.answer i endpoint response := by
  have hopen : q.open? i endpoint = some c.target := by rw [h.open?_eq, if_pos ha]
  simp only [next, hopen]

theorem missing_of_awaits (h : q.Serves i c) {endpoint : Endpoint} (ha : c.awaits endpoint = true) :
    ((q.metadata i).isSome && (q.vertices i).isSome && (q.edges i).isSome) = false := by
  rw [← h.metadata, ← h.vertices, ← h.edges]
  cases endpoint <;> simp_all [Switch.awaits]

theorem arrive (h : q.Serves i c) (w : Worker) (endpoint : Endpoint)
    (response : Except WorkerError Json) :
    (Switch.arrive w c endpoint response).2.1.metadata =
        (q.answer i endpoint response).metadata i ∧
      (Switch.arrive w c endpoint response).2.1.vertices =
        (q.answer i endpoint response).vertices i ∧
      (Switch.arrive w c endpoint response).2.1.edges = (q.answer i endpoint response).edges i := by
  cases endpoint <;>
    simp [Switch.arrive, Worker.receive, Requests.metadata, Requests.vertices, Requests.edges,
      answer, h.metadata, h.vertices, h.edges, decoded]

/-- No request of a switch that has everything is open. -/
theorem open?_of_settled (h : q.Serves i c) (ha : c.announcement.isSome) (he : c.edges.isSome)
    (endpoint : Endpoint) : q.open? i endpoint = none := by
  obtain ⟨hm, hv⟩ : c.metadata.isSome ∧ c.vertices.isSome := by
    simpa [h.announcement] using ha
  rw [h.open?_eq]
  cases endpoint <;> simp [Switch.awaits, Option.isSome_iff_ne_none.1 hm,
    Option.isSome_iff_ne_none.1 hv, Option.isSome_iff_ne_none.1 he]

end Serves

end Requests

namespace Switch

variable {w : Worker} {c : Switch}

/-- The workspace with its vertices, once the switch has both metadata and vertices. -/
def complete? (c : Switch) : Option (Workspace × List Vertex) :=
  match c.metadata, c.vertices with
  | some (.ok m), some (.ok v) => some (m, v)
  | _, _ => none

/-- The workspace with its vertices, when it is time to announce it. -/
def ready? (c : Switch) : Option (Workspace × List Vertex) :=
  if c.announcement.isSome then none else c.complete?

theorem ready?_of_parts {m : Workspace} {v : List Vertex} (h : c.announcement = none)
    (hm : c.metadata = some (.ok m)) (hv : c.vertices = some (.ok v)) :
    c.ready? = some (m, v) := by
  simp [ready?, complete?, h, hm, hv]

theorem isSome_arrive (w : Worker) (c : Switch) (endpoint : Endpoint)
    (response : Except WorkerError Json) :
    (c.metadata.isSome → (arrive w c endpoint response).2.1.metadata.isSome) ∧
      (c.vertices.isSome → (arrive w c endpoint response).2.1.vertices.isSome) := by
  cases endpoint <;> simp [arrive]

/-- The announcement is dealt with as soon as metadata and vertices are there. -/
theorem Announced.isSome_announcement {r : Worker × Switch × Emission} (h : Announced w c r)
    (hc : c.announcement.isSome → c.metadata.isSome ∧ c.vertices.isSome) :
    r.2.1.announcement.isSome = (r.2.1.metadata.isSome && r.2.1.vertices.isSome) := by
  cases h with
  | idle hidle =>
    rcases hidle with ha | hm | hv
    · obtain ⟨hm, hv⟩ := hc ha
      simp [ha, hm, hv]
    · have : c.announcement.isSome = false :=
        Bool.eq_false_iff.2 fun ha => by simpa [hm] using (hc ha).1
      simp [this, hm]
    · have : c.announcement.isSome = false :=
        Bool.eq_false_iff.2 fun ha => by simpa [hv] using (hc ha).2
      simp [this, hv]
  | noMetadata _ hm hv | noVertices _ hm hv | withheld _ hm hv | closed _ hm hv
  | spoken _ hm hv => simp [hm, hv]

theorem Ended.settled {p : Progress} {e : Emission} (h : Ended w c (p, e)) :
    p = .pending c ∨ c.announcement.isSome ∧ c.edges.isSome ∧ ∃ result, p = .ended result := by
  cases h with
  | waiting => exact .inl rfl
  | failed ha he | noEdges ha he | withheld ha he | overtaken ha he | loaded ha he =>
    exact .inr ⟨by simp [ha], by simp [he], _, rfl⟩

end Switch

namespace Requests

variable {q : Requests} {i : Nat} {endpoint : Endpoint} {response : Except WorkerError Json}
  {c : Switch}

/-- A switch that takes a step keeps up with its answers. -/
theorem Serves.settle (h : q.Serves i c) (w : Worker) (endpoint : Endpoint)
    (response : Except WorkerError Json) :
    (q.answer i endpoint response).Follows i (some (c.settle w endpoint response).2.1) := by
  obtain ⟨w', c', said, p, last, hs, he, heq⟩ := Switch.settle_parts w c endpoint response
  obtain ⟨hm, hv, hx⟩ := h.arrive w endpoint response
  obtain ⟨hm', hv'⟩ := Switch.isSome_arrive w c endpoint response
  have hserves : (q.answer i endpoint response).Serves i c' :=
    { asked := by rw [hs.target, Switch.target_arrive]; exact h.asked
      metadata := hs.metadata.trans hm
      vertices := hs.vertices.trans hv
      edges := hs.edges.trans hx
      announcement := hs.isSome_announcement fun ha => by
        rw [Switch.announcement_arrive, h.announcement, Bool.and_eq_true] at ha
        exact ⟨hm' ha.1, hv' ha.2⟩ }
  rw [heq]
  -- the switch waits on, or ends when nothing is left to be answered
  rcases he.settled with rfl | ⟨ha, hedges, result, rfl⟩
  · exact hserves
  · exact hserves.open?_of_settled ha hedges

theorem Follows.congr {q' : Requests} {p : Option Progress} (h : q.Follows i p)
    (hasked : p ≠ none → q'.asked[i]? = q.asked[i]?)
    (hanswers : ∀ endpoint, q'.answers i endpoint = q.answers i endpoint) : q'.Follows i p := by
  match p, h with
  | none, h => exact fun endpoint => (hanswers endpoint).trans (h endpoint)
  | some (.pending c), h =>
    have hparts : q'.metadata i = q.metadata i ∧ q'.vertices i = q.vertices i ∧
        q'.edges i = q.edges i := by
      simp [Requests.metadata, Requests.vertices, Requests.edges, hanswers]
    exact ⟨(hasked (by simp)).trans h.asked, h.metadata.trans hparts.1.symm,
      h.vertices.trans hparts.2.1.symm, h.edges.trans hparts.2.2.symm, h.announcement⟩
  | some (.ended x), h =>
    intro endpoint
    rw [← h endpoint, open?, open?, hanswers, hasked (by simp)]

end Requests

namespace Switchboard

/-! ### Settling -/

variable {b : Switchboard} {i : Nat} {endpoint : Endpoint} {c : Switch}

theorem settle_of_awaits (hc : b.calls[i]? = some (.pending c)) (ha : c.awaits endpoint = true)
    (response : Except WorkerError Json) :
    b.settle i endpoint response =
      (⟨(c.settle b.worker endpoint response).1,
          b.calls.set i (c.settle b.worker endpoint response).2.1⟩,
        (c.settle b.worker endpoint response).2.2) := by
  simp [settle, hc, ha]

/-- A response that nobody waits for changes nothing. -/
theorem settle_of_closed {q : Requests} (h : q.Tracks b) (hq : q.open? i endpoint = none)
    (response : Except WorkerError Json) : b.settle i endpoint response = (b, .none) := by
  have hfollows := h.follows i
  simp only [settle]
  split
  next c hc =>
    rw [hc] at hfollows
    have := hfollows.open?_eq endpoint
    rw [hq] at this
    split at this
    · cases this
    next ha => simp [ha]
  next => rfl

/-- An open request is one that a switch under way waits for. -/
theorem awaits_of_open {q : Requests} (h : q.Tracks b) {r : String}
    (hq : q.open? i endpoint = some r) :
    ∃ c, b.calls[i]? = some (.pending c) ∧ q.Serves i c ∧ c.awaits endpoint = true ∧
      c.target = r := by
  have hfollows := h.follows i
  have hlt := (List.getElem?_eq_some_iff.1 (Requests.open?_eq_some hq).2).1
  rw [h.asked] at hlt
  obtain ⟨p, hp⟩ : ∃ p, b.calls[i]? = some p := ⟨_, List.getElem?_eq_getElem hlt⟩
  rw [hp] at hfollows
  cases p with
  | ended result =>
    rw [hfollows endpoint] at hq
    cases hq
  | pending c =>
    have := Requests.Serves.open?_eq hfollows endpoint
    rw [hq] at this
    split at this
    next ha => exact ⟨c, hp, hfollows, ha, (Option.some.inj this).symm⟩
    next => cases this

end Switchboard

namespace Requests

open Switchboard

variable {q : Requests} {b : Switchboard}

theorem Tracks.append (h : q.Tracks b) {w : Worker} (hw : w.user.isSome = b.worker.user.isSome)
    {p : Progress} {x : Option String}
    (hp : (Requests.mk q.signedIn (q.asked ++ [x]) q.answers).Follows b.calls.length (some p)) :
    (Requests.mk q.signedIn (q.asked ++ [x]) q.answers).Tracks ⟨w, b.calls ++ [p]⟩ := by
  refine ⟨h.signedIn.trans hw.symm, by simp [h.asked], fun i => ?_⟩
  have hfollows := h.follows i
  -- an older switch, the one called for now, or none yet
  rcases Nat.lt_trichotomy i b.calls.length with hi | rfl | hi
  · rw [List.getElem?_append_left hi]
    exact hfollows.congr (fun _ => List.getElem?_append_left (by rw [h.asked]; exact hi))
      fun _ => rfl
  · simpa using hp
  · rw [List.getElem?_eq_none (by omega)] at hfollows
    rw [List.getElem?_eq_none (by simp; omega)]
    exact hfollows

theorem Tracks.call (h : q.Tracks b) (r : String) :
    (q.next (.call r)).Tracks (b.perform (.call r)).1 := by
  have hanswers : ∀ endpoint, q.answers b.calls.length endpoint = none := by
    have := h.follows b.calls.length
    rwa [List.getElem?_eq_none (Nat.le_refl _)] at this
  have hasked (x : Option String) : (q.asked ++ [x])[b.calls.length]? = some x := by
    simp [← h.asked]
  have hcases := perform_cases b (.call r)
  generalize b.perform (.call r) = after at hcases
  cases hcases with
  | @called _ user hu =>
    have hin : q.signedIn = true := by simp [h.signedIn, hu]
    simp only [next, hin, if_true]
    rw [← hin]
    have hserves : (Requests.mk q.signedIn (q.asked ++ [some r]) q.answers).Serves b.calls.length
        ⟨r, user, none, none, none, none⟩ := by
      refine ⟨hasked _, ?_, ?_, ?_, rfl⟩ <;>
        simp [Requests.metadata, Requests.vertices, Requests.edges, hanswers]
    have hw : (b.worker.activate r).user.isSome = b.worker.user.isSome := rfl
    exact h.append (p := .pending _) hw hserves
  | refused hu =>
    have hout : q.signedIn = false := by simp [h.signedIn, hu]
    simp only [next, hout, Bool.false_eq_true, if_false]
    rw [← hout]
    refine h.append rfl fun endpoint => ?_
    simp [open?, hanswers, hasked]
  | other ht => cases ht

theorem Tracks.settle (h : q.Tracks b) (i : Nat) (endpoint : Endpoint)
    (response : Except WorkerError Json) :
    (q.next (.settle i endpoint response)).Tracks (b.perform (.settle i endpoint response)).1 := by
  simp only [perform, next]
  split
  next r hopen =>
    obtain ⟨c, hc, hserves, ha, -⟩ := awaits_of_open h hopen
    rw [settle_of_awaits hc ha]
    obtain ⟨hlt, -⟩ := List.getElem?_eq_some_iff.1 hc
    refine ⟨?_, by simpa [answer] using h.asked, fun j => ?_⟩
    · rw [(c.sameLines_settle b.worker endpoint response).user]
      exact h.signedIn
    · -- an answer to one switch means nothing to the others
      by_cases hj : i = j
      · subst hj
        simpa [hlt] using hserves.settle b.worker endpoint response
      · rw [List.getElem?_set_ne hj]
        exact (h.follows j).congr (fun _ => rfl) fun endpoint' =>
          answers_answer_of_ne (.inl (Ne.symm hj))
  next hopen =>
    rw [settle_of_closed h hopen]
    exact h

/-- An event leaves a switchboard and its server in step. -/
theorem Tracks.next (h : q.Tracks b) (e : Event) : (q.next e).Tracks (b.perform e).1 := by
  cases e with
  | call r => exact h.call r
  | settle i endpoint response => exact h.settle i endpoint response
  | signIn | signOut =>
    exact ⟨rfl, h.asked, fun i => (h.follows i).congr (fun _ => rfl) fun _ => rfl⟩
  | intercept | activate | deactivate | closeUi | closeSocket =>
    exact ⟨h.signedIn, h.asked, h.follows⟩

theorem Tracks.after (h : q.Tracks b) (es : List Event) : (q.after es).Tracks (b.after es) := by
  induction es generalizing q b with
  | nil => exact h
  | cons e es ih => exact ih (h.next e)

/-- **The worker keeps up with its server.**  A switch under way has what was answered to it so
far, and no switch ends before the last of its requests is answered. -/
theorem tracks (w : Worker) (es : List Event) :
    ((start w).after es).Tracks (Switchboard.after ⟨w, []⟩ es) := by
  have hstart : (start w).Tracks ⟨w, []⟩ := ⟨rfl, rfl, fun _ _ => rfl⟩
  exact hstart.after es

/-! ### Complete workspaces -/

theorem Serves.complete? {i : Nat} {c : Switch} (h : q.Serves i c) :
    q.complete? i = c.complete? := by
  rw [Requests.complete?, Switch.complete?, h.metadata, h.vertices]

theorem Serves.completed? {i : Nat} {endpoint : Endpoint} {c : Switch} (h : q.Serves i c)
    (ha : c.awaits endpoint = true) (w : Worker) (response : Except WorkerError Json) :
    q.completed? (.settle i endpoint response) =
      (Switch.arrive w c endpoint response).2.1.ready? := by
  obtain ⟨hm, hv, -⟩ := h.arrive w endpoint response
  have harrived : (q.next (.settle i endpoint response)).complete? i =
      (Switch.arrive w c endpoint response).2.1.complete? := by
    rw [h.next_settle ha, Requests.complete?, Switch.complete?, hm, hv]
  simp only [Requests.completed?, Event.number?, harrived, h.complete?, Switch.ready?,
    Switch.announcement_arrive]
  cases hann : c.announcement with
  | none =>
    -- one of metadata and vertices was missing before
    have hpart : (c.metadata.isSome && c.vertices.isSome) = false := by
      rw [← h.announcement, hann]
      rfl
    have hnone : c.complete? = none := by
      unfold Switch.complete?
      split
      next hm hv => simp [hm, hv] at hpart
      next => rfl
    simp [hnone]
  | some a =>
    -- metadata and vertices were both there, so the answer is about the edges
    have hparts : c.metadata.isSome ∧ c.vertices.isSome := by
      simpa [hann] using h.announcement.symm
    cases endpoint with
    | metadata => simp_all [Switch.awaits]
    | vertices => simp_all [Switch.awaits]
    | edges =>
      have hsame : (Switch.arrive w c .edges response).2.1.complete? = c.complete? := rfl
      rw [hsame]
      cases c.complete? <;> simp

end Requests

end GraphStore
