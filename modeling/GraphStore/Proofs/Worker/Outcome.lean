import GraphStore.Proofs.Worker.Announcement
import GraphStore.Proofs.Worker.Arrivals

/-!
# What a call comes to

A call for a switch is refused when nobody is signed in.  Otherwise it puts its workspace on
display, asks for metadata, vertices and edges, and returns when all three have settled, never
before.  Three results and what is seen at two moments decide everything else: how the call ends
(`Switch.due`), what it announces (`Switch.openingDue`, `Switch.edgesDue`) and which canvas it
fills (`Switchboard.onGraph_step`).  The two moments are the one at which metadata and vertices have
both settled and the one at which everything has (`Switchboard.whenAnswered`).

* `Switchboard.Stands` : how far a switch has come, given what was answered to it and what was seen
  at the two moments.  Every event keeps it so (`Switchboard.Stands.next`).
* `Switchboard.switch_outcome` : what a call comes to, whatever else happens in the meantime.
-/

namespace GraphStore

open Switch (opening)

/-! ### What is due to a switch -/

namespace Switch

/-- How a switch for `target` has to end that was answered like this, when the worker was `first`
at the moment at which it had metadata and vertices, and `last` when it had everything. -/
def due (target : String) (metadata : Except WorkerError Workspace)
    (vertices : Except WorkerError (List Vertex)) (edges : Except WorkerError (List Edge))
    (first last : Worker) : Except WorkerError Outcome :=
  match metadata, vertices with
  | .error e, _ => .error e
  | .ok _, .error e => .error e
  | .ok m, .ok v =>
    if first.focus.isOn m.workspaceId && !first.socketOpen then .error (.channelClosed .socket)
    else match edges with
      | .error e => .error e
      | .ok x =>
        if first.focus.isOn m.workspaceId && last.focus.isOn target then
          .ok (.loaded m v.length x.length)
        else .ok (.superseded target)

/-- What a switch has to say once it has metadata and vertices. -/
def openingDue (user : String) :
    Option (Except WorkerError Workspace) → Option (Except WorkerError (List Vertex)) →
      Option Worker → List Signal
  | some (.ok m), some (.ok v), some first =>
    if first.focus.isOn m.workspaceId && first.socketOpen then opening m user v else []
  | _, _, _ => []

/-- What a switch has to say when it ends. -/
def edgesDue : Option (Except WorkerError Outcome) → Option (Except WorkerError (List Edge)) →
    List Signal
  | some (.ok (.loaded _ _ _)), some (.ok x) => [.ui (.edgesLoaded x)]
  | _, _ => []

/-- What becomes of the announcement of a switch with these metadata and vertices. -/
def announcementDue (metadata : Except WorkerError Workspace)
    (vertices : Except WorkerError (List Vertex)) (first : Worker) :
    Except WorkerError Announcement :=
  match metadata, vertices with
  | .error e, _ => .error e
  | .ok _, .error e => .error e
  | .ok m, .ok v =>
    if !first.focus.isOn m.workspaceId then .ok .withheld
    else if !first.socketOpen then .error (.channelClosed .socket)
    else .ok (.spoken m v.length)

section

variable {target : String} {metadata : Except WorkerError Workspace}
  {vertices : Except WorkerError (List Vertex)} {edges : Except WorkerError (List Edge)}
  {first first' last last' w : Worker} {c : Switch}

/-! What is due depends on what is on display and on whether the socket listens, and on nothing
else about the worker. -/

theorem announcementDue_congr (h : first.SameLines first') :
    announcementDue metadata vertices first = announcementDue metadata vertices first' := by
  unfold announcementDue
  rw [h.focus, h.socketOpen]

theorem openingDue_congr (user : String) (h : first.SameLines first') :
    openingDue user (some metadata) (some vertices) (some first) =
      openingDue user (some metadata) (some vertices) (some first') := by
  cases metadata <;> cases vertices <;> simp [openingDue, h.focus, h.socketOpen]

theorem due_congr (h : last.SameLines last') :
    due target metadata vertices edges first last =
      due target metadata vertices edges first last' := by
  unfold due
  rw [h.focus]

variable (target metadata vertices edges first last) in
theorem conclude_announcementDue :
    (conclude last target (announcementDue metadata vertices first) edges).1 =
        due target metadata vertices edges first last ∧
      (conclude last target (announcementDue metadata vertices first) edges).2.announcements =
        edgesDue (some (due target metadata vertices edges first last)) (some edges) := by
  cases metadata with
  | error e => exact ⟨rfl, rfl⟩
  | ok m =>
    cases vertices with
    | error e => exact ⟨rfl, rfl⟩
    | ok v =>
      simp only [announcementDue, due]
      cases first.focus.isOn m.workspaceId <;> cases first.socketOpen <;> cases edges <;>
        cases hlast : last.focus.isOn target <;>
        simp [conclude, edgesDue, hlast, Emission.announcements, Signal.isAnnouncement]

/-- The announcement is dealt with as is due, once metadata and vertices are there. -/
theorem Announced.due {r : Worker × Switch × Emission} (h : Announced w c r) :
    r.2.1 = c ∧ r.2.2.announcements = [] ∨
      c.announcement = none ∧ ∃ m v, c.metadata = some m ∧ c.vertices = some v ∧
        r.2.1 = { c with announcement := some (announcementDue m v w) } ∧
        r.2.2.announcements = openingDue c.user (some m) (some v) (some w) := by
  cases h with
  | idle => exact .inl ⟨rfl, rfl⟩
  | noMetadata ha hm hv => exact .inr ⟨ha, _, _, hm, hv, rfl, rfl⟩
  | noVertices ha hm hv => exact .inr ⟨ha, _, _, hm, hv, rfl, rfl⟩
  | withheld ha hm hv hf =>
    refine .inr ⟨ha, _, _, hm, hv, ?_, ?_⟩
    · simp [announcementDue, hf]
    · simp [openingDue, hf]
  | closed ha hm hv hf hs =>
    refine .inr ⟨ha, _, _, hm, hv, ?_, ?_⟩
    · simp [announcementDue, hf, hs]
    · simp [openingDue, hs]
  | spoken ha hm hv hf hs =>
    refine .inr ⟨ha, _, _, hm, hv, ?_, ?_⟩
    · simp [announcementDue, hf, hs]
    · simp only [openingDue, hf, hs, Bool.and_self, if_true]
      rfl

theorem Ended.conclude {r : Progress × Emission} (h : Ended w c r)
    {a : Except WorkerError Announcement} {x : Except WorkerError (List Edge)}
    (ha : c.announcement = some a) (hx : c.edges = some x) :
    r.1 = .ended (conclude w c.target a x).1 ∧ r.2 = (conclude w c.target a x).2 := by
  cases h with
  | waiting hnot =>
    rcases hnot with hnot | hnot
    · cases ha.symm.trans hnot
    · cases hx.symm.trans hnot
  | @failed e y ha' hx' =>
    cases ha.symm.trans ha'
    cases hx.symm.trans hx'
    exact ⟨rfl, rfl⟩
  | withheld ha' hx' =>
    cases ha.symm.trans ha'
    cases hx.symm.trans hx'
    exact ⟨rfl, rfl⟩
  | @noEdges b e ha' hx' =>
    cases ha.symm.trans ha'
    cases hx.symm.trans hx'
    cases b <;> exact ⟨rfl, rfl⟩
  | overtaken ha' hx' hf | loaded ha' hx' hf =>
    cases ha.symm.trans ha'
    cases hx.symm.trans hx'
    simp [Switch.conclude, hf]

theorem Ended.waits {r : Progress × Emission} (h : Ended w c r)
    (hnot : c.announcement = none ∨ c.edges = none) : r = (.pending c, .none) := by
  cases h with
  | waiting => rfl
  | failed ha he | noEdges ha he | withheld ha he | overtaken ha he | loaded ha he =>
    rcases hnot with hnot | hnot
    · cases ha.symm.trans hnot
    · cases he.symm.trans hnot

theorem user_arrive (w : Worker) (c : Switch) (endpoint : Endpoint)
    (response : Except WorkerError Json) :
    (arrive w c endpoint response).2.1.user = c.user := by cases endpoint <;> rfl

theorem Announced.user {r : Worker × Switch × Emission} (h : Announced w c r) :
    r.2.1.user = c.user := by
  cases h <;> rfl

end

end Switch

/-! ### Moments -/

namespace Requests

variable {q : Requests} {i : Nat} {endpoints : List Endpoint}

/-- All these requests of a switch are answered. -/
def answered (q : Requests) (i : Nat) (endpoints : List Endpoint) : Bool :=
  endpoints.all fun endpoint => (q.answers i endpoint).isSome

theorem answered_next (h : q.answered i endpoints = true) (e : Event) :
    (q.next e).answered i endpoints = true := by
  refine List.all_eq_true.2 fun endpoint hmem => ?_
  obtain ⟨a, ha⟩ := Option.isSome_iff_exists.1 (List.all_eq_true.1 h endpoint hmem)
  rw [answers_next ha e]
  rfl

theorem answered_after (h : q.answered i endpoints = true) (es : List Event) :
    (q.after es).answered i endpoints = true := by
  induction es generalizing q with
  | nil => exact h
  | cons e es ih => exact ih (answered_next h e)

theorem map_answers_next {α : Type} {endpoint : Endpoint} {meaning : Except WorkerError Json → α}
    {x : α} (h : (q.answers i endpoint).map meaning = some x) (e : Event) :
    ((q.next e).answers i endpoint).map meaning = some x := by
  obtain ⟨a, ha, rfl⟩ := Option.map_eq_some_iff.1 h
  rw [answers_next ha e]
  rfl

theorem asked_next {x : Option String} (h : q.asked[i]? = some x) (e : Event) :
    (q.next e).asked[i]? = some x := by
  obtain ⟨hlt, -⟩ := List.getElem?_eq_some_iff.1 h
  cases e with
  | call r =>
    simp only [next]
    rw [List.getElem?_append_left hlt, h]
  | settle j endpoint response =>
    simp only [next]
    split
    · exact h
    · exact h
  | intercept | activate | deactivate | signIn | signOut | closeUi | closeSocket => exact h

theorem asked_after {x : Option String} (h : q.asked[i]? = some x) (es : List Event) :
    (q.after es).asked[i]? = some x := by
  induction es generalizing q with
  | nil => exact h
  | cons e es ih => exact ih (asked_next h e)

theorem answered_pair : q.answered i [.metadata, .vertices] =
    ((q.metadata i).isSome && (q.vertices i).isSome) := by
  simp [answered, metadata, vertices]

theorem answered_all : q.answered i [.metadata, .vertices, .edges] =
    ((q.metadata i).isSome && (q.vertices i).isSome && (q.edges i).isSome) := by
  simp [answered, metadata, vertices, edges, Bool.and_assoc]

/-- The moment at which the last of these requests of a switch is answered, if it was so far or is
now. -/
def noted (q : Requests) (i : Nat) (endpoints : List Endpoint) (sofar : Option Worker)
    (now : Worker) : Option Worker :=
  sofar.or (if q.answered i endpoints then some now else none)

theorem noted_of_some {sofar : Option Worker} {f : Worker} (h : sofar = some f) (now : Worker) :
    q.noted i endpoints sofar now = some f := by
  rw [noted, h]
  rfl

theorem noted_of_none {sofar : Option Worker} (h : sofar = none)
    (hq : q.answered i endpoints = true) (now : Worker) :
    q.noted i endpoints sofar now = some now := by
  rw [noted, h, hq]
  rfl

end Requests

namespace Switchboard

/-- The worker at the moment at which the last of these requests of a switch is answered. -/
def whenAnswered (b : Switchboard) (q : Requests) (i : Nat) (endpoints : List Endpoint) :
    List Event → Option Worker
  | [] => none
  | e :: es =>
    if (q.next e).answered i endpoints then some b.worker
    else whenAnswered (b.perform e).1 (q.next e) i endpoints es

section

variable (b : Switchboard) {q : Requests} {i : Nat} {endpoints : List Endpoint}

theorem whenAnswered_snoc (q : Requests) (i : Nat) (endpoints : List Endpoint) (es : List Event)
    (e : Event) : b.whenAnswered q i endpoints (es ++ [e]) =
      ((q.after es).next e).noted i endpoints (b.whenAnswered q i endpoints es)
        (b.after es).worker := by
  induction es generalizing b q with
  | nil => rfl
  | cons f es ih =>
    simp only [List.cons_append, whenAnswered, ih]
    split
    · rfl
    · rfl

theorem isSome_whenAnswered (h : q.answered i endpoints = false) (es : List Event) :
    (b.whenAnswered q i endpoints es).isSome = (q.after es).answered i endpoints := by
  induction es generalizing b q with
  | nil => exact h.symm
  | cons e es ih =>
    rw [whenAnswered]
    cases hnext : (q.next e).answered i endpoints with
    | true =>
      have hafter : (q.after (e :: es)).answered i endpoints = true :=
        Requests.answered_after hnext es
      rw [hafter]
      rfl
    | false => exact ih (b.perform e).1 hnext

end

/-! ### One more answer -/

/-- The switch `c` has got one more answer at `w`, which makes the requests `q'`, and has dealt with
its announcement as was due: it is `c'` at `w'` now, and `words` is what it announced. -/
structure Advanced (q' : Requests) (i : Nat) (w : Worker) (c : Switch) (w' : Worker) (c' : Switch)
    (words : List Signal) : Prop where
  /-- It is for the same workspace. -/
  target : c'.target = c.target
  /-- It was called for by the same user. -/
  user : c'.user = c.user
  /-- The same workspace is on display, and the same ends listen. -/
  lines : w'.SameLines w
  /-- It has the edges that were answered. -/
  edges : c'.edges = q'.edges i
  /-- It deals with its announcement when metadata and vertices are both there, once. -/
  due : c'.announcement = c.announcement ∧ words = [] ∨
    c.announcement = none ∧ ∃ m v, q'.metadata i = some m ∧ q'.vertices i = some v ∧
      c'.announcement = some (Switch.announcementDue m v w) ∧
      words = Switch.openingDue c.user (some m) (some v) (some w)

/-- A response that a switch waits for advances it, and then the switch ends if it can. -/
theorem advanced_settle {q : Requests} {i : Nat} {c : Switch} {endpoint : Endpoint}
    (h : q.Serves i c) (hawaits : c.awaits endpoint = true) (w : Worker)
    (response : Except WorkerError Json) :
    ∃ w' c' words p words',
      Advanced (q.next (.settle i endpoint response)) i w c w' c' words ∧
      Switch.Ended w' c' (p, words') ∧ (c.settle w endpoint response).2.1 = p ∧
      (c.settle w endpoint response).2.2.announcements = words ++ words'.announcements := by
  obtain ⟨w', c', words, p, words', hsaid, hended, heq⟩ := Switch.settle_parts w c endpoint response
  obtain ⟨hm, hv, hx⟩ := h.arrive w endpoint response
  rw [← h.next_settle hawaits] at hm hv hx
  have hann := Switch.announcement_arrive w c endpoint response
  have harrived := Switch.sameLines_arrive w c endpoint response
  refine ⟨w', c', words.announcements, p, words',
    ⟨hsaid.target.trans (Switch.target_arrive ..), hsaid.user.trans (Switch.user_arrive ..),
      hsaid.sameLines.trans harrived, hsaid.edges.trans hx, ?_⟩, hended, by rw [heq], ?_⟩
  · rcases hsaid.due with ⟨hc', hsilent⟩ | ⟨hundecided, m, v, hm', hv', hc', hwords⟩
    · exact .inl ⟨(congrArg Switch.announcement hc').trans hann, hsilent⟩
    · refine .inr ⟨hann.symm.trans hundecided, m, v, hm.symm.trans hm', hv.symm.trans hv', ?_, ?_⟩
      · rw [← Switch.announcementDue_congr harrived]
        exact congrArg Switch.announcement hc'
      · rw [hwords, Switch.user_arrive, Switch.openingDue_congr c.user harrived]
  · simp only [heq, Emission.announcements_append, Switch.announcements_arrive, List.nil_append]

/-! ### How far a switch has come -/

/-- A switch for `r`, called for by `user`, that has come as far as the answers to it allow and has
done what is due, the worker being `first` when metadata and vertices were answered and `last` when
everything was: what it is, and what it has announced. -/
inductive Stands (r user : String) (q : Requests) (i : Nat) (first last : Option Worker) :
    Option Progress → List Signal → Prop
  /-- Metadata or vertices are missing. -/
  | waiting {c} (ht : c.target = r) (hu : c.user = user) (ha : c.announcement = none) :
    Stands r user q i first last (some (.pending c)) []
  /-- Only the edges are missing. -/
  | opened {c m v f} (ht : c.target = r) (hu : c.user = user) (hm : q.metadata i = some m)
    (hv : q.vertices i = some v) (hf : first = some f)
    (ha : c.announcement = some (Switch.announcementDue m v f)) (he : c.edges = none) :
    Stands r user q i first last (some (.pending c))
      (Switch.openingDue user (some m) (some v) (some f))
  /-- Everything is there. -/
  | ended {m v x f l} (hm : q.metadata i = some m) (hv : q.vertices i = some v)
    (hx : q.edges i = some x) (hf : first = some f) (hl : last = some l) :
    Stands r user q i first last (some (.ended (Switch.due r m v x f l)))
      (Switch.openingDue user (some m) (some v) (some f) ++
        Switch.edgesDue (some (Switch.due r m v x f l)) (some x))

/-- How a switch ended, if it did. -/
def ended? : Option Progress → Option (Except WorkerError Outcome)
  | some (.ended result) => some result
  | _ => none

theorem result?_eq (b : Switchboard) (i : Nat) : b.result? i = ended? b.calls[i]? := rfl

namespace Stands

variable {r user : String} {q q' : Requests} {i : Nat} {first last first' last' : Option Worker}
  {p : Option Progress} {said : List Signal}

/-- More answers and later moments do not change what was due. -/
theorem mono (h : Stands r user q i first last p said) (e : Event)
    (hfirst : ∀ f, first = some f → first' = some f) (hlast : ∀ l, last = some l → last' = some l) :
    Stands r user (q.next e) i first' last' p said := by
  cases h with
  | waiting ht hu ha => exact .waiting ht hu ha
  | opened ht hu hm hv hf ha he =>
    exact .opened ht hu (Requests.metadata_next hm e) (Requests.map_answers_next hv e) (hfirst _ hf)
      ha he
  | ended hm hv hx hf hl =>
    exact .ended (Requests.metadata_next hm e) (Requests.map_answers_next hv e)
      (Requests.map_answers_next hx e) (hfirst _ hf) (hlast _ hl)

/-- A switch that has dealt with its announcement ends as is due when the edges are there too, and
waits for them otherwise. -/
theorem finish {w w' : Worker} {c : Switch} {m : Except WorkerError Workspace}
    {v : Except WorkerError (List Vertex)} {f : Worker} {result : Progress × Emission}
    (ht : c.target = r) (hu : c.user = user) (hm : q.metadata i = some m)
    (hv : q.vertices i = some v) (hx : c.edges = q.edges i) (hf : first = some f)
    (ha : c.announcement = some (Switch.announcementDue m v f)) (hw : w.SameLines w')
    (hlast : c.edges.isSome → last = some w') (h : Switch.Ended w c result) :
    Stands r user q i first last (some result.1)
      (Switch.openingDue user (some m) (some v) (some f) ++ result.2.announcements) := by
  cases hedges : c.edges with
  | none =>
    rw [h.waits (.inr hedges), Emission.announcements_none, List.append_nil]
    exact .opened ht hu hm hv hf ha hedges
  | some x =>
    obtain ⟨hresult, hsaid⟩ := h.conclude ha hedges
    obtain ⟨hdue, hwords⟩ := Switch.conclude_announcementDue c.target m v x f w
    rw [hresult, hsaid, hdue, hwords, ht, Switch.due_congr hw]
    exact .ended hm hv (hx.symm.trans hedges) hf (hlast (by rw [hedges]; rfl))

/-- A response that settles takes the switch as far as is due. -/
theorem settle {c : Switch} {endpoint : Endpoint} (response : Except WorkerError Json)
    (h : Stands r user q i first last (some (.pending c)) said) (hserves : q.Serves i c)
    (hawaits : c.awaits endpoint = true) (w : Worker)
    (hfirst : first.isSome = q.answered i [.metadata, .vertices])
    (hlast : last.isSome = q.answered i [.metadata, .vertices, .edges]) :
    Stands r user (q.next (.settle i endpoint response)) i
      ((q.next (.settle i endpoint response)).noted i [.metadata, .vertices] first w)
      ((q.next (.settle i endpoint response)).noted i [.metadata, .vertices, .edges] last w)
      (some (c.settle w endpoint response).2.1)
      (said ++ (c.settle w endpoint response).2.2.announcements) := by
  obtain ⟨w', c', words, p, words', had, hended, hp, hwords⟩ :=
    advanced_settle hserves hawaits w response
  -- something was missing, or else the switch would not wait
  have hlastNone : last = none := by
    rw [Requests.answered_all, hserves.missing_of_awaits hawaits] at hlast
    simpa using hlast
  have hall {m v} (hm' : (q.next (.settle i endpoint response)).metadata i = some m)
      (hv' : (q.next (.settle i endpoint response)).vertices i = some v) (hx' : c'.edges.isSome) :
      (q.next (.settle i endpoint response)).noted i [.metadata, .vertices, .edges] last w =
        some w := by
    refine Requests.noted_of_none hlastNone ?_ w
    rw [Requests.answered_all, hm', hv', ← had.edges]
    simpa using hx'
  rw [hp, hwords]
  cases h with
  | waiting ht hu ha =>
    rw [List.nil_append]
    rcases had.due with ⟨hann, hsilent⟩ | ⟨-, m, v, hm', hv', hann, hsaid⟩
    · -- metadata or vertices are missing still
      have hundecided : c'.announcement = none := hann.trans ha
      cases hended.waits (.inl hundecided)
      rw [hsilent]
      exact .waiting (had.target.trans ht) (had.user.trans hu) hundecided
    · -- this is the moment at which both are there
      have hfirstNone : first = none := by
        rw [Requests.answered_pair, ← hserves.metadata, ← hserves.vertices, ← hserves.announcement,
          ha] at hfirst
        simpa using hfirst
      have hpair : (q.next (.settle i endpoint response)).answered i [.metadata, .vertices] =
          true := by
        rw [Requests.answered_pair, hm', hv']
        rfl
      rw [hsaid, hu]
      exact finish (had.target.trans ht) (had.user.trans hu) hm' hv' had.edges
        (Requests.noted_of_none hfirstNone hpair w) hann had.lines (hall hm' hv') hended
  | opened ht hu hm hv hf ha he =>
    rcases had.due with ⟨hann, hsilent⟩ | ⟨hundecided, -⟩
    · have hm' := Requests.metadata_next hm (.settle i endpoint response)
      have hv' := Requests.map_answers_next hv (.settle i endpoint response)
      rw [hsilent, List.nil_append]
      exact finish (had.target.trans ht) (had.user.trans hu) hm' hv' had.edges
        (Requests.noted_of_some hf w) (hann.trans ha) had.lines (hall hm' hv') hended
    · -- the announcement is not dealt with a second time
      cases ha.symm.trans hundecided

/-- Whatever happens, the switch stands as is due. -/
theorem next {b : Switchboard} (hq : q.Tracks b) (h : Stands r user q i first last b.calls[i]? said)
    (hfirst : first.isSome = q.answered i [.metadata, .vertices])
    (hlast : last.isSome = q.answered i [.metadata, .vertices, .edges]) (e : Event) :
    Stands r user (q.next e) i
      ((q.next e).noted i [.metadata, .vertices] first b.worker)
      ((q.next e).noted i [.metadata, .vertices, .edges] last b.worker)
      (b.perform e).1.calls[i]? (said ++ saidBy i (b.utterances e)) := by
  have hfate := fate b e i
  generalize (b.perform e).1.calls[i]? = p' at hfate ⊢
  generalize saidBy i (b.utterances e) = words at hfate ⊢
  -- a switch that stands was called for before
  have hcalled (hi : i = b.calls.length) : False := by
    rw [List.getElem?_eq_none (Nat.le_of_eq hi.symm)] at h
    cases h
  cases hfate with
  | same =>
    rw [List.append_nil]
    exact h.mono e (fun f hf => Requests.noted_of_some hf b.worker)
      fun l hl => Requests.noted_of_some hl b.worker
  | called _ hi => exact (hcalled hi).elim
  | refused _ hi => exact (hcalled hi).elim
  | @settled endpoint response c he hc hawaits =>
    subst he
    have hserves := hq.follows i
    rw [hc] at h hserves
    exact h.settle response hserves hawaits b.worker hfirst hlast

/-- A switch that stands as is due ends when everything is there, as is due, and has announced what
is due. -/
theorem outcome (h : Stands r user q i first last p said) (hq : q.Follows i p) :
    (ended? p).isSome = q.answered i [.metadata, .vertices, .edges] ∧
    (∀ m v x, q.metadata i = some m → q.vertices i = some v → q.edges i = some x →
      ∃ f l, first = some f ∧ last = some l ∧ ended? p = some (Switch.due r m v x f l)) ∧
    said = Switch.openingDue user (q.metadata i) (q.vertices i) first ++
      Switch.edgesDue (ended? p) (q.edges i) := by
  cases h with
  -- nothing is announced as long as metadata or vertices are missing
  | @waiting c _ _ ha =>
    have hpart : ((q.metadata i).isSome && (q.vertices i).isSome) = false := by
      rw [← hq.metadata, ← hq.vertices, ← hq.announcement, ha]
      rfl
    refine ⟨?_, fun m v x hm hv _ => ?_, ?_⟩
    · rw [Requests.answered_all, hpart]
      rfl
    · rw [hm, hv] at hpart
      cases hpart
    · cases hm : q.metadata i with
      | none => rfl
      | some m =>
        cases hv : q.vertices i with
        | none => cases m <;> rfl
        | some v =>
          rw [hm, hv] at hpart
          cases hpart
  | opened _ _ hm hv hf _ he =>
    have hx : q.edges i = none := hq.edges.symm.trans he
    refine ⟨?_, fun _ _ x _ _ hx' => ?_, ?_⟩
    · rw [Requests.answered_all, hx]
      simp [ended?]
    · cases hx.symm.trans hx'
    · rw [hm, hv, hf]
      exact (List.append_nil _).symm
  | @ended m v x f l hm hv hx hf hl =>
    refine ⟨?_, fun m' v' x' hm' hv' hx' => ?_, ?_⟩
    · rw [Requests.answered_all, hm, hv, hx]
      rfl
    · cases hm.symm.trans hm'
      cases hv.symm.trans hv'
      cases hx.symm.trans hx'
      exact ⟨f, l, hf, hl, rfl⟩
    · rw [hm, hv, hx, hf]
      rfl

end Stands

/-! ### Runs -/

section

variable (w : Worker) (before rest : List Event) (r : String)

theorem perform_call_of_user {b : Switchboard} {user : String} (hu : b.worker.user = some user) :
    b.perform (.call r) =
      (⟨b.worker.activate r, b.calls ++ [.pending ⟨r, user, none, none, none, none⟩]⟩, .none) := by
  simp [perform, call, Switch.start, Worker.requireUser, hu]

theorem perform_call_of_none {b : Switchboard} (hu : b.worker.user = none) :
    b.perform (.call r) =
      (⟨b.worker, b.calls ++ [.ended (.error .notAuthenticated)]⟩, .none) := by
  simp [perform, call, Switch.start, Worker.requireUser, hu]

theorem asked_call : ((Requests.start w).after (before ++ .call r :: rest)).asked[
      (targets before).length]? =
    some (if (after ⟨w, []⟩ before).worker.user.isSome then some r else none) := by
  have htracks := Requests.tracks w before
  have hcall : ((Requests.start w).after (before ++ [.call r])).asked[(targets before).length]? =
      some (if (after ⟨w, []⟩ before).worker.user.isSome then some r else none) := by
    rw [Requests.after_append, ← htracks.signedIn, ← length_calls w before, ← htracks.asked]
    exact List.getElem?_concat_length
  rw [List.append_cons, Requests.after_append]
  exact Requests.asked_after hcall rest

theorem saidBy_call :
    saidBy (targets before).length (chronicle ⟨w, []⟩ (before ++ [.call r])) = [] := by
  have htold := told w before (targets before).length
  rw [List.getElem?_eq_none (Nat.le_of_eq (length_calls w before))] at htold
  rw [chronicle_snoc, saidBy_append, saidBy_utterances, if_neg (by simp [Event.number?]), htold]
  rfl

theorem stands {user : String} (hu : (after ⟨w, []⟩ before).worker.user = some user) :
    let es := before ++ .call r :: rest
    let i := (targets before).length
    Stands r user ((Requests.start w).after es) i
      (whenAnswered ⟨w, []⟩ (Requests.start w) i [.metadata, .vertices] es)
      (whenAnswered ⟨w, []⟩ (Requests.start w) i [.metadata, .vertices, .edges] es)
      (after ⟨w, []⟩ es).calls[i]? (saidBy i (chronicle ⟨w, []⟩ es)) := by
  intro es i
  induction rest using List.reverseRecOn with
  | nil =>
    have hcalls : (after ⟨w, []⟩ es).calls =
        (after ⟨w, []⟩ before).calls ++ [.pending ⟨r, user, none, none, none, none⟩] := by
      rw [after_snoc, perform_call_of_user r hu]
    have hcall : (after ⟨w, []⟩ es).calls[i]? =
        some (.pending ⟨r, user, none, none, none, none⟩) := by
      have hi : i = (after ⟨w, []⟩ before).calls.length := (length_calls w before).symm
      rw [hcalls, hi, List.getElem?_concat_length]
    rw [hcall, saidBy_call w before r]
    exact .waiting rfl rfl rfl
  | append_singleton rest e ih =>
    have hsnoc : es = (before ++ .call r :: rest) ++ [e] := by simp [es]
    have hnever (endpoints : List Endpoint) (hne : endpoints ≠ []) :
        (Requests.start w).answered i endpoints = false := by
      cases endpoints with
      | nil => exact absurd rfl hne
      | cons endpoint endpoints => rfl
    rw [hsnoc, after_snoc, chronicle_snoc, saidBy_append, whenAnswered_snoc, whenAnswered_snoc,
      Requests.after_append]
    exact ih.next (Requests.tracks w _) (isSome_whenAnswered _ (hnever _ (by simp)) _)
      (isSome_whenAnswered _ (hnever _ (by simp)) _) e

/-- A switch that has ended stays so and keeps silent. -/
theorem ended_after {b : Switchboard} {i : Nat} {result : Except WorkerError Outcome}
    (h : b.calls[i]? = some (.ended result)) (es : List Event) :
    (b.after es).calls[i]? = some (.ended result) ∧ saidBy i (b.chronicle es) = [] := by
  induction es generalizing b with
  | nil => exact ⟨h, rfl⟩
  | cons e es ih =>
    have hfate := fate b e i
    have hstays : (b.perform e).1.calls[i]? = some (.ended result) ∧
        saidBy i (b.utterances e) = [] := by
      generalize (b.perform e).1.calls[i]? = p at hfate ⊢
      generalize saidBy i (b.utterances e) = words at hfate ⊢
      cases hfate with
      | same => exact ⟨h, rfl⟩
      | called _ hi | refused _ hi =>
        rw [List.getElem?_eq_none (Nat.le_of_eq hi.symm)] at h
        cases h
      | settled _ hc => cases h.symm.trans hc
    obtain ⟨hended, hsilent⟩ := ih hstays.1
    refine ⟨hended, ?_⟩
    rw [chronicle, saidBy_append, hstays.2, hsilent, List.append_nil]

end

/-! ### Canvases -/

/-- The canvas of a workspace after a step of the switch with number `i` at `b`, when the requests
were `q` before the step and are `q'` after it.  When the later of metadata and vertices settles and
both are there, the canvas of the workspace that the metadata name is filled, unless that workspace
is on display and the socket does not listen. -/
def canvasDue (b : Switchboard) (q q' : Requests) (i : Nat) (workspaceId : String) : NameSet :=
  match q.answered i [.metadata, .vertices], q'.metadata i, q'.vertices i with
  | false, some (.ok m), some (.ok _) =>
    if (!b.worker.focus.isOn m.workspaceId || b.worker.socketOpen) &&
        m.workspaceId == workspaceId then .ofNames m.vertexIds
    else (b.worker.store.partition workspaceId).onGraph
  | _, _, _ => (b.worker.store.partition workspaceId).onGraph

/-- A switch gets metadata and vertices by the answer that comes later. -/
theorem completed?_of_number {q : Requests} {e : Event} {i : Nat} (he : e.number? = some i) :
    q.completed? e = if q.answered i [.metadata, .vertices] then none
      else (q.next e).complete? i := by
  rw [Requests.completed?, he, Requests.answered_pair]
  cases hm : q.metadata i with
  | none => simp [Requests.complete?, hm]
  | some m =>
    cases hv : q.vertices i with
    | none => simp [Requests.complete?, hm, hv]
    | some v =>
      have hm' := Requests.metadata_next hm e
      have hv' : (q.next e).vertices i = some v := Requests.map_answers_next hv e
      simp only [Requests.complete?, hm, hv, hm', hv']
      -- if one of them failed, it stays so
      cases m <;> cases v <;> rfl

theorem onGraph_step {b : Switchboard} {q : Requests} (hq : q.Tracks b) {e : Event} {i : Nat}
    (he : e.number? = some i) (workspaceId : String) :
    ((b.perform e).1.worker.store.partition workspaceId).onGraph =
      b.canvasDue q (q.next e) i workspaceId := by
  rw [onGraph_perform hq e workspaceId, seeding?, completed?_of_number he, canvasDue]
  cases q.answered i [.metadata, .vertices] with
  | true => rfl
  | false =>
    simp only [Bool.false_eq_true, if_false, Requests.complete?]
    cases (q.next e).metadata i with
    | none => rfl
    | some m =>
      cases (q.next e).vertices i with
      | none => cases m <;> rfl
      | some v =>
        cases m with
        | error error => cases v <;> rfl
        | ok m =>
          cases v with
          | error error => rfl
          | ok v =>
            dsimp only
            cases b.worker.focus.isOn m.workspaceId <;> cases b.worker.socketOpen <;>
              cases hm : m.workspaceId == workspaceId <;> simp [Option.filter, hm]

/-! ### What a call comes to -/

/-- The call with number `i` is refused. -/
structure Refused (w : Worker) (es : List Event) (i : Nat) : Prop where
  /-- It returns at once. -/
  result : (after ⟨w, []⟩ es).result? i = some (.error .notAuthenticated)
  /-- The server is asked nothing. -/
  asked : ((Requests.start w).after es).asked[i]? = some none
  /-- So no response to it means anything. -/
  deaf : ∀ endpoint response,
    (after ⟨w, []⟩ es).perform (.settle i endpoint response) = (after ⟨w, []⟩ es, .none)
  /-- It announces nothing. -/
  silent : saidBy i (chronicle ⟨w, []⟩ es) = []

/-- The call with number `i`, for workspace `r`, goes its way. -/
structure Conducted (w : Worker) (es : List Event) (i : Nat) (r user : String) : Prop where
  /-- The server is asked about the workspace. -/
  asked : ((Requests.start w).after es).asked[i]? = some (some r)
  /-- The call returns when all three requests have settled, and not before. -/
  returns : ((after ⟨w, []⟩ es).result? i).isSome =
    ((Requests.start w).after es).answered i [.metadata, .vertices, .edges]
  /-- It returns what is due. -/
  result : ∀ metadata vertices edges,
    ((Requests.start w).after es).metadata i = some metadata →
    ((Requests.start w).after es).vertices i = some vertices →
    ((Requests.start w).after es).edges i = some edges →
    ∃ first last,
      whenAnswered ⟨w, []⟩ (Requests.start w) i [.metadata, .vertices] es = some first ∧
      whenAnswered ⟨w, []⟩ (Requests.start w) i [.metadata, .vertices, .edges] es = some last ∧
      (after ⟨w, []⟩ es).result? i = some (Switch.due r metadata vertices edges first last)
  /-- It announces what is due. -/
  said : saidBy i (chronicle ⟨w, []⟩ es) =
    Switch.openingDue user (((Requests.start w).after es).metadata i)
        (((Requests.start w).after es).vertices i)
        (whenAnswered ⟨w, []⟩ (Requests.start w) i [.metadata, .vertices] es) ++
      Switch.edgesDue ((after ⟨w, []⟩ es).result? i) (((Requests.start w).after es).edges i)
  /-- Its steps fill the canvas that is due, and no other one. -/
  canvas : ∀ before e after', es = before ++ e :: after' → e.number? = some i → ∀ workspaceId,
    ((after ⟨w, []⟩ (before ++ [e])).worker.store.partition workspaceId).onGraph =
      (after ⟨w, []⟩ before).canvasDue ((Requests.start w).after before)
        ((Requests.start w).after (before ++ [e])) i workspaceId

theorem refused (w : Worker) (before rest : List Event) (r : String)
    (hu : (after ⟨w, []⟩ before).worker.user = none) :
    Refused w (before ++ .call r :: rest) (targets before).length := by
  have hcall : (after ⟨w, []⟩ (before ++ [.call r])).calls[(targets before).length]? =
      some (.ended (.error .notAuthenticated)) := by
    rw [after_snoc, perform_call_of_none r hu, ← length_calls w before,
      List.getElem?_concat_length]
  obtain ⟨hended, hsilent⟩ := ended_after hcall rest
  rw [← after_append, ← List.append_cons] at hended
  have hasked := asked_call w before rest r
  rw [hu] at hasked
  refine ⟨?_, hasked, fun endpoint response => ?_, ?_⟩
  · rw [result?_eq, hended]
    rfl
  · have hclosed : ((Requests.start w).after (before ++ .call r :: rest)).open?
        (targets before).length endpoint = none := by
      unfold Requests.open?
      split
      · rw [hasked]
        rfl
      · rfl
    exact settle_of_closed (Requests.tracks w _) hclosed response
  · rw [List.append_cons, chronicle_append, saidBy_append, saidBy_call, hsilent]
    rfl

/-- A call by somebody who is signed in goes its way, whatever comes after it. -/
theorem conducted (w : Worker) (before rest : List Event) (r : String) {user : String}
    (hu : (after ⟨w, []⟩ before).worker.user = some user) :
    Conducted w (before ++ .call r :: rest) (targets before).length r user := by
  have hfollows := (Requests.tracks w (before ++ .call r :: rest)).follows (targets before).length
  obtain ⟨hreturns, hresult, hsaid⟩ := (stands w before rest r hu).outcome hfollows
  simp only [← result?_eq] at hreturns hresult hsaid
  have hasked := asked_call w before rest r
  rw [hu] at hasked
  refine ⟨hasked, hreturns, hresult, hsaid, ?_⟩
  intro p e q _ he workspaceId
  rw [after_snoc, Requests.after_append]
  exact onGraph_step (Requests.tracks w p) he workspaceId

/-- **What a call comes to.**  A call sends nothing by itself.  If nobody is signed in it is
refused, and nothing else comes of it, whatever follows.  Otherwise it puts its workspace on display
and asks the server for metadata, vertices and edges.  It returns when all three have settled, and
not before: with the error of the metadata if they failed, or else that of the vertices, or else,
if the workspace that the metadata name was on display when metadata and vertices were there and
the socket was closed, with that, or else with the error of the edges; and if there was no error, as
superseded when one of the two workspaces was not on display at its moment, and as loaded
otherwise.  By then it has announced the workspace of the metadata, if that was on display and the
socket open, and its edges, if it returns as loaded, and nothing else; and it has filled the canvas
of that workspace unless it was on display and the socket closed, and no other canvas.  All this
holds whatever other switches do and whatever is put on display in the meantime. -/
theorem switch_outcome (w : Worker) (before rest : List Event) (r : String) :
    let b := after ⟨w, []⟩ before
    let es := before ++ .call r :: rest
    let i := (targets before).length
    (b.perform (.call r)).2 = .none ∧
    match b.worker.user with
    | none => (b.perform (.call r)).1.worker = b.worker ∧ Refused w es i
    | some user =>
      (b.perform (.call r)).1.worker = b.worker.activate r ∧ Conducted w es i r user := by
  intro b es i
  split
  next hu =>
    rw [perform_call_of_none r hu]
    exact ⟨rfl, rfl, refused w before rest r hu⟩
  next user hu =>
    rw [perform_call_of_user r hu]
    exact ⟨rfl, rfl, conducted w before rest r hu⟩

/-- Responses to a switch for `w1`: the socket closes after the announcement, and the edges do not
come. -/
def withoutEdges : List Event :=
  [.settle 0 .vertices (.ok (.obj [])), .settle 0 .metadata (.ok (metadataOf "w1")), .closeSocket,
    .settle 0 .edges (.error .transport)]

/-- The theorem applies to a call whose edges fail after its announcement, and to one that nobody
is signed in for. -/
theorem switch_outcome_withoutEdges :
    let es := .call "w1" :: withoutEdges
    Conducted signedIn es 0 "w1" "u1" ∧
      (after ⟨signedIn, []⟩ es).result? 0 = some (.error .transport) ∧
      saidBy 0 (chronicle ⟨signedIn, []⟩ es) =
        opening ⟨"w1", "w1", none, none, false, [], [], .empty⟩ "u1" [] ∧
      Refused (Worker.new .default) es 0 := by
  intro es
  have hconducted : Conducted signedIn es 0 "w1" "u1" :=
    (switch_outcome signedIn [] withoutEdges "w1").2.2
  have hrefused : Refused (Worker.new .default) es 0 :=
    (switch_outcome (Worker.new .default) [] withoutEdges "w1").2.2
  exact ⟨hconducted, by decide +kernel, by decide +kernel, hrefused⟩

end Switchboard

end GraphStore
