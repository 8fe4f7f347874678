import GraphStore.Proofs.Worker.Arrivals
import GraphStore.Proofs.Worker.Undisturbed

/-!
# Which workspace a switch names

The server may answer a switch with the metadata of another workspace than the one asked for.  The
switch believes the metadata: by the name in them it asks what is on display, announces the
workspace and finds the canvas.  So a switch names the workspace of the metadata answered to it,
and puts vertices on no other canvas (`Switchboard.speaks_as_named`), which is the workspace asked
for exactly if the server keeps to the question.

If the server does not, a switch speaks for a workspace that it was not asked for, as
`Switchboard.speaks_for_other` does for the one that another switch has put on display.
-/

namespace GraphStore

namespace Requests

/-- The workspace named by the metadata that the server answered to a switch. -/
def named? (q : Requests) (number : Nat) : Option String :=
  match q.metadata number with
  | some (.ok m) => some m.workspaceId
  | _ => none

variable {q : Requests} {i : Nat} {r : String} {e : Event}

theorem named?_eq_some :
    q.named? i = some r ↔ ∃ m, q.metadata i = some (.ok m) ∧ m.workspaceId = r := by
  unfold named?
  split
  next m hm => simp [hm]
  next hnot =>
    constructor
    · intro h
      cases h
    · rintro ⟨m, hm, -⟩
      exact absurd hm (hnot m)

theorem named?_after (h : q.named? i = some r) (es : List Event) :
    (q.after es).named? i = some r := by
  obtain ⟨m, hm, hr⟩ := named?_eq_some.1 h
  exact named?_eq_some.2 ⟨m, metadata_after hm es, hr⟩

theorem metadata_of_completed? {m : Workspace} {v : List Vertex} (hi : e.number? = some i)
    (h : q.completed? e = some (m, v)) : (q.next e).metadata i = some (.ok m) := by
  simp only [completed?, hi, Option.ite_none_left_eq_some] at h
  obtain ⟨-, h⟩ := h
  unfold complete? at h
  split at h
  next hm hv =>
    cases h
    exact hm
  next => cases h

end Requests

namespace Switchboard

variable {b : Switchboard} {q : Requests} {e : Event} {i : Nat} {r : String}

/-- A switch names the workspace that the metadata answered to it name. -/
theorem named_of_said (hq : q.Tracks b) {s : Signal} (hs : s ∈ saidBy i (b.utterances e))
    (hr : s.named? = some r) : (q.next e).named? i = some r := by
  have hfollows := hq.follows i
  have hf := fate b e i
  generalize (b.perform e).1.calls[i]? = p at hf
  generalize saidBy i (b.utterances e) = said at hf hs
  cases hf with
  | same | called | refused => cases hs
  | @settled endpoint response c he hc ha =>
    subst he
    rw [hc] at hfollows
    obtain ⟨m, hm, hnamed⟩ := Switch.named_settle hs hr
    rw [Requests.Serves.next_settle hfollows ha]
    exact Requests.named?_eq_some.2 ⟨m, (hfollows.arrive _ _ _).1.symm.trans hm, hnamed⟩

theorem metadata_of_seeding {m : Workspace} (hi : e.number? = some i)
    (h : b.seeding? q e = some m) : (q.next e).metadata i = some (.ok m) := by
  unfold seeding? at h
  split at h
  next m' v hcompleted =>
    split at h
    next => cases h
    next =>
      cases h
      exact Requests.metadata_of_completed? hi hcompleted
  next => cases h

theorem named_of_canvas (hq : q.Tracks b) (hi : e.number? = some i)
    (hne : ((b.perform e).1.worker.store.partition r).onGraph ≠
      (b.worker.store.partition r).onGraph) : (q.next e).named? i = some r := by
  rw [onGraph_perform hq] at hne
  cases hseed : b.seeding? q e with
  | none => simp [hseed] at hne
  | some m =>
    have hr : m.workspaceId = r := by
      by_contra hr
      simp [hseed, Option.filter, hr] at hne
    exact Requests.named?_eq_some.2 ⟨m, metadata_of_seeding hi hseed, hr⟩

/-- **A switch speaks for the workspace that its metadata name.**  Whatever the server answers, a
switch announces no workspace to anybody, and changes no canvas, but the one named by the metadata
answered to it.  When it has metadata and vertices, it may put the vertices of these metadata on
that canvas, which makes a partition for the workspace if there is none; all else that a response
to it does to the store is what taking it in does. -/
theorem speaks_as_named (w : Worker) (es : List Event) (i : Nat) :
    (∀ u ∈ chronicle ⟨w, []⟩ es, u.speaker = some i → ∀ r, u.signal.named? = some r →
        ((Requests.start w).after es).named? i = some r) ∧
      ∀ p e rest, es = p ++ e :: rest → e.number? = some i →
        let b := after ⟨w, []⟩ p
        let q := (Requests.start w).after p
        let taken := (b.worker.desk.reached (q.commands e)).store
        (∀ r, ((after ⟨w, []⟩ (p ++ [e])).worker.store.partition r).onGraph ≠
            (b.worker.store.partition r).onGraph →
          ((Requests.start w).after es).named? i = some r) ∧
        (∀ m, b.seeding? q e = some m →
          ((Requests.start w).after es).metadata i = some (.ok m)) ∧
        (after ⟨w, []⟩ (p ++ [e])).worker.store =
          (b.seeding? q e).elim taken fun m => taken.setOnGraph m.workspaceId m.vertexIds := by
  constructor
  · intro u hu hi r hr
    obtain ⟨p, e, rest, rfl, hmem⟩ := (mem_chronicle _ _).1 hu
    have hsaid : u.signal ∈ saidBy i ((after ⟨w, []⟩ p).utterances e) :=
      mem_saidBy.2 ⟨u, hmem, hi, Signal.isAnnouncement_of_named hr, rfl⟩
    rw [Requests.after_append]
    exact Requests.named?_after (named_of_said (Requests.tracks w p) hsaid hr) rest
  · rintro p e rest rfl hi b q taken
    have hq : q.Tracks b := Requests.tracks w p
    -- a switch keeps the metadata that were answered to it once
    rw [after_snoc, Requests.after_append]
    refine ⟨fun r hne => ?_, fun m hm => ?_, store_perform hq e⟩
    · exact Requests.named?_after (named_of_canvas hq hi hne) rest
    · exact Requests.metadata_after (metadata_of_seeding hi hm) rest

/-- Metadata that name a workspace, with one vertex on its canvas. -/
def metadataWithVertex (workspaceId : String) : Json :=
  .obj [("title", .str workspaceId), ("vertices", .arr [.obj [("vertexId", .str "v1")]]),
    ("workspaceId", .str workspaceId)]

/-- A switch to `w1` is answered with metadata of `w2`, which another switch has put on display;
that one is answered with metadata of `w3`. -/
def answeredForOthers : List Event :=
  [.call "w1", .call "w2", .settle 0 .metadata (.ok (metadataWithVertex "w2")),
    .settle 0 .vertices (.ok (.obj [])), .settle 1 .metadata (.ok (metadataWithVertex "w3")),
    .settle 1 .vertices (.ok (.obj []))]

/-- The theorem applies to a switch that announces `w2` to the server, and to one that puts a vertex
on the canvas of `w3`, for which there was no partition. -/
theorem speaks_as_named_otherwise :
    let es := answeredForOthers
    let b := after ⟨signedIn, []⟩ (es.take 5)
    let b' := after ⟨signedIn, []⟩ es
    let u : Utterance := ⟨some 0, some "w2", .server (.setActiveWorkspace "w2" "u1")⟩
    u ∈ chronicle ⟨signedIn, []⟩ es ∧ ((Requests.start signedIn).after es).named? 0 = some "w2" ∧
      (b'.worker.store.partition "w3").onGraph ≠ (b.worker.store.partition "w3").onGraph ∧
      ((Requests.start signedIn).after es).named? 1 = some "w3" ∧
      b.worker.store.partition? "w3" = none ∧
      b'.worker.store = (b.worker.desk.reached [.absorb "w2" (.obj [])]).store.setOnGraph
        "w3" ["v1"] := by
  intro es b b' u
  have hu : u ∈ chronicle ⟨signedIn, []⟩ es := by decide +kernel
  have hne : (b'.worker.store.partition "w3").onGraph ≠
      (b.worker.store.partition "w3").onGraph := by
    decide +kernel
  obtain ⟨hcanvas, -, hstore⟩ := (speaks_as_named signedIn es 1).2 (es.take 5)
    (.settle 1 .vertices (.ok (.obj []))) [] rfl rfl
  exact ⟨hu, (speaks_as_named signedIn es 0).1 u hu rfl "w2" rfl, hne, hcanvas "w3" hne,
    by decide +kernel, hstore.trans (by decide +kernel)⟩

/-- A switch to `w1` announces `w2` to the server and to the user interface, and puts a vertex on
its canvas. -/
theorem speaks_for_other :
    let b := after ⟨signedIn, []⟩ (answeredForOthers.take 3)
    let b' := after ⟨signedIn, []⟩ (answeredForOthers.take 4)
    (targets answeredForOthers)[0]? = some "w1" ∧
      b.utterances (.settle 0 .vertices (.ok (.obj []))) =
        [⟨some 0, some "w2", .server (.setActiveWorkspace "w2" "u1")⟩,
          ⟨some 0, some "w2", .ui (.workspaceLoaded
            ⟨"w2", "w2", none, none, false, [], [⟨"v1", none⟩], .empty⟩ [])⟩] ∧
      b.worker.store.isOnGraph "w2" "v1" = false ∧
      b'.worker.store.isOnGraph "w2" "v1" = true := by
  decide +kernel

end Switchboard

end GraphStore
