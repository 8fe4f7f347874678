import GraphStore.Proofs.Worker.Chronicle

/-!
# Announcements are made for the workspace on display

A switch says little: it announces its workspace to the server and then to the user interface,
later perhaps its edges, and that is all (`Announces`).  Whatever happens in between, each
announcement is made while the workspace it is about is on display (`Signal.Apt`).

The invariant is `Told`, which relates how far a switch has come with what it has said so far; it
is kept by every event (`Switchboard.told`), since a switch that has announced its workspace never
does so again and one that has announced its edges has ended.
-/

namespace GraphStore

open Switch (opening)

/-- The signal fits what is on display when a switch for `target` sends it: it announces the
workspace on display, or its edges when that is the one asked for. -/
def Signal.Apt (display : Option String) (target : String) : Signal → Prop
  | .server (.setActiveWorkspace w _) => display = some w
  | .ui (.workspaceLoaded m _) => display = some m.workspaceId
  | .ui (.edgesLoaded _) => display = some target
  | .ui (.storeObjectsUpdated _) => True

/-- What a switch announces from its start on: nothing, or its workspace, and after that its
edges at most once. -/
inductive Announces : List Signal → Prop
  /-- It keeps silent. -/
  | nothing : Announces []
  /-- It announces a workspace. -/
  | workspace (m user v) : Announces (opening m user v)
  /-- It announces a workspace, then the edges. -/
  | edges (m user v x) : Announces (opening m user v ++ [.ui (.edgesLoaded x)])

/-- What a switch has announced, by how far it has come. -/
def Told : Option Progress → List Signal → Prop
  | none, said => said = []
  | some (.pending c), said =>
    match c.announcement with
    | some (.ok (.spoken m _)) => ∃ user v, said = opening m user v
    | _ => said = []
  | some (.ended (.ok (.loaded m _ _))), said =>
    ∃ user v x, said = opening m user v ++ [.ui (.edgesLoaded x)]
  | some (.ended _), said => said = [] ∨ ∃ m user v, said = opening m user v

theorem Told.pending {c : Switch} {said : List Signal} (h : Told (some (.pending c)) said) :
    said = [] ∨ ∃ m user v, said = opening m user v := by
  simp only [Told] at h
  split at h
  · obtain ⟨user, v, rfl⟩ := h
    exact .inr ⟨_, user, v, rfl⟩
  · exact .inl h

theorem Told.announces {p : Option Progress} {said : List Signal} (h : Told p said) :
    Announces said := by
  have short (h : said = [] ∨ ∃ m user v, said = opening m user v) : Announces said := by
    rcases h with rfl | ⟨m, user, v, rfl⟩
    · exact .nothing
    · exact .workspace m user v
  match p, h with
  | none, h => exact h ▸ .nothing
  | some (.pending c), h => exact short h.pending
  | some (.ended (.ok (.loaded m _ _))), ⟨user, v, x, h⟩ => exact h ▸ .edges m user v x
  | some (.ended (.ok (.superseded _))), h => exact short h
  | some (.ended (.error _)), h => exact short h

namespace Switch

variable {w : Worker} {c : Switch}

/-- A workspace is announced while it is on display. -/
theorem Announced.apt {r : Worker × Switch × Emission} (h : Announced w c r) {s : Signal}
    (hs : s ∈ r.2.2.announcements) (target : String) : s.Apt w.focus.current target := by
  cases h with
  | spoken _ _ _ hf =>
    have hf := beq_iff_eq.1 hf
    simp only [Emission.announcements, opening, List.mem_filter, List.mem_cons,
      List.not_mem_nil, or_false] at hs
    obtain ⟨rfl | rfl, -⟩ := hs <;> exact hf
  | idle | noMetadata | noVertices | withheld | closed => cases hs

theorem Ended.apt {r : Progress × Emission} (h : Ended w c r) {s : Signal}
    (hs : s ∈ r.2.announcements) : s.Apt w.focus.current c.target := by
  cases h with
  | loaded _ _ hf =>
    simp only [Emission.announcements, Emission.sent_ofMessages, List.mem_filter, List.map_cons,
      List.map_nil, List.mem_singleton] at hs
    obtain ⟨rfl, -⟩ := hs
    exact beq_iff_eq.1 hf
  | waiting | failed | noEdges | withheld | overtaken => cases hs

theorem Announced.told {r : Worker × Switch × Emission} (h : Announced w c r) {said : List Signal}
    (ht : Told (some (.pending c)) said) :
    Told (some (.pending r.2.1)) (said ++ r.2.2.announcements) := by
  cases h with
  | idle => simpa using ht
  | spoken ha =>
    simp only [Told, ha] at ht
    subst ht
    exact ⟨_, _, rfl⟩
  | noMetadata ha | noVertices ha | withheld ha | closed ha =>
    simp only [Told, ha] at ht
    subst ht
    rfl

theorem Ended.told {r : Progress × Emission} (h : Ended w c r) {said : List Signal}
    (ht : Told (some (.pending c)) said) : Told (some r.1) (said ++ r.2.announcements) := by
  cases h with
  | waiting => simpa using ht
  | loaded ha =>
    simp only [Told, ha] at ht
    obtain ⟨user, v, rfl⟩ := ht
    exact ⟨user, v, _, rfl⟩
  | failed | noEdges | withheld | overtaken => simpa [Told] using ht.pending

theorem apt_settle {endpoint : Endpoint} {response : Except WorkerError Json} {s : Signal}
    (hs : s ∈ (c.settle w endpoint response).2.2.announcements) :
    s.Apt w.focus.current c.target := by
  obtain ⟨w', c', said, p, last, ha, he, heq⟩ := settle_parts w c endpoint response
  have hfocus := (sameLines_arrive w c endpoint response).focus
  simp only [heq, Emission.announcements_append, announcements_arrive, List.nil_append,
    List.mem_append] at hs
  rcases hs with hs | hs
  · exact hfocus ▸ ha.apt hs c.target
  · have := he.apt hs
    rwa [ha.sameLines.focus, hfocus, ha.target, target_arrive] at this

theorem told_settle {endpoint : Endpoint} {response : Except WorkerError Json}
    {said : List Signal} (ht : Told (some (.pending c)) said) :
    Told (some (c.settle w endpoint response).2.1)
      (said ++ (c.settle w endpoint response).2.2.announcements) := by
  obtain ⟨w', c', spoken, p, last, ha, he, heq⟩ := settle_parts w c endpoint response
  have harrive : Told (some (.pending (arrive w c endpoint response).2.1)) said := by
    simpa only [Told, announcement_arrive] using ht
  have := he.told (ha.told harrive)
  simpa [heq, announcements_arrive] using this

end Switch

namespace Switchboard

/-- Only steps of switches announce anything, and each announcement is apt. -/
theorem apt_utterances {w : Worker} {es : List Event} {e : Event} {u : Utterance}
    (hu : u ∈ (after ⟨w, []⟩ es).utterances e) (ha : u.signal.isAnnouncement = true) :
    ∃ i r, u.speaker = some i ∧ (targets es)[i]? = some r ∧ u.signal.Apt u.display r := by
  simp only [utterances, List.mem_map] at hu
  obtain ⟨s, hs, rfl⟩ := hu
  have hs : s ∈ ((after ⟨w, []⟩ es).perform e).2.announcements := List.mem_filter.2 ⟨hs, ha⟩
  have h := perform_cases (after ⟨w, []⟩ es) e
  generalize (after ⟨w, []⟩ es).perform e = r at h hs
  cases h with
  | called | refused => cases hs
  | other _ _ he => simp [he] at hs
  | settled hc => exact ⟨_, _, rfl, target_of_pending hc, Switch.apt_settle hs⟩

/-- What a switch has announced fits how far it has come. -/
theorem told (w : Worker) (es : List Event) (i : Nat) :
    Told (after ⟨w, []⟩ es).calls[i]? (saidBy i (chronicle ⟨w, []⟩ es)) := by
  induction es using List.reverseRecOn with
  | nil => simp [chronicle, Told]
  | append_singleton es e ih =>
    rw [after_snoc, chronicle_snoc, saidBy_append]
    have hf := fate (after ⟨w, []⟩ es) e i
    generalize ((after ⟨w, []⟩ es).perform e).1.calls[i]? = p at hf ⊢
    generalize saidBy i ((after ⟨w, []⟩ es).utterances e) = said at hf ⊢
    have fresh (hi : i = (after ⟨w, []⟩ es).calls.length) :
        saidBy i (chronicle ⟨w, []⟩ es) = [] := by
      rwa [List.getElem?_eq_none (by omega)] at ih
    cases hf with
    | same => simpa using ih
    | called _ hi => simp [fresh hi, Told]
    | refused _ hi => simp [fresh hi, Told]
    | settled _ hc => exact Switch.told_settle (hc ▸ ih)

/-- Every announcement of a run is apt. -/
theorem apt_chronicle {w : Worker} {es : List Event} {u : Utterance}
    (hu : u ∈ chronicle ⟨w, []⟩ es) (ha : u.signal.isAnnouncement = true) :
    ∃ i r, u.speaker = some i ∧ (targets es)[i]? = some r ∧ u.signal.Apt u.display r := by
  induction es using List.reverseRecOn with
  | nil => cases hu
  | append_singleton es e ih =>
    rw [chronicle_snoc, List.mem_append] at hu
    -- what was said before stays apt, since a call keeps its workspace
    obtain ⟨i, r, hi, hr, hapt⟩ := hu.elim ih fun hu => apt_utterances hu ha
    exact ⟨i, r, hi, targets_snoc hr e, hapt⟩

/-- A worker with a user signed in. -/
def signedIn : Worker := (Worker.new .default).signIn "u1"

/-- Metadata that name a workspace. -/
def metadataOf (workspaceId : String) : Json :=
  .obj [("title", .str workspaceId), ("workspaceId", .str workspaceId)]

/-- A response that lists one edge. -/
def oneEdge : Json := .obj [("edges", .arr [(Entity.edge "e1" "knows" "v1" "v2").write])]

/-- **Announcements are safe in every interleaving.**  Every announcement is made by a switch that
was called for, while the workspace it is about is on display: the workspace itself when it is
announced to the server and to the user interface, and the one asked for when its edges are
announced.  And a switch announces its workspace to the server, then to the user interface, then
perhaps its edges, and nothing else. -/
theorem announcements_safe (w : Worker) (es : List Event) :
    (∀ u ∈ chronicle ⟨w, []⟩ es, u.signal.isAnnouncement = true →
      ∃ i r, u.speaker = some i ∧ (targets es)[i]? = some r ∧ u.signal.Apt u.display r) ∧
    ∀ i, Announces (saidBy i (chronicle ⟨w, []⟩ es)) :=
  ⟨fun _ hu ha => apt_chronicle hu ha, fun i => (told w es i).announces⟩

/-- The theorem applies to the edges of a switch that is left alone. -/
theorem announcements_safe_alone :
    let es : List Event := [.call "w1", .settle 0 .metadata (.ok (metadataOf "w1")),
      .settle 0 .edges (.ok oneEdge), .settle 0 .vertices (.ok (.obj []))]
    let u : Utterance := ⟨some 0, some "w1", .ui (.edgesLoaded [.edge "e1" "knows" "v1" "v2"])⟩
    u ∈ chronicle ⟨signedIn, []⟩ es ∧
      ∃ i r, u.speaker = some i ∧ (targets es)[i]? = some r ∧ u.signal.Apt u.display r := by
  intro es u
  have hu : u ∈ chronicle ⟨signedIn, []⟩ es := by decide +kernel
  exact ⟨hu, (announcements_safe signedIn es).1 u hu rfl⟩

end Switchboard

end GraphStore
