import GraphStore.Proofs.Store.Room

/-!
# Responses that arrive in either order

Responses are asked for one after another, but they arrive as they please.  As long as two of them
have no entity in common, and there is room for the entities of both, each finds the records of its
own entities as they were, whether the other one came first or not.  So each is answered alike, and
the same is held in the end.

* `Store.SameUnder` : two stores have the same records under some ids.  Batches with entities of
  these ids do the same to both (`Store.SameUnder.takeIn`).
* `Store.Settled.sameUnder_takeIn` : batches leave the records of other ids as they are.
* `Store.Settled.takeIn_comm` : batches without common ids can be taken in in either order.
* `Store.Reachable.either_order` : the same for responses.
-/

namespace GraphStore

variable {settings : StoreSettings} {k : Kind}

/-- No entity is brought by both. -/
def Batch.Apart (bs cs : List Batch) : Prop :=
  ∀ k, ∀ x ∈ entitiesOf k bs, ∀ y ∈ entitiesOf k cs, x.id ≠ y.id

theorem Batch.Apart.symm {bs cs : List Batch} (h : Apart bs cs) : Apart cs bs :=
  fun k x hx y hy heq => h k y hy x hx heq.symm

namespace Store

/-- The stores take in entities by the same rules, and have for a workspace the same records under
some ids. -/
structure SameUnder (w : String) (ids : Kind → String → Prop) (s t : Store) : Prop where
  /-- The settings are the same. -/
  settings : s.settings = t.settings
  /-- Departures are observed in both stores or in none. -/
  observed : s.observed = t.observed
  /-- The records are the same. -/
  find? : ∀ k id, ids k id →
    ((s.partition w).cache k).find? id = ((t.partition w).cache k).find? id

namespace SameUnder

variable {w : String} {ids : Kind → String → Prop} {s t : Store} {bs cs : List Batch}

theorem policy (h : SameUnder w ids s t) : s.policy = t.policy := by
  simp only [Store.policy, h.observed]

/-- A batch with entities of these ids does the same to both stores, if there is room in both. -/
theorem cacheBatch (h : SameUnder w ids s t) (hs : s.Settled settings) (ht : t.Settled settings)
    (focus : Focus) {batch : List (Entity k)} (hids : ∀ e ∈ batch, ids k e.id)
    (hroom : ¬ s.Overflows w [⟨k, batch⟩]) (hroom' : ¬ t.Overflows w [⟨k, batch⟩]) :
    SameUnder w ids (s.cacheBatch focus w k batch).1 (t.cacheBatch focus w k batch).1 ∧
      (s.cacheBatch focus w k batch).2 = (t.cacheBatch focus w k batch).2 := by
  rw [overflows_batch, h.settings, h.policy] at hroom
  rw [overflows_batch] at hroom'
  have hkept := hs.kept_self w k
  rw [h.settings] at hkept
  obtain ⟨⟨htally, hupdated, hdepartures⟩, hafter⟩ :=
    Intake.takeAll_congr hkept (ht.kept_self w k) t.policy_priority t.policy_lasting hroom hroom'
      fun e he => h.find? k e.id (hids e he)
  refine ⟨⟨h.settings, h.observed, fun l id hid => ?_⟩, ?_⟩
  · by_cases hl : l = k
    · subst hl
      rw [cache_cacheBatch, cache_cacheBatch, h.settings, h.policy]
      exact hafter id (h.find? l id hid)
    · have hother (u : Store) : ((u.cacheBatch focus w k batch).1.partition w).cache l =
          (u.partition w).cache l := u.cache_withCache w w l _ (.inr hl)
      rw [hother, hother]
      exact h.find? l id hid
  · rw [cacheBatch_eq_book, cacheBatch_eq_book, h.settings, h.policy]
    simp only [book, htally, hupdated, hdepartures]

/-- Batches with entities of these ids do the same to both stores, if there is room in both. -/
theorem takeIn (h : SameUnder w ids s t) (hs : s.Settled settings) (ht : t.Settled settings)
    (focus : Focus) (hids : ∀ k, ∀ e ∈ Batch.entitiesOf k bs, ids k e.id)
    (hroom : ¬ s.Overflows w bs) (hroom' : ¬ t.Overflows w bs) :
    SameUnder w ids (s.takeIn focus w bs).1 (t.takeIn focus w bs).1 ∧
      (s.takeIn focus w bs).2 = (t.takeIn focus w bs).2 := by
  induction bs generalizing s t with
  | nil => exact ⟨h, rfl⟩
  | cons b bs ih =>
    rw [overflows_cons _ focus, not_or] at hroom hroom'
    have hbring (k : Kind) : (∀ e ∈ Batch.entitiesOf k [b], ids k e.id) ∧
        ∀ e ∈ Batch.entitiesOf k bs, ids k e.id :=
      List.forall_mem_append.1 (Batch.entitiesOf_append k [b] bs ▸ hids k)
    have hfirst := (hbring b.kind).1
    rw [Batch.entitiesOf_singleton] at hfirst
    obtain ⟨hsame, htold⟩ := h.cacheBatch hs ht focus hfirst hroom.1 hroom'.1
    obtain ⟨hsame', htold'⟩ := ih hsame (hs.cacheBatch focus w b.entities).1
      (ht.cacheBatch focus w b.entities).1 (fun k => (hbring k).2) hroom.2 hroom'.2
    refine ⟨hsame', ?_⟩
    simp only [takeIn_cons, htold, htold']

end SameUnder

namespace Settled

variable {s : Store} {bs cs : List Batch}

/-- Where there is room, batches leave the records of other ids as they are. -/
theorem sameUnder_takeIn (h : s.Settled settings) (focus : Focus) {w : String}
    (hroom : ¬ s.Overflows w bs) :
    SameUnder w (fun k id => id ∉ (Batch.entitiesOf k bs).map Entity.id) s
      (s.takeIn focus w bs).1 := by
  have htakes (k : Kind) := s.takes_takeIn focus w k bs
  refine ⟨(htakes .vertex).settings.symm, (htakes .vertex).observed.symm, fun k id hid => ?_⟩
  rw [(htakes k).cache]
  have hkind := fun hover => hroom ⟨k, hover⟩
  exact (Intake.find?_takeAll_of_not_mem (h.kept_self w k) s.policy_priority s.policy_lasting
    hkind hid).symm

/-- Batches do the same whether or not other batches have come before that have no entity in
common with them. -/
theorem takeIn_after (h : s.Settled settings) (focus : Focus) {w : String}
    (hapart : Batch.Apart bs cs) (hroom : ¬ s.Overflows w bs)
    (hroom' : ¬ s.Overflows w (cs ++ bs)) :
    SameUnder w (fun k id => id ∉ (Batch.entitiesOf k cs).map Entity.id) (s.takeIn focus w bs).1
        ((s.takeIn focus w cs).1.takeIn focus w bs).1 ∧
      (s.takeIn focus w bs).2 = ((s.takeIn focus w cs).1.takeIn focus w bs).2 := by
  rw [s.overflows_append focus, not_or] at hroom'
  refine (h.sameUnder_takeIn focus hroom'.1).takeIn h (h.takeIn focus w cs).1 focus
    (fun k e he hid => ?_) hroom hroom'.2
  obtain ⟨e', he', heq⟩ := List.mem_map.1 hid
  exact hapart k e he e' he' heq.symm

/-- **Batches without common entities commute.** -/
theorem takeIn_comm (h : s.Settled settings) (focus : Focus) {w : String}
    (hapart : Batch.Apart bs cs) (hroom : ¬ s.Overflows w (bs ++ cs))
    (hroom' : ¬ s.Overflows w (cs ++ bs)) :
    ((s.takeIn focus w cs).1.takeIn focus w bs).2 = (s.takeIn focus w bs).2 ∧
      ((s.takeIn focus w bs).1.takeIn focus w cs).2 = (s.takeIn focus w cs).2 ∧
      ∀ k id, ((((s.takeIn focus w bs).1.takeIn focus w cs).1.partition w).cache k).find? id =
        ((((s.takeIn focus w cs).1.takeIn focus w bs).1.partition w).cache k).find? id := by
  have hboth := not_or.1 (mt (s.overflows_append focus w bs cs).2 hroom)
  have hboth' := not_or.1 (mt (s.overflows_append focus w cs bs).2 hroom')
  obtain ⟨hsame, htold⟩ := h.takeIn_after focus hapart hboth.1 hroom'
  obtain ⟨hsame', htold'⟩ := h.takeIn_after focus hapart.symm hboth'.1 hroom
  refine ⟨htold.symm, htold'.symm, fun k id => ?_⟩
  by_cases hid : id ∈ (Batch.entitiesOf k cs).map Entity.id
  · -- the other batches leave the record alone, so they may come before or after
    have hother : id ∉ (Batch.entitiesOf k bs).map Entity.id := by
      intro hid'
      obtain ⟨y, hy, rfl⟩ := List.mem_map.1 hid
      obtain ⟨x, hx, heq⟩ := List.mem_map.1 hid'
      exact hapart k x hx y hy heq
    have hlast := ((h.takeIn focus w cs).1.sameUnder_takeIn focus hboth'.2).find? k id hother
    exact (hsame'.find? k id hother).symm.trans hlast
  · have hlast := ((h.takeIn focus w bs).1.sameUnder_takeIn focus hboth.2).find? k id hid
    exact hlast.symm.trans (hsame.find? k id hid)

end Settled

/-! ### What else a store has -/

section

variable (s : Store) (focus : Focus) (w : String) (bs cs : List Batch)

theorem agreeOn_comm {v : String} (hv : v ≠ w) :
    AgreeOn v ((s.takeIn focus w bs).1.takeIn focus w cs).1
      ((s.takeIn focus w cs).1.takeIn focus w bs).1 := by
  have hboth := ((s.takeIn focus w bs).1.agreeOn_takeIn focus hv cs).trans
    (s.agreeOn_takeIn focus hv bs)
  have hboth' := ((s.takeIn focus w cs).1.agreeOn_takeIn focus hv bs).trans
    (s.agreeOn_takeIn focus hv cs)
  exact hboth.trans hboth'.symm

theorem isSome_partition?_comm (v : String) :
    (((s.takeIn focus w bs).1.takeIn focus w cs).1.partition? v).isSome =
      (((s.takeIn focus w cs).1.takeIn focus w bs).1.partition? v).isSome := by
  by_cases hv : v = w
  · rw [hv]
    simp only [isSome_partition?_takeIn, Bool.or_right_comm]
  · rw [(s.agreeOn_comm focus w bs cs hv).partition?]

/-- The canvases are the same, whatever comes first. -/
theorem onGraph?_comm (v : String) :
    ((s.takeIn focus w bs).1.takeIn focus w cs).1.onGraph? v =
      ((s.takeIn focus w cs).1.takeIn focus w bs).1.onGraph? v := by
  simp only [onGraph?_eq, s.isSome_partition?_comm focus w bs cs v, onGraph_takeIn]

end

namespace Reachable

variable {s : Store}

/-- **Responses may arrive in either order.**  No entity is found in both of two responses, and in
neither order does taking them in cost an entity its place; when all departures are told, this is to
say that none for want of room is.  Then each response is counted alike and shows the same messages
and departures, whether it arrives first or last.  In the end, whatever the order, the same entities
are held for every workspace, the same vertices are on every canvas, and the same workspaces have a
partition. -/
theorem either_order (h : Reachable settings s) (focus : Focus) (w : String) {a b : Json}
    (hapart : ∀ k, ∀ x ∈ ((Findings.of a).batches k).flatten,
      ∀ y ∈ ((Findings.of b).batches k).flatten, x.id ≠ y.id) :
    let firstA := s.absorb focus w a
    let thenB := firstA.1.absorb focus w b
    let firstB := s.absorb focus w b
    let thenA := firstB.1.absorb focus w a
    (s.Watched →
      (s.Overflows w (Batch.ofResponse a ++ Batch.ofResponse b) ↔
        ∃ dep ∈ firstA.2.2.departures ++ thenB.2.2.departures, dep.cause = .capacity) ∧
      (s.Overflows w (Batch.ofResponse b ++ Batch.ofResponse a) ↔
        ∃ dep ∈ firstB.2.2.departures ++ thenA.2.2.departures, dep.cause = .capacity)) ∧
    (¬ s.Overflows w (Batch.ofResponse a ++ Batch.ofResponse b) →
      ¬ s.Overflows w (Batch.ofResponse b ++ Batch.ofResponse a) →
      (thenA.2 = firstA.2 ∧ thenB.2 = firstB.2) ∧
      (∀ v, (∀ k id, thenB.1.held? v k id = thenA.1.held? v k id) ∧
        thenB.1.onGraph? v = thenA.1.onGraph? v ∧
        (thenB.1.partition? v).isSome = (thenA.1.partition? v).isSome) ∧
      (firstA.2.2.sent ++ thenB.2.2.sent).Perm (firstB.2.2.sent ++ thenA.2.2.sent) ∧
      (firstA.2.2.departures ++ thenB.2.2.departures).Perm
        (firstB.2.2.departures ++ thenA.2.2.departures)) := by
  intro firstA thenB firstB thenA
  have hsettled := h.settled
  have hfirstA : firstA = s.takeIn focus w (Batch.ofResponse a) := s.absorb_eq focus w a
  have hfirstB : firstB = s.takeIn focus w (Batch.ofResponse b) := s.absorb_eq focus w b
  have hthenB : thenB = firstA.1.takeIn focus w (Batch.ofResponse b) :=
    firstA.1.absorb_eq focus w b
  have hthenA : thenA = firstB.1.takeIn focus w (Batch.ofResponse a) :=
    firstB.1.absorb_eq focus w a
  refine ⟨fun hwatched => ?_, fun hroom hroom' => ?_⟩
  · rw [hwatched.overflows_iff hsettled focus, hwatched.overflows_iff hsettled focus,
      takeIn_append, takeIn_append, hthenA, hthenB, hfirstA, hfirstB]
    exact ⟨.rfl, .rfl⟩
  · have hbatches : Batch.Apart (Batch.ofResponse a) (Batch.ofResponse b) := by
      intro k
      rw [Batch.entitiesOf_ofResponse, Batch.entitiesOf_ofResponse]
      exact hapart k
    obtain ⟨hA, hB, hfind⟩ := hsettled.takeIn_comm focus hbatches hroom hroom'
    rw [hthenA, hthenB, hfirstA, hfirstB]
    refine ⟨⟨hA, hB⟩, fun v => ⟨fun k id => ?_, ?_, ?_⟩, ?_, ?_⟩
    · by_cases hv : v = w
      · have hkept := ((hsettled.takeIn focus w (Batch.ofResponse a)).1.takeIn focus w
          (Batch.ofResponse b)).1.kept w k
        have hkept' := ((hsettled.takeIn focus w (Batch.ofResponse b)).1.takeIn focus w
          (Batch.ofResponse a)).1.kept w k
        rw [hv, held?, held?, hkept.peek_eq, hkept'.peek_eq, hfind k id]
      · -- neither response is about another workspace
        rw [held?, held?, (s.agreeOn_comm focus w _ _ hv).partition]
    · exact s.onGraph?_comm focus w _ _ v
    · exact s.isSome_partition?_comm focus w _ _ v
    · rw [hA, hB]
      exact List.perm_append_comm
    · rw [hA, hB]
      exact List.perm_append_comm

/-- A vertex as it is sent. -/
def sentVertex (id status : String) : Json :=
  .obj [("id", .str id), ("properties", .arr []), ("sandboxStatus", .str status)]

/-- An edge as it is sent. -/
def sentEdge (id : String) : Json :=
  .obj [("id", .str id), ("label", .str "knows"), ("source", .str "v1"), ("target", .str "v2"),
    ("type", .str "edge")]

/-- A response with two vertices and an edge. -/
def neighbours : Json :=
  .obj [("edges", .arr [sentEdge "e1"]),
    ("vertices", .arr [sentVertex "v1" "PUBLIC_CHANGED", sentVertex "v2" "PUBLIC"])]

/-- A response that is a vertex and has an edge in it, under the id of a vertex of the other
response. -/
def related : Json :=
  .obj [("edges", .arr [sentEdge "v1"]), ("id", .str "v3"), ("properties", .arr []),
    ("sandboxStatus", .str "PUBLIC")]

/-- The theorem applies to responses that both bring an update. -/
theorem either_order_neighbours :
    let s := ((Desk.new ⟨3, ["score"]⟩ true).run
      [.cache "w1" .vertex [.vertex "v1" .published, .vertex "v3" .unpublished]]).1.store
    let focus := Focus.none.set "w1"
    let firstA := s.absorb focus "w1" neighbours
    let thenB := firstA.1.absorb focus "w1" related
    let firstB := s.absorb focus "w1" related
    let thenA := firstB.1.absorb focus "w1" neighbours
    Reachable ⟨3, ["score"]⟩ s ∧
      (∀ k, ∀ x ∈ ((Findings.of neighbours).batches k).flatten,
        ∀ y ∈ ((Findings.of related).batches k).flatten, x.id ≠ y.id) ∧
      ¬ s.Overflows "w1" (Batch.ofResponse neighbours ++ Batch.ofResponse related) ∧
      ¬ s.Overflows "w1" (Batch.ofResponse related ++ Batch.ofResponse neighbours) ∧
      firstA.2.1 = ⟨2, 0, 1, true⟩ ∧ thenA.2 = firstA.2 ∧
      firstB.2.1 = ⟨1, 0, 1, true⟩ ∧ thenB.2 = firstB.2 ∧
      thenB.1.held? "w1" .vertex "v3" = thenA.1.held? "w1" .vertex "v3" := by
  intro s focus firstA thenB firstB thenA
  have hreachable : Reachable ⟨3, ["score"]⟩ s :=
    run (d := Desk.new ⟨3, ["score"]⟩ true) (.new true) _
  have hwatched : s.Watched :=
    Desk.watched_run (d := Desk.new ⟨3, ["score"]⟩ true) (.new _) (.new _ true) _
  have hapart : ∀ k, ∀ x ∈ ((Findings.of neighbours).batches k).flatten,
      ∀ y ∈ ((Findings.of related).batches k).flatten, x.id ≠ y.id := by
    intro k
    cases k with
    | vertex => decide +kernel
    | edge => decide +kernel
  obtain ⟨htold, horder⟩ := either_order hreachable focus "w1" hapart
  have hroom : ¬ s.Overflows "w1" (Batch.ofResponse neighbours ++ Batch.ofResponse related) := by
    rw [(htold hwatched).1]
    decide +kernel
  have hroom' : ¬ s.Overflows "w1" (Batch.ofResponse related ++ Batch.ofResponse neighbours) := by
    rw [(htold hwatched).2]
    decide +kernel
  obtain ⟨⟨hA, hB⟩, hsame, -⟩ := horder hroom hroom'
  exact ⟨hreachable, hapart, hroom, hroom', by decide +kernel, hA, by decide +kernel, hB,
    (hsame "w1").1 .vertex "v3"⟩

end Reachable

end Store

end GraphStore
