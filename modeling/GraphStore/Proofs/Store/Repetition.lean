import GraphStore.Proofs.Store.Room
import GraphStore.Proofs.Store.Verbatim

/-!
# Entities that come again

Responses repeat what earlier responses said, in another order and with other scores.  As long as
there was room for the entities when they came, they are all held when they come again, so that
nothing is put into the cache, and nothing is told.

* `Entity.AgreeBut` : entities that differ in fields of some names at most, declared fields apart.
  Without these fields they are the same (`Entity.AgreeBut.strip_eq`).
* `Store.Intake.exists_same_takeAll` : where there is room, what is taken in is held afterwards.
* `Store.Intake.takeAll_of_held` : what is held already leaves the cache as it is.
* `Store.Reachable.repeated_unchanged` : entities that come again leave the whole store as it is.
-/

namespace GraphStore

variable {settings : StoreSettings} {policy : Policy} {k : Kind}

/-! ### Fields that vary without meaning -/

namespace Entity

/-- The entities are the same, but that fields of some names, other than the declared ones, may be
there or not, with one value or another. -/
structure AgreeBut (names : List String) (a b : Entity k) : Prop where
  /-- They have the same id. -/
  id : a.id = b.id
  /-- They have the same declared fields. -/
  body : a.body = b.body
  /-- They have the same other fields. -/
  extra : ∀ name, name ∉ names → a.extra.get? name = b.extra.get? name

namespace AgreeBut

variable {names : List String} {a b c : Entity k}

theorem symm (h : a.AgreeBut names b) : b.AgreeBut names a :=
  ⟨h.id.symm, h.body.symm, fun name hname => (h.extra name hname).symm⟩

theorem trans (h : a.AgreeBut names b) (h' : b.AgreeBut names c) : a.AgreeBut names c :=
  ⟨h.id.trans h'.id, h.body.trans h'.body,
    fun name hname => (h.extra name hname).trans (h'.extra name hname)⟩

theorem withField {name : String} (hname : name ∈ names) (e : Entity k) (value : Json) :
    (e.withField name value).AgreeBut names e := by
  refine ⟨rfl, rfl, fun other hother => ?_⟩
  have hne : other ≠ name := fun heq => hother (heq ▸ hname)
  rw [Entity.withField, SortedMap.get?_insert, if_neg hne]

theorem strip_eq (h : a.AgreeBut names b) : a.strip names = b.strip names := by
  have hextra : a.extra.eraseAll names = b.extra.eraseAll names := by
    refine SortedMap.ext_get? fun name => ?_
    rw [SortedMap.get?_eraseAll, SortedMap.get?_eraseAll]
    split
    · rfl
    next hname => exact h.extra name hname
  simp only [strip, hextra, h.id, h.body]

end AgreeBut

end Entity

namespace Store

/-! ### Taking in what is held -/

namespace Intake

variable {c : Cache (Entity k)} {es : List (Entity k)}

/-- Where there is room, each of several entities is held afterwards, or an equal one is. -/
theorem exists_same_takeAll (h : c.Kept settings) (hhigh : policy.priority = .high)
    (hp : policy.Lasting) (hroom : ¬ Overflows settings policy c es)
    (hids : (es.map Entity.id).Nodup) : ∀ e ∈ es,
      ∃ r, (takeAll settings policy c es).cache.find? e.id = some r ∧
        r.value.same (e.strip settings.volatileFields) = true := by
  induction es generalizing c with
  | nil => exact List.forall_mem_nil _
  | cons e es ih =>
    obtain ⟨hone, hrest⟩ := not_overflows_cons hroom
    obtain ⟨hfresh, hids⟩ := List.nodup_cons.1 hids
    have hkept := kept_takeAll h hhigh hp [e]
    rw [takeAll_cons c e es]
    refine List.forall_mem_cons.2 ⟨?_, ih hkept hrest hids⟩
    -- the others leave the record of the first one alone
    obtain ⟨c', departures, hleads, htake⟩ := takeAll_singleton h hhigh hp e
    have hstays := find?_takeAll_of_not_mem hkept hhigh hp hrest hfresh
    rw [followedBy, hstays, htake]
    exact hleads.exists_same h

/-- Entities of which equal copies are held leave the cache as it is. -/
theorem takeAll_of_held (h : c.Kept settings) (hhigh : policy.priority = .high)
    (hp : policy.Lasting) (hheld : ∀ e ∈ es, ∃ r, c.find? e.id = some r ∧
      r.value.same (e.strip settings.volatileFields) = true) :
    takeAll settings policy c es = ⟨c, ⟨0, es.length, 0, false⟩, [], []⟩ := by
  induction es with
  | nil => rfl
  | cons e es ih =>
    obtain ⟨⟨r, hr, hsame⟩, hothers⟩ := List.forall_mem_cons.1 hheld
    have hv : (Turn.of settings c e).verdict = .unchanged :=
      (Turn.verdict_of_some hr).trans (if_pos hsame)
    obtain ⟨c', departures, hleads, htake⟩ := takeAll_singleton h hhigh hp e
    cases hleads.of_unchanged hv
    rw [hv, Turn.judged_singleton, if_neg (by simp [hv])] at htake
    rw [takeAll_cons c e es, htake, ih hothers]
    simp [followedBy, Tally.count, Tally.merge, Tally.zero, Nat.add_comm]

end Intake

/-! ### Batches of what is held -/

variable {s : Store}

theorem withPartition_partition {w : String} (h : (s.partition? w).isSome) :
    s.withPartition w (s.partition w) = s := by
  obtain ⟨p, hp⟩ := Option.isSome_iff_exists.1 h
  have hmap : s.partitions.insert w (s.partition w) = s.partitions := by
    refine SortedMap.ext_get? fun v => ?_
    rw [SortedMap.get?_insert, partition, hp]
    split
    next hv => exact (hv ▸ hp).symm
    · rfl
  rw [withPartition, hmap]

theorem withCache_cache (p : Partition) : p.withCache k (p.cache k) = p := by
  cases k <;> rfl

/-- A batch of entities of which equal copies are held does nothing. -/
theorem Settled.cacheBatch_of_held (h : s.Settled settings) (focus : Focus) {w : String}
    (hw : (s.partition? w).isSome) {batch : List (Entity k)}
    (hheld : ∀ e ∈ batch, ∃ r, ((s.partition w).cache k).find? e.id = some r ∧
      r.value.same (e.strip settings.volatileFields) = true) :
    s.cacheBatch focus w k batch = (s, ⟨0, batch.length, 0, false⟩, .none) := by
  rw [← h.settings_eq] at hheld
  have hintake := Intake.takeAll_of_held (h.kept_self w k) s.policy_priority s.policy_lasting hheld
  have hpublish : focus.publish w (.ofKind k []) = [] := publish_ofKind focus w []
  rw [cacheBatch_eq_book, hintake]
  simp only [book, hpublish, withCache_cache, withPartition_partition hw]
  rfl

namespace Reachable

/-- **What comes again changes nothing.**  A batch of entities with distinct ids is taken in without
costing any entity its place; when all departures are told, this is to say that none for want of
room is.  Then let entities of the batch come again, in any order and any number, with whatever
volatile fields.  All of them are unchanged, nothing is sent, no record departs, and the store is
exactly the same: the entities, the order in which they were touched, and the counters of every
cache, and the vertices on every canvas. -/
theorem repeated_unchanged (h : Reachable settings s) (focus : Focus) (w : String)
    {batch : List (Entity k)} (hids : (batch.map Entity.id).Nodup) :
    let first := s.cacheBatch focus w k batch
    (s.Watched → (s.Overflows w [⟨k, batch⟩] ↔
      ∃ dep ∈ first.2.2.departures, dep.cause = .capacity)) ∧
    (¬ s.Overflows w [⟨k, batch⟩] → ∀ (focus' : Focus) (again : List (Entity k)),
      (∀ e ∈ again, ∃ e' ∈ batch, e.AgreeBut settings.volatileFields e') →
      first.1.cacheBatch focus' w k again =
        (first.1, ⟨0, again.length, 0, false⟩, .none)) := by
  intro first
  have hsettled := h.settled
  refine ⟨fun hwatched => ?_, fun hroom focus' again hagain => ?_⟩
  · rw [hwatched.overflows_iff hsettled focus, ← cacheBatch_eq]
  · have hw : (first.1.partition? w).isSome := s.isSome_partition?_cacheBatch focus w batch
    refine (hsettled.cacheBatch focus w batch).1.cacheBatch_of_held focus' hw fun e he => ?_
    obtain ⟨e', he', hagree⟩ := hagain e he
    rw [overflows_batch] at hroom
    have hheld := Intake.exists_same_takeAll (hsettled.kept_self w k) s.policy_priority
      s.policy_lasting hroom hids e' he'
    rw [hagree.id, hagree.strip_eq, s.cache_cacheBatch, ← hsettled.settings_eq]
    exact hheld

/-- Entities that are taken in while there is room for two of them: one that is an update, and a new
one with a score. -/
def offered : List Vertex :=
  [.vertex "v1" .publishedChanged, (Entity.vertex "v2" .published).withField "score" (.int 1)]

/-- They come again with other scores, in another order. -/
def shuffled : List Vertex :=
  [(Entity.vertex "v2" .published).withField "score" (.int 2),
    (Entity.vertex "v1" .publishedChanged).withField "score" (.int 3)]

/-- The theorem applies to a store that holds an older version of one of the entities. -/
theorem repeated_unchanged_shuffled :
    let s := ((Desk.new ⟨2, ["score"]⟩ true).run
      [.cache "w1" .vertex [.vertex "v1" .published], .readOne "w1" "vertex" "v1"]).1.store
    let first := s.cacheBatch (Focus.none.set "w1") "w1" .vertex offered
    Reachable ⟨2, ["score"]⟩ s ∧ (offered.map Entity.id).Nodup ∧
      first.2.1 = ⟨1, 0, 1, true⟩ ∧ ¬ s.Overflows "w1" [⟨.vertex, offered⟩] ∧
      (∀ e ∈ shuffled, ∃ e' ∈ offered, e.AgreeBut ["score"] e') ∧
      first.1.cacheBatch (Focus.none.set "w1") "w1" .vertex shuffled =
        (first.1, ⟨0, 2, 0, false⟩, .none) := by
  intro s first
  have hreachable : Reachable ⟨2, ["score"]⟩ s :=
    run (d := Desk.new ⟨2, ["score"]⟩ true) (.new true) _
  have hwatched : s.Watched :=
    Desk.watched_run (d := Desk.new ⟨2, ["score"]⟩ true) (.new _) (.new _ true) _
  have hids : (offered.map Entity.id).Nodup := by decide
  have hscore : "score" ∈ ["score"] := List.mem_singleton_self _
  have hagain : ∀ e ∈ shuffled, ∃ e' ∈ offered, e.AgreeBut ["score"] e' := by
    refine List.forall_mem_cons.2 ⟨⟨_, .tail _ (.head _), ?_⟩, ?_⟩
    · exact (Entity.AgreeBut.withField hscore _ _).trans (.symm (.withField hscore _ _))
    · exact List.forall_mem_singleton.2 ⟨_, .head _, .withField hscore _ _⟩
  obtain ⟨htold, hrepeated⟩ :=
    repeated_unchanged hreachable (Focus.none.set "w1") "w1" hids
  have hroom : ¬ s.Overflows "w1" [⟨.vertex, offered⟩] := by
    rw [htold hwatched]
    decide +kernel
  exact ⟨hreachable, hids, by decide +kernel, hroom, hagain, hrepeated hroom _ shuffled hagain⟩

end Reachable

end Store

end GraphStore
