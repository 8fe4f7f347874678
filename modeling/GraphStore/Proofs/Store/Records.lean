import GraphStore.Proofs.Cache.Bounds
import GraphStore.Proofs.Store.Held

/-!
# The records of a store

A store keeps entities by their ids and without their volatile fields, under a policy by which no
record expires.  Every cache of a store that commands can make is kept like this
(`Cache.Kept`, `Store.Reachable.settled`).

* `Store.Reachable.record_invariant` : what holds of every record of every cache; reading lets no
  record depart, and a record departs only for another one, which comes under its key or needs
  its place.
-/

namespace GraphStore

/-- What a record holds: everything but the moment of its last touch. -/
def Record.content {α : Type} (r : Record α) : String × α × Policy := (r.key, r.value, r.policy)

/-- A departure for another record, which came under the same key or took the place. -/
def Cause.Displaced (cause : Cause) : Prop := cause = .replaced ∨ cause = .capacity

/-- All departures are for other records. -/
def Emission.Displaces (e : Emission) : Prop := ∀ d ∈ e.departures, d.cause.Displaced

theorem Emission.Displaces.of_departures_eq_nil {e : Emission} (h : e.departures = []) :
    e.Displaces := by
  rw [Displaces, h]
  exact List.forall_mem_nil _

namespace Cache

/-! ### Records that do not expire -/

section

variable {α : Type} {c : Cache α}

theorem get_of_lasting (hn : c.keys.Nodup) (hl : ∀ r ∈ c.records, r.policy.Lasting) (now : Nat)
    (key : String) :
    (c.get now key).2.2 = [] ∧
      ((c.get now key).1.records.map Record.content).Perm (c.records.map Record.content) := by
  unfold get
  split
  next => exact ⟨rfl, .refl _⟩
  next r hr =>
    obtain rfl := c.key_of_find? hr
    have hmem := c.mem_of_find? hr
    rw [(hl r hmem).expired now]
    refine ⟨rfl, ?_⟩
    have hrest := (c.perm_without hn hmem).map Record.content
    have hback : (((c.without r.key).map Record.content) ++ [r.content]).Perm
        (r.content :: (c.without r.key).map Record.content) :=
      List.perm_append_singleton _ _
    simpa [Record.content] using hback.trans hrest.symm

/-- When no record expires, a record departs for the one that is put in. -/
theorem Inserted.displaced {now : Nat} {key : String} {value : α} {policy : Policy}
    {result : Cache α × List (Departure α)} (hi : Inserted c now key value policy result)
    (hl : ∀ r ∈ c.records, r.policy.Lasting) (hp : policy.Lasting) :
    ∀ d ∈ result.2, d.cause.Displaced := by
  cases hi with
  | replaced =>
    intro d hd
    exact .inl (Record.cause_of_mem_depart hd)
  | added => exact List.forall_mem_nil _
  | @crowded r cause _ _ hv =>
    intro d hd
    have hd' : d.cause = cause := Record.cause_of_mem_depart hd
    obtain ⟨hr, ⟨hexpired, -⟩ | ⟨-, -, rfl⟩⟩ := victim?_cases hv
    · -- neither an older record nor the new one has expired
      exfalso
      rw [records_seat] at hr
      have hlasting : r.policy.Lasting := by
        rcases List.mem_append.1 hr with hold | hnew
        · exact hl r ((c.mem_without).1 hold).1
        · rw [List.mem_singleton.1 hnew]
          exact hp
      rw [hlasting.expired now] at hexpired
      cases hexpired
    · exact .inr hd'

end

end Cache

/-! ### Kept entities -/

variable {settings : StoreSettings} {k : Kind}

/-- A record is kept as the store keeps entities. -/
structure Record.Kept (settings : StoreSettings) (r : Record (Entity k)) : Prop where
  /-- It stands under the id of its entity. -/
  key : r.key = r.value.id
  /-- Its entity has no volatile fields. -/
  stripped : ∀ name ∈ settings.volatileFields, r.value.extra.get? name = none
  /-- It resists as long as it can. -/
  priority : r.policy.priority = .high
  /-- It does not expire. -/
  lasting : r.policy.Lasting

theorem Record.Kept.of_content {r r' : Record (Entity k)} (h : r.Kept settings)
    (hc : r'.content = r.content) : r'.Kept settings := by
  simp only [Record.content, Prod.mk.injEq] at hc
  obtain ⟨hkey, hvalue, hpolicy⟩ := hc
  refine ⟨?_, ?_, ?_, ?_⟩
  · rw [hkey, hvalue]
    exact h.key
  · rw [hvalue]
    exact h.stripped
  · rw [hpolicy]
    exact h.priority
  · rw [hpolicy]
    exact h.lasting

/-- A cache is kept as the store keeps its caches. -/
structure Cache.Kept (settings : StoreSettings) (c : Cache (Entity k)) : Prop where
  /-- It has the capacity of the settings. -/
  capacity : c.capacity = max settings.entityCapacity 1
  /-- Its keys are distinct, and it is not too full. -/
  tidy : c.Tidy
  /-- Its records are kept. -/
  records : ∀ r ∈ c.records, r.Kept settings

namespace Cache.Kept

variable {c : Cache (Entity k)}

theorem new (settings : StoreSettings) (k : Kind) :
    (Cache.new settings.entityCapacity : Cache (Entity k)).Kept settings :=
  ⟨rfl, tidy_new _, List.forall_mem_nil _⟩

theorem lasting (h : c.Kept settings) : ∀ r ∈ c.records, r.policy.Lasting :=
  fun r hr => (h.records r hr).lasting

theorem get (h : c.Kept settings) (now : Nat) (id : String) : (c.get now id).1.Kept settings := by
  have hperm := (get_of_lasting h.tidy.nodup h.lasting now id).2
  refine ⟨(c.capacity_perform now (.get id)).trans h.capacity, h.tidy.get now id, ?_⟩
  intro r hr
  obtain ⟨s, hs, hc⟩ := List.mem_map.1 (hperm.subset (List.mem_map_of_mem hr))
  exact (h.records s hs).of_content hc.symm

/-- An entity is put in under its id, without volatile fields. -/
theorem insert (h : c.Kept settings) (now : Nat) (incoming : Entity k) {policy : Policy}
    (hhigh : policy.priority = .high) (hp : policy.Lasting) :
    (c.insert now incoming.id (incoming.strip settings.volatileFields) policy).1.Kept settings ∧
      ∀ d ∈ (c.insert now incoming.id (incoming.strip settings.volatileFields) policy).2,
        d.cause.Displaced := by
  have hi := h.tidy.insert_cases now incoming.id (incoming.strip settings.volatileFields) policy
  refine ⟨⟨?_, hi.tidy h.tidy, ?_⟩, hi.displaced h.lasting hp⟩
  · exact (c.capacity_insert now incoming.id _ policy).trans h.capacity
  · intro r hr
    rcases hi.mem_records hr with hold | rfl
    · exact h.records r hold
    · refine ⟨rfl, ?_, hhigh, hp⟩
      intro name hname
      change (incoming.extra.eraseAll settings.volatileFields).get? name = none
      rw [SortedMap.get?_eraseAll, if_pos hname]

end Cache.Kept

namespace Store

/-! ### Writing -/

/-- The cache of the intake is kept, and records departed for other ones only. -/
structure Intake.Kept (settings : StoreSettings) (i : Intake k) : Prop where
  /-- The cache is kept. -/
  cache : i.cache.Kept settings
  /-- Records departed for other ones. -/
  displaced : ∀ d ∈ i.departures, d.cause.Displaced

theorem Intake.Taken.kept {policy : Policy} {i i' : Intake k} {incoming : Entity k}
    (ht : Intake.Taken settings policy i incoming i') (h : i.Kept settings)
    (hhigh : policy.priority = .high) (hp : policy.Lasting) : i'.Kept settings := by
  -- a new entity and an updated one are put in alike
  have hput {c departures} (hc : i.cache.insert moment incoming.id
      (incoming.strip settings.volatileFields) policy = (c, departures)) :
      c.Kept settings ∧ ∀ d ∈ i.departures ++ departures, d.cause.Displaced := by
    obtain ⟨hcache, hdisplaced⟩ := h.cache.insert moment incoming hhigh hp
    rw [hc] at hcache hdisplaced
    exact ⟨hcache, List.forall_mem_append.2 ⟨h.displaced, hdisplaced⟩⟩
  cases ht with
  | unchanged => exact ⟨h.cache, h.displaced⟩
  | new _ hc => exact ⟨(hput hc).1, (hput hc).2⟩
  | updated _ _ hc => exact ⟨(hput hc).1, (hput hc).2⟩

theorem Intake.Kept.takeAll {policy : Policy} {i : Intake k} (h : i.Kept settings)
    (hhigh : policy.priority = .high) (hp : policy.Lasting) (es : List (Entity k)) :
    (es.foldl (Intake.take settings policy) i).Kept settings := by
  induction es generalizing i with
  | nil => exact h
  | cons e es ih => exact ih ((Intake.take_cases settings policy i e).kept h hhigh hp)

/-- All caches of a store are kept. -/
structure Settled (settings : StoreSettings) (s : Store) : Prop where
  /-- The store has the settings. -/
  settings_eq : s.settings = settings
  /-- The caches are kept. -/
  kept : ∀ w k, ((s.partition w).cache k).Kept settings

/-- Two stores hold the same records, touched at other times perhaps. -/
def SameRecords (s t : Store) : Prop :=
  ∀ w k, (((t.partition w).cache k).records.map Record.content).Perm
    (((s.partition w).cache k).records.map Record.content)

theorem SameRecords.refl (s : Store) : s.SameRecords s := fun _ _ => .refl _

theorem SameRecords.trans {s t u : Store} (h : s.SameRecords t) (h' : t.SameRecords u) :
    s.SameRecords u :=
  fun w k => (h' w k).trans (h w k)

namespace Settled

variable {s : Store}

theorem new (settings : StoreSettings) (observed : Bool) :
    (Store.new settings observed).Settled settings := by
  refine ⟨rfl, fun w k => ?_⟩
  cases k with
  | vertex => exact .new settings .vertex
  | edge => exact .new settings .edge

theorem observe (h : s.Settled settings) : s.observe.Settled settings := ⟨h.settings_eq, h.kept⟩

theorem withPartition (h : s.Settled settings) (w : String) {p : Partition}
    (hp : ∀ k, (p.cache k).Kept settings) : (s.withPartition w p).Settled settings := by
  refine ⟨h.settings_eq, fun v k => ?_⟩
  rw [partition_withPartition]
  split
  · exact hp k
  · exact h.kept v k

theorem withCache (h : s.Settled settings) (w : String) {c : Cache (Entity k)}
    (hc : c.Kept settings) :
    (s.withPartition w ((s.partition w).withCache k c)).Settled settings := by
  refine h.withPartition w fun l => ?_
  by_cases hl : l = k
  · subst hl
    rw [Partition.cache_withCache]
    exact hc
  · rw [Partition.cache_withCache_of_ne _ c hl]
    exact h.kept w l

variable (focus : Focus) (w : String)

theorem cacheBatch (h : s.Settled settings) (batch : List (Entity k)) :
    (s.cacheBatch focus w k batch).1.Settled settings ∧
      (s.cacheBatch focus w k batch).2.2.Displaces := by
  have hstart : (Intake.start ((s.partition w).cache k)).Kept settings :=
    ⟨h.kept w k, List.forall_mem_nil _⟩
  have hintake := hstart.takeAll s.policy_priority s.policy_lasting batch
  rw [← h.settings_eq] at hintake
  refine ⟨h.withCache w (h.settings_eq ▸ hintake.cache), ?_⟩
  intro d hd
  obtain ⟨e, he, rfl⟩ := List.mem_map.1 hd
  exact hintake.displaced e he

theorem takeIn (h : s.Settled settings) (bs : List Batch) :
    (s.takeIn focus w bs).1.Settled settings ∧ (s.takeIn focus w bs).2.2.Displaces := by
  induction bs generalizing s with
  | nil => exact ⟨h, List.forall_mem_nil _⟩
  | cons b bs ih =>
    obtain ⟨hbatch, hdisplaces⟩ := h.cacheBatch focus w b.entities
    obtain ⟨hrest, hdisplaces'⟩ := ih hbatch
    exact ⟨hrest, List.forall_mem_append.2 ⟨hdisplaces, hdisplaces'⟩⟩

/-! ### Reading -/

theorem readOne (h : s.Settled settings) (k : Kind) (id : String) :
    (s.readOne w k id).1.Settled settings ∧ (s.readOne w k id).2.2.departures = [] ∧
      s.SameRecords (s.readOne w k id).1 := by
  rcases s.readOne_cases w k id with hone | hone
  · rw [hone]
    exact ⟨h, rfl, .refl s⟩
  · have hcache := h.kept w k
    obtain ⟨hnone, hperm⟩ := Cache.get_of_lasting hcache.tidy.nodup hcache.lasting moment id
    rw [hone]
    refine ⟨h.withCache w (hcache.get moment id), ?_, ?_⟩
    · simp only [Emission.ofDepartures, hnone, List.map_nil]
    · -- the cache that is read keeps its records, and no other one is touched
      intro v l
      by_cases hvl : v = w ∧ l = k
      · obtain ⟨rfl, rfl⟩ := hvl
        rw [partition_withPartition, if_pos rfl, Partition.cache_withCache]
        exact hperm
      · rw [s.cache_withCache v w l _ (not_and_or.1 hvl)]

theorem read (h : s.Settled settings) (k : Kind) (ids : List String) :
    (s.read w k ids).1.Settled settings ∧ (s.read w k ids).2.2.departures = [] ∧
      s.SameRecords (s.read w k ids).1 := by
  induction ids generalizing s with
  | nil => exact ⟨h, rfl, .refl s⟩
  | cons id ids ih =>
    obtain ⟨hone, hnone, hsame⟩ := h.readOne w k id
    obtain ⟨hrest, hnone', hsame'⟩ := ih hone
    refine ⟨hrest, ?_, hsame.trans hsame'⟩
    have hall : (s.read w k (id :: ids)).2.2.departures =
        (s.readOne w k id).2.2.departures ++
          ((s.readOne w k id).1.read w k ids).2.2.departures := rfl
    rw [hall, hnone, hnone', List.append_nil]

/-! ### Operations -/

/-- After every operation the caches are still kept, and records departed only for other ones. -/
theorem perform (h : s.Settled settings) (op : Op) :
    (s.perform focus op).1.Settled settings ∧ (s.perform focus op).2.2.Displaces := by
  have hnothing : Emission.none.Displaces := List.forall_mem_nil _
  cases op with
  | write w bs => exact h.takeIn focus w bs
  | replay w lines => exact h.takeIn focus w (Batch.ofLines lines)
  | read w k ids reply =>
    obtain ⟨hread, hnone, -⟩ := h.read w k ids
    exact ⟨hread, .of_departures_eq_nil hnone⟩
  | setOnGraph w ids =>
    refine ⟨h.withPartition w fun k => ?_, hnothing⟩
    have hkept := h.kept w k
    cases k <;> exact hkept
  | ensure w => exact ⟨h.withPartition w (h.kept w), hnothing⟩
  | look | size | settings => exact ⟨h, hnothing⟩

end Settled

/-! ### Stores that commands make -/

/-- The stores with these settings that commands make out of an empty one, at desks that may show
any workspace, while an observer may come at any time. -/
inductive Reachable (settings : StoreSettings) : Store → Prop
  /-- An empty store. -/
  | new (observed : Bool) : Reachable settings (.new settings observed)
  /-- An observer comes. -/
  | observe {s : Store} (h : Reachable settings s) : Reachable settings s.observe
  /-- A command is carried out. -/
  | perform {d : Desk} (h : Reachable settings d.store) (c : Command) :
    Reachable settings (d.perform c).1.store

end Store

/-- The command reads entities. -/
def Command.isRead : Command → Bool
  | .readOne _ _ _ | .read _ => true
  | _ => false

namespace Desk

variable {d : Desk}

/-- After every command the caches are still kept, and records departed only for other ones. -/
theorem settled_perform (h : d.store.Settled settings) (c : Command) :
    (d.perform c).1.store.Settled settings ∧ (d.perform c).2.2.Displaces := by
  cases hop : c.op? with
  | some op =>
    rw [d.perform_of_op? hop]
    exact h.perform d.focus op
  | none =>
    obtain ⟨hstore, hnone⟩ := d.perform_of_op?_eq_none hop
    exact ⟨by rwa [hstore], .of_departures_eq_nil hnone⟩

theorem perform_of_isRead (h : d.store.Settled settings) {c : Command} (hc : c.isRead = true) :
    (d.perform c).2.2.departures = [] ∧ d.store.SameRecords (d.perform c).1.store := by
  cases c with
  | readOne w kind id =>
    simp only [perform]
    split
    next => exact ⟨rfl, .refl d.store⟩
    next k _ => exact (h.readOne w k id).2
  | read request =>
    simp only [perform, Store.serve]
    split
    next => exact ⟨rfl, .refl d.store⟩
    next k _ => exact (h.read request.workspaceId k request.ids).2
  | _ => cases hc

end Desk

namespace Store.Reachable

variable {s : Store}

theorem run {d : Desk} (h : Reachable settings d.store) (cs : List Command) :
    Reachable settings (d.run cs).1.store := by
  induction cs generalizing d with
  | nil => exact h
  | cons c cs ih => exact ih (h.perform c)

/-- All caches of a store that commands make are kept. -/
theorem settled (h : Reachable settings s) : s.Settled settings := by
  induction h with
  | new observed => exact .new settings observed
  | observe _ ih => exact ih.observe
  | perform _ c ih => exact (Desk.settled_perform ih c).1

/-- **What holds of every record.**  In a store that commands make, a cache of a workspace holds no
more records than it may, under distinct keys.  Every record stands under the id of its entity,
has none of the volatile fields, has the highest priority and does not expire.  So at whatever
moment, reading takes no record out, and an entity that comes in makes a record depart only by
coming under its key or by needing its place.  A command that reads leaves all records in all
caches, and whatever the command, a record departs for these two causes only. -/
theorem record_invariant (h : Reachable settings s) :
    (∀ (w : String) (k : Kind),
      ((s.partition w).cache k).size ≤ max settings.entityCapacity 1 ∧
      ((s.partition w).cache k).keys.Nodup ∧
      (∀ r ∈ ((s.partition w).cache k).records,
        r.key = r.value.id ∧
        (∀ name ∈ settings.volatileFields, r.value.extra.get? name = none) ∧
        r.policy.priority = .high ∧ r.policy.expiresAt = none ∧ r.policy.expiresAfter = none) ∧
      ∀ now,
        (∀ id,
          (((s.partition w).cache k).get now id).2.2 = [] ∧
          ((((s.partition w).cache k).get now id).1.records.map Record.content).Perm
            (((s.partition w).cache k).records.map Record.content)) ∧
        ∀ incoming : Entity k,
          ∀ dep ∈ (((s.partition w).cache k).insert now incoming.id
            (incoming.strip settings.volatileFields) s.policy).2,
          dep.cause = .replaced ∨ dep.cause = .capacity) ∧
    ∀ (d : Desk), d.store = s → ∀ c : Command,
      (∀ dep ∈ (d.perform c).2.2.departures, dep.cause = .replaced ∨ dep.cause = .capacity) ∧
      (c.isRead = true →
        (d.perform c).2.2.departures = [] ∧
        ∀ w k,
          ((((d.perform c).1.store.partition w).cache k).records.map Record.content).Perm
            (((s.partition w).cache k).records.map Record.content)) := by
  have hsettled := h.settled
  refine ⟨fun w k => ?_, ?_⟩
  · have hkept := hsettled.kept w k
    have hsize := hkept.tidy.size_le
    rw [hkept.capacity] at hsize
    refine ⟨hsize, hkept.tidy.nodup, fun r hr => ?_, fun now => ⟨fun id => ?_, fun e => ?_⟩⟩
    · obtain ⟨hkey, hstripped, hpriority, hat, hafter⟩ := hkept.records r hr
      exact ⟨hkey, hstripped, hpriority, hat, hafter⟩
    · exact Cache.get_of_lasting hkept.tidy.nodup hkept.lasting now id
    · exact (hkept.insert now e rfl s.policy_lasting).2
  · rintro d rfl c
    exact ⟨(Desk.settled_perform hsettled c).2, fun hc => Desk.perform_of_isRead hsettled hc⟩

/-- Commands by which a vertex comes in twice, with a score, before another one takes its place. -/
def crowded : List Command :=
  [.cache "w1" .vertex [(Entity.vertex "v1" .published).withField "score" (.int 3)],
    .readOne "w1" "vertex" "v1",
    .cache "w1" .vertex [.vertex "v1" .publishedChanged, .vertex "v2" .published]]

/-- The theorem applies to a store whose records were replaced and crowded out. -/
theorem record_invariant_crowded :
    Reachable ⟨1, ["score"]⟩ ((Desk.new ⟨1, ["score"]⟩ true).run crowded).1.store ∧
      (((Desk.new ⟨1, ["score"]⟩ true).run crowded).2.flatMap fun shown =>
        shown.2.departures.map Departure.cause) = [.replaced, .capacity] ∧
      (∀ r ∈ ((((Desk.new ⟨1, ["score"]⟩ true).run crowded).1.store.partition "w1").cache
          .vertex).records, r.key = r.value.id ∧ r.value.extra.get? "score" = none) ∧
      (Command.readOne "w1" "vertex" "v2").isRead = true ∧
      (((Desk.new ⟨1, ["score"]⟩ true).run crowded).1.perform
        (.readOne "w1" "vertex" "v2")).2.2.departures = [] := by
  have hreachable : Reachable ⟨1, ["score"]⟩
      ((Desk.new ⟨1, ["score"]⟩ true).run crowded).1.store :=
    run (d := Desk.new ⟨1, ["score"]⟩ true) (.new true) crowded
  have hread : (Command.readOne "w1" "vertex" "v2").isRead = true := rfl
  obtain ⟨hrecords, hcommands⟩ := record_invariant hreachable
  refine ⟨hreachable, by decide +kernel, ?_, hread, ((hcommands _ rfl _).2 hread).1⟩
  intro r hr
  obtain ⟨hkey, hstripped, -⟩ := (hrecords "w1" .vertex).2.2.1 r hr
  exact ⟨hkey, hstripped "score" (List.mem_singleton_self _)⟩

end Store.Reachable

end GraphStore
