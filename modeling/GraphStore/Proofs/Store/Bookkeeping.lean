import GraphStore.Proofs.Cache.Accounts
import GraphStore.Proofs.Store.Turns

/-!
# The books of a batch

What a batch reports can be read off its turns: how many entities were new, unchanged and updated,
which ones the message lists, how many records were put in, and which records departed for them.

* `Turn.Account` : what turns do to the books of the cache between two moments.  The account of a
  single turn (`Turn.Leads.account`) is a case analysis, and accounts of successive turns are added
  (`Turn.Account.trans`).
* `Store.Intake.books` : the books after entities are taken in.
* `Store.Reachable.batch_accounts` : the books of a batch.  They name the records that departed;
  the departures are reported as far as the records were observed.
* `Store.Watched` : all departures are reported, which holds of every store that was observed from
  the start (`Desk.watched_run`).
-/

namespace GraphStore

/-! ### Departures for a cause -/

namespace Record

variable {α : Type}

/-- The record stood in the cache, or it came later under the policy. -/
def Sourced (c : Cache α) (policy : Policy) (r : Record α) : Prop :=
  r ∈ c.records ∨ r.policy = policy

theorem Sourced.observed {c : Cache α} {policy : Policy} {r : Record α} (h : r.Sourced c policy)
    (hc : ∀ s ∈ c.records, s.policy.observed = true) (hp : policy.observed = true) :
    r.policy.observed = true := by
  rcases h with hr | hr
  · exact hc r hr
  · rw [hr]
    exact hp

end Record

/-- The departures for a cause. -/
def Departure.dueTo {α : Type} (cause : Cause) (ds : List (Departure α)) : List (Departure α) :=
  ds.filter fun d => d.cause = cause

/-- What is told of records that depart for one cause. -/
def Record.departAll {α : Type} (cause : Cause) (rs : List (Record α)) : List (Departure α) :=
  rs.flatMap fun r => r.depart cause

section

variable {α : Type} {cause cause' : Cause} {r : Record α} {rs : List (Record α)}

theorem Departure.dueTo_append (cause : Cause) (ds es : List (Departure α)) :
    dueTo cause (ds ++ es) = dueTo cause ds ++ dueTo cause es := List.filter_append ..

theorem Departure.dueTo_depart_self : dueTo cause (r.depart cause) = r.depart cause := by
  refine List.filter_eq_self.2 fun d hd => ?_
  simpa using Record.cause_of_mem_depart hd

theorem Departure.dueTo_depart_of_ne (h : cause ≠ cause') : dueTo cause' (r.depart cause) = [] := by
  refine List.filter_eq_nil_iff.2 fun d hd => ?_
  simpa [Record.cause_of_mem_depart hd] using h

theorem Record.departAll_append (cause : Cause) (rs ss : List (Record α)) :
    departAll cause (rs ++ ss) = departAll cause rs ++ departAll cause ss := List.flatMap_append

theorem Record.departAll_singleton : departAll cause [r] = r.depart cause := by
  simp [departAll]

theorem Record.departAll_of_observed (h : ∀ r ∈ rs, r.policy.observed = true) :
    departAll cause rs = rs.map fun r => ⟨r.key, cause, r.value⟩ := by
  induction rs with
  | nil => rfl
  | cons r rs ih =>
    obtain ⟨hr, hrs⟩ := List.forall_mem_cons.1 h
    rw [departAll, List.flatMap_cons, Record.depart_of_observed hr, List.map_cons]
    exact congrArg (_ :: ·) (ih hrs)

theorem Cache.departed_eq_length (cause : Cause) (ds : List (Departure α)) :
    departed cause ds = (Departure.dueTo cause ds).length := by
  induction ds with
  | nil => rfl
  | cons d ds ih =>
    by_cases hd : d.cause = cause
    · simp_all [departed, Departure.dueTo]
    · simp_all [departed, Departure.dueTo]

end

variable {settings : StoreSettings} {policy : Policy} {k : Kind}

theorem Cache.inserts_seat {α : Type} (c : Cache α) (now : Nat) (key : String) (value : α)
    (policy : Policy) :
    (c.seat now key value policy).counters.inserts = c.counters.inserts + 1 := by
  unfold seat displace
  split
  · rfl
  · rfl

/-! ### Accounts of turns -/

namespace Turn

/-- The counts of turns. -/
def tally (ts : List (Turn k)) : Tally :=
  ⟨(judged .new ts).length, (judged .unchanged ts).length, (judged .updated ts).length, false⟩

/-- The records that give way to an update. -/
def outdated (ts : List (Turn k)) : List (Record (Entity k)) :=
  (judged .updated ts).filterMap Turn.found

theorem tally_snoc (ts : List (Turn k)) (t : Turn k) :
    tally (ts ++ [t]) = (tally ts).count t.verdict := by
  simp only [tally, judged_append, judged_singleton]
  cases t.verdict <;> simp [Tally.count]

theorem outdated_append (ts us : List (Turn k)) :
    outdated (ts ++ us) = outdated ts ++ outdated us := by
  rw [outdated, judged_append, List.filterMap_append]
  rfl

theorem map_found (ts : List (Turn k)) :
    (judged .updated ts).map Turn.found = (outdated ts).map some ∧
      ∀ t ∈ judged .updated ts, ∀ r, t.found = some r → r.value.same t.entity = false := by
  constructor
  · have hfound : ∀ t ∈ judged .updated ts, (t.found.isSome) = true := by
      intro t ht
      have hne : t.verdict ≠ .new := by
        rw [verdict_of_mem_judged ht]
        decide
      obtain ⟨r, hr⟩ := exists_found hne
      rw [hr]
      rfl
    rw [outdated]
    generalize judged .updated ts = us at hfound
    induction us with
    | nil => rfl
    | cons t us ih =>
      obtain ⟨ht, hus⟩ := List.forall_mem_cons.1 hfound
      obtain ⟨r, hr⟩ := Option.isSome_iff_exists.1 ht
      simp [hr, ih hus]
  · intro t ht r hr
    have hv := verdict_of_mem_judged ht
    rw [verdict_of_some hr] at hv
    cases hs : r.value.same t.entity with
    | false => rfl
    | true =>
      rw [hs] at hv
      cases hv

/-- The account of turns that lead from a cache `c` to `c'`, with these departures. -/
structure Account (policy : Policy) (c : Cache (Entity k)) (ts : List (Turn k))
    (c' : Cache (Entity k)) (departures : List (Departure (Entity k))) : Prop where
  /-- What is written is counted. -/
  inserts : c'.counters.inserts = c.counters.inserts + (written ts).length
  /-- The records that give way are told to. -/
  replaced : Departure.dueTo .replaced departures = Record.departAll .replaced (outdated ts)
  /-- They stood in the cache, or came in an earlier turn. -/
  outdated : ∀ r ∈ outdated ts, r.Sourced c policy
  /-- For want of room as many records depart as came beyond the room there is. -/
  crowdedOut : ∃ rs : List (Record (Entity k)),
    c'.size + rs.length = c.size + (judged .new ts).length ∧
    Departure.dueTo .capacity departures = Record.departAll .capacity rs ∧
    ∀ r ∈ rs, r.Sourced c policy
  /-- What is stored stood in the cache before, or came in a turn. -/
  stored : ∀ r ∈ c'.records, r.Sourced c policy

theorem Account.refl (policy : Policy) (c : Cache (Entity k)) : Account policy c [] c [] where
  inserts := rfl
  replaced := rfl
  outdated := List.forall_mem_nil _
  crowdedOut := ⟨[], rfl, rfl, List.forall_mem_nil _⟩
  stored _ hr := .inl hr

/-- The accounts of turns and of later turns are added. -/
theorem Account.trans {c c' c'' : Cache (Entity k)} {ts us : List (Turn k)}
    {ds es : List (Departure (Entity k))} (h : Account policy c ts c' ds)
    (h' : Account policy c' us c'' es) : Account policy c (ts ++ us) c'' (ds ++ es) := by
  -- a record that stood in the cache in between is accounted for by the turns before
  have hsource (r : Record (Entity k)) (hr : r.Sourced c' policy) : r.Sourced c policy := by
    rcases hr with hstored | hcame
    · exact h.stored r hstored
    · exact .inr hcame
  obtain ⟨rs, hsize, hcapacity, hrs⟩ := h.crowdedOut
  obtain ⟨rs', hsize', hcapacity', hrs'⟩ := h'.crowdedOut
  refine ⟨?_, ?_, ?_, ⟨rs ++ rs', ?_, ?_, ?_⟩, fun r hr => hsource r (h'.stored r hr)⟩
  · rw [h'.inserts, h.inserts, written_append, List.length_append, Nat.add_assoc]
  · rw [Departure.dueTo_append, h.replaced, h'.replaced, outdated_append, Record.departAll_append]
  · intro r hr
    rw [outdated_append] at hr
    rcases List.mem_append.1 hr with hr | hr
    · exact h.outdated r hr
    · exact hsource r (h'.outdated r hr)
  · rw [judged_append, List.length_append, List.length_append]
    omega
  · rw [Departure.dueTo_append, hcapacity, hcapacity', Record.departAll_append]
  · intro r hr
    rcases List.mem_append.1 hr with hr | hr
    · exact hrs r hr
    · exact hsource r (hrs' r hr)

/-- If all records are observed, every departure of the account is told. -/
theorem Account.told {c c' : Cache (Entity k)} {ts : List (Turn k)}
    {ds : List (Departure (Entity k))} (h : Account policy c ts c' ds)
    (hc : ∀ s ∈ c.records, s.policy.observed = true) (hp : policy.observed = true) :
    Departure.dueTo .replaced ds = (Turn.outdated ts).map (fun r => ⟨r.key, .replaced, r.value⟩) ∧
      Cache.departed .replaced ds = (judged .updated ts).length ∧
      c'.size + Cache.departed .capacity ds = c.size + (judged .new ts).length := by
  obtain ⟨rs, hsize, hcapacity, hrs⟩ := h.crowdedOut
  have hreplaced : Departure.dueTo .replaced ds =
      (Turn.outdated ts).map fun r => ⟨r.key, .replaced, r.value⟩ := by
    rw [h.replaced]
    exact Record.departAll_of_observed fun r hr => (h.outdated r hr).observed hc hp
  refine ⟨hreplaced, ?_, ?_⟩
  · have hlength := congrArg List.length (map_found ts).1
    rw [List.length_map, List.length_map] at hlength
    rw [Cache.departed_eq_length, hreplaced, List.length_map, hlength]
  · rw [Cache.departed_eq_length, hcapacity,
      Record.departAll_of_observed fun r hr => (hrs r hr).observed hc hp, List.length_map]
    exact hsize

section

variable {c c' : Cache (Entity k)} {t : Turn k} {r : Record (Entity k)}

theorem sourced_of_mem_seat
    (hr : r ∈ (c.seat Store.moment t.entity.id t.entity policy).records) :
    r.Sourced c policy := by
  rw [Cache.records_seat] at hr
  rcases List.mem_append.1 hr with hr | hr
  · exact .inl ((c.mem_without).1 hr).1
  · rw [List.mem_singleton.1 hr]
    exact .inr rfl

theorem Account.unchanged (hv : t.verdict = .unchanged) : Account policy c [t] c [] := by
  have hwritten : written [t] = [] := by rw [written_singleton, if_pos hv]
  have hnew : judged .new [t] = [] := by simp [judged_singleton, hv]
  have hnone : Turn.outdated [t] = [] := by simp [Turn.outdated, judged_singleton, hv]
  refine ⟨?_, ?_, ?_, ⟨[], ?_, rfl, List.forall_mem_nil _⟩, fun r hr => .inl hr⟩
  · rw [hwritten]
    rfl
  · rw [hnone]
    rfl
  · rw [hnone]
    exact List.forall_mem_nil _
  · rw [hnew]
    rfl

theorem Account.updated (hn : c.keys.Nodup) (hv : t.verdict = .updated) (ht : t.found = some r)
    (hf : c.find? t.entity.id = some r) :
    Account policy c [t] (c.seat Store.moment t.entity.id t.entity policy)
      (r.depart .replaced) := by
  have hwritten : written [t] = [t] := by rw [written_singleton, if_neg (by simp [hv])]
  have hnew : judged .new [t] = [] := by simp [judged_singleton, hv]
  have hone : Turn.outdated [t] = [r] := by simp [Turn.outdated, judged_singleton, hv, ht]
  refine ⟨?_, ?_, ?_, ⟨[], ?_, ?_, List.forall_mem_nil _⟩, fun _ => sourced_of_mem_seat⟩
  · rw [hwritten]
    exact c.inserts_seat Store.moment t.entity.id t.entity policy
  · rw [hone, Record.departAll_singleton, Departure.dueTo_depart_self]
  · rw [hone]
    exact List.forall_mem_singleton.2 (.inl (c.mem_of_find? hf))
  · rw [hnew]
    exact c.size_seat_of_some Store.moment t.entity.id t.entity policy hn hf
  · exact Departure.dueTo_depart_of_ne (by decide)

theorem Account.added (hv : t.verdict = .new) (hf : c.find? t.entity.id = none) :
    Account policy c [t] (c.seat Store.moment t.entity.id t.entity policy) [] := by
  have hwritten : written [t] = [t] := by rw [written_singleton, if_neg (by simp [hv])]
  have hnew : judged .new [t] = [t] := by simp [judged_singleton, hv]
  have hnone : Turn.outdated [t] = [] := by simp [Turn.outdated, judged_singleton, hv]
  refine ⟨?_, ?_, ?_, ⟨[], ?_, rfl, List.forall_mem_nil _⟩, fun _ => sourced_of_mem_seat⟩
  · rw [hwritten]
    exact c.inserts_seat Store.moment t.entity.id t.entity policy
  · rw [hnone]
    rfl
  · rw [hnone]
    exact List.forall_mem_nil _
  · rw [hnew]
    exact c.size_seat_of_none Store.moment t.entity.id t.entity policy hf

/-- A record that departs for want of room, in nobody's turn. -/
theorem Account.evict (hn : c.keys.Nodup) (hr : r ∈ c.records) :
    Account policy c [] (c.evict r .capacity).1 (r.depart .capacity) := by
  refine ⟨rfl, ?_, List.forall_mem_nil _, ⟨[r], c.length_without hn hr, ?_, ?_⟩, ?_⟩
  · exact Departure.dueTo_depart_of_ne (by decide)
  · rw [Record.departAll_singleton, Departure.dueTo_depart_self]
  · exact List.forall_mem_singleton.2 (.inl hr)
  · exact fun s hs => .inl ((c.mem_without).1 hs).1

/-- The account of one turn. -/
theorem Leads.account {e : Entity k} {departures : List (Departure (Entity k))} (htidy : c.Tidy)
    (h : (Turn.of settings c e).Leads policy c (c', departures)) :
    Account policy c [.of settings c e] c' departures := by
  cases h with
  | unchanged hv => exact .unchanged hv
  | updated hv hf => exact .updated htidy.nodup hv hf hf
  | added hv hf => exact .added hv hf
  | @crowded r rest hv hf _ hr =>
    -- the entity is put in first, and then a record departs
    have hnodup := c.nodup_seat Store.moment (Turn.of settings c e).entity.id
      (Turn.of settings c e).entity policy htidy.nodup
    have hmem : r ∈ (c.seat Store.moment (Turn.of settings c e).entity.id
        (Turn.of settings c e).entity policy).records := by
      rw [hr]
      exact List.mem_cons_self
    exact (Account.added hv hf).trans (.evict hnodup hmem)

end

end Turn

namespace Store

/-- The books after entities are taken in. -/
theorem Intake.books {c : Cache (Entity k)} (h : c.Kept settings)
    (hhigh : policy.priority = .high) (hp : policy.Lasting) (es : List (Entity k)) :
    (takeAll settings policy c es).tally = Turn.tally (turns settings policy c es) ∧
      (takeAll settings policy c es).updated =
        (Turn.judged .updated (turns settings policy c es)).map Turn.entity ∧
      Turn.Account policy c (turns settings policy c es) (takeAll settings policy c es).cache
        (takeAll settings policy c es).departures := by
  induction es using List.reverseRecOn with
  | nil => exact ⟨rfl, rfl, .refl policy c⟩
  | append_singleton es e ih =>
    obtain ⟨htally, hupdated, haccount⟩ := ih
    have hkept := kept_takeAll h hhigh hp es
    obtain ⟨c', departures, hleads, htake⟩ := take_leads hkept hhigh hp e
    rw [takeAll_snoc, htake, turns_snoc]
    refine ⟨?_, ?_, haccount.trans (hleads.account hkept.tidy)⟩
    · rw [Turn.tally_snoc, htally]
    · rw [Turn.judged_append, List.map_append, hupdated]

theorem Settled.books {s : Store} (h : s.Settled settings) (focus : Focus) (w : String)
    (batch : List (Entity k)) :
    let intake := Intake.takeAll s.settings s.policy ((s.partition w).cache k) batch
    intake.tally = Turn.tally (s.turns focus w batch) ∧
      intake.updated = (Turn.judged .updated (s.turns focus w batch)).map Turn.entity ∧
      Turn.Account s.policy ((s.partition w).cache k) (s.turns focus w batch)
        (((s.cacheBatch focus w k batch).1.partition w).cache k) intake.departures := by
  rw [s.turns_eq focus w batch, s.cache_cacheBatch focus w batch]
  exact Intake.books (h.kept_self w k) s.policy_priority s.policy_lasting batch

/-! ### Stores that are observed -/

/-- All departures are told: those of the records that are held, and those of the records to
come. -/
structure Watched (s : Store) : Prop where
  /-- The records to come are observed. -/
  coming : s.observed = true
  /-- The records that are held are observed. -/
  held : ∀ w k, ∀ r ∈ ((s.partition w).cache k).records, r.policy.observed = true

namespace Watched

variable {s t : Store}

theorem new (settings : StoreSettings) : (Store.new settings true).Watched := by
  refine ⟨rfl, fun w k => ?_⟩
  cases k with
  | vertex => exact List.forall_mem_nil _
  | edge => exact List.forall_mem_nil _

theorem withPartition (h : s.Watched) (w : String) {p : Partition}
    (hp : ∀ k, ∀ r ∈ (p.cache k).records, r.policy.observed = true) :
    (s.withPartition w p).Watched := by
  refine ⟨h.coming, fun v k => ?_⟩
  rw [partition_withPartition]
  split
  · exact hp k
  · exact h.held v k

/-- It does not matter when the records were touched last. -/
theorem of_sameRecords (h : s.Watched) (hsame : s.SameRecords t) (hs : t.observed = s.observed) :
    t.Watched := by
  refine ⟨hs.trans h.coming, fun w k r hr => ?_⟩
  obtain ⟨r', hr', hcontent⟩ :=
    List.mem_map.1 ((hsame w k).subset (List.mem_map_of_mem (f := Record.content) hr))
  have hpolicy : r'.policy = r.policy := congrArg (fun c => c.2.2) hcontent
  rw [← hpolicy]
  exact h.held w k r' hr'

theorem cacheBatch (h : s.Watched) (hsettled : s.Settled settings) (focus : Focus) (w : String)
    (batch : List (Entity k)) : (s.cacheBatch focus w k batch).1.Watched := by
  refine ⟨h.coming, fun v l r hr => ?_⟩
  by_cases hvl : v = w ∧ l = k
  · obtain ⟨rfl, rfl⟩ := hvl
    have haccount := (hsettled.books focus v batch).2.2
    exact (haccount.stored r hr).observed (h.held v l) h.coming
  · have hother : (((s.cacheBatch focus w k batch).1.partition v).cache l) =
        (s.partition v).cache l := s.cache_withCache v w l _ (not_and_or.1 hvl)
    rw [hother] at hr
    exact h.held v l r hr

theorem takeIn (h : s.Watched) (hsettled : s.Settled settings) (focus : Focus) (w : String)
    (bs : List Batch) : (s.takeIn focus w bs).1.Watched := by
  have hboth : (s.takeIn focus w bs).1.Watched ∧ (s.takeIn focus w bs).1.Settled settings :=
    s.takeIn_induction (P := fun t => t.Watched ∧ t.Settled settings) focus w ⟨h, hsettled⟩
      fun t b _ ht => ⟨ht.1.cacheBatch ht.2 focus w b.entities, (ht.2.cacheBatch focus w _).1⟩
  exact hboth.1

theorem perform (h : s.Watched) (hsettled : s.Settled settings) (focus : Focus) (op : Op) :
    (s.perform focus op).1.Watched := by
  cases op with
  | write w bs => exact h.takeIn hsettled focus w bs
  | replay w lines => exact h.takeIn hsettled focus w (Batch.ofLines lines)
  | read w k ids reply =>
    have hobserved : (s.read w k ids).1.observed = s.observed :=
      s.read_induction (P := fun t => t.observed = s.observed) w k rfl (fun t c ht => ht) ids
    exact h.of_sameRecords (hsettled.read w k ids).2.2 hobserved
  | setOnGraph w ids =>
    refine h.withPartition w fun k => ?_
    have hheld := h.held w k
    cases k <;> exact hheld
  | ensure w => exact h.withPartition w (h.held w)
  | look | size | settings => exact h

end Watched

end Store

theorem Desk.watched_perform {d : Desk} (h : d.store.Watched) (hsettled : d.store.Settled settings)
    (c : Command) : (d.perform c).1.store.Watched := by
  cases hop : c.op? with
  | some op =>
    rw [d.perform_of_op? hop]
    exact h.perform hsettled d.focus op
  | none =>
    rw [(d.perform_of_op?_eq_none hop).1]
    exact h

/-- A store that is observed from the start is observed forever. -/
theorem Desk.watched_run {d : Desk} (h : d.store.Watched) (hsettled : d.store.Settled settings)
    (cs : List Command) : (d.run cs).1.store.Watched := by
  induction cs generalizing d with
  | nil => exact h
  | cons c cs ih => exact ih (watched_perform h hsettled c) (settled_perform hsettled c).1

namespace Store

/-! ### The books of a batch -/

section

variable (s : Store) (focus : Focus) (w : String) (batch : List (Entity k))

theorem departed_map {α β : Type} (f : α → β) (cause : Cause) (ds : List (Departure α)) :
    Cache.departed cause (ds.map (Departure.map f)) = Cache.departed cause ds := by
  rw [Cache.departed, List.map_map]
  rfl

theorem dueTo_map {α β : Type} (f : α → β) (cause : Cause) (ds : List (Departure α)) :
    Departure.dueTo cause (ds.map (Departure.map f)) =
      (Departure.dueTo cause ds).map (Departure.map f) := List.filter_map

theorem publish_ofKind (es : List (Entity k)) :
    focus.publish w (.ofKind k es) =
      if decide (0 < es.length) && focus.isOn w then [.storeObjectsUpdated (.ofKind k es)]
      else [] := by
  have hsize : (ObjectsUpdated.ofKind k es).size = es.length := by
    cases k <;> simp [ObjectsUpdated.size, ObjectsUpdated.listed, ObjectsUpdated.ofKind]
  rw [Focus.publish, ObjectsUpdated.isEmpty, hsize]
  cases es <;> cases focus.isOn w <;> rfl

/-- A batch is published if something was updated, and the tally says whether it was. -/
theorem published_cacheBatch {us : List (Entity k)}
    (hus : (Intake.takeAll s.settings s.policy ((s.partition w).cache k) batch).updated = us) :
    (s.cacheBatch focus w k batch).2.1.notified = (decide (0 < us.length) && focus.isOn w) ∧
      (s.cacheBatch focus w k batch).2.2.sent =
        if decide (0 < us.length) && focus.isOn w then
          [.ui (.storeObjectsUpdated (.ofKind k us))]
        else [] := by
  have hnotified : (s.cacheBatch focus w k batch).2.1.notified =
      !(focus.publish w (.ofKind k us)).isEmpty := by
    rw [← hus]
    rfl
  have hsent : (s.cacheBatch focus w k batch).2.2.sent =
      (focus.publish w (.ofKind k us)).map .ui := by
    rw [← hus]
    exact List.append_nil _
  rw [hnotified, hsent, publish_ofKind]
  cases decide (0 < us.length) && focus.isOn w with
  | true => exact ⟨rfl, rfl⟩
  | false => exact ⟨rfl, rfl⟩

end

namespace Reachable

variable {s : Store}

/-- **The books of a batch.**  Each entity has its turn against the cache left by the ones before
it in the batch.  The verdicts add up to the length of the batch, and every entity that is new or
updated counts as an insertion.  If some entity is an update and the workspace is on display, one
message goes out, with the updated entities of the kind in the order of the batch and without
volatile fields, and the tally says so; otherwise none does.  For every update the record departs
that stood under its id with another entity, and for want of room as many records depart as there
are new entities beyond the growth of the cache.  Of these departures those of observed records are
told, that is to say, all of them if all departures are observed. -/
theorem batch_accounts (h : Reachable settings s) (focus : Focus) (w : String)
    (batch : List (Entity k)) :
    let turns := s.turns focus w batch
    let before := (s.partition w).cache k
    let after := ((s.cacheBatch focus w k batch).1.partition w).cache k
    let tally := (s.cacheBatch focus w k batch).2.1
    let emission := (s.cacheBatch focus w k batch).2.2
    (tally.new = (Turn.judged .new turns).length ∧
      tally.unchanged = (Turn.judged .unchanged turns).length ∧
      tally.updated = (Turn.judged .updated turns).length ∧
      tally.new + tally.unchanged + tally.updated = batch.length) ∧
    after.counters.inserts = before.counters.inserts + (tally.new + tally.updated) ∧
    tally.notified = (decide (0 < tally.updated) && focus.isOn w) ∧
    emission.sent = (if tally.notified then [.ui (.storeObjectsUpdated
      (.ofKind k ((Turn.judged .updated turns).map Turn.entity)))] else []) ∧
    ∃ outdated crowdedOut : List (Record (Entity k)),
      (Turn.judged .updated turns).map Turn.found = outdated.map some ∧
      (∀ t ∈ Turn.judged .updated turns, ∀ r, t.found = some r →
        r.value.same t.entity = false) ∧
      Departure.dueTo .replaced emission.departures =
        (Record.departAll .replaced outdated).map (Departure.map .of) ∧
      after.size + crowdedOut.length = before.size + tally.new ∧
      Departure.dueTo .capacity emission.departures =
        (Record.departAll .capacity crowdedOut).map (Departure.map .of) ∧
      (s.Watched →
        Departure.dueTo .replaced emission.departures =
          outdated.map (fun r => ⟨r.key, .replaced, .of r.value⟩) ∧
        Cache.departed .replaced emission.departures = tally.updated ∧
        after.size + Cache.departed .capacity emission.departures = before.size + tally.new) := by
  intro turns before after tally emission
  obtain ⟨htally, hupdated, haccount⟩ := h.settled.books focus w batch
  -- the tally is the one of the turns, apart from the word on the message
  have hnew : tally.new = (Turn.judged .new turns).length := congrArg Tally.new htally
  have hunchanged : tally.unchanged = (Turn.judged .unchanged turns).length :=
    congrArg Tally.unchanged htally
  have hupdates : tally.updated = (Turn.judged .updated turns).length :=
    congrArg Tally.updated htally
  have hlength : turns.length = batch.length := List.length_mapIdx
  obtain ⟨hnotified, hsent⟩ := s.published_cacheBatch focus w batch hupdated
  rw [List.length_map, ← hupdates] at hnotified hsent
  -- what departs is told as an entity of either kind
  generalize hintake :
    Intake.takeAll s.settings s.policy ((s.partition w).cache k) batch = intake at haccount
  have htold : emission.departures = intake.departures.map (Departure.map .of) := by
    rw [← hintake]
    rfl
  obtain ⟨crowdedOut, hsize, hcapacity, -⟩ := haccount.crowdedOut
  obtain ⟨hfound, hdiffers⟩ := Turn.map_found turns
  rw [htold, dueTo_map, dueTo_map, departed_map, departed_map, hnotified, hnew, hupdates]
  rw [hupdates] at hsent
  refine ⟨⟨rfl, hunchanged, rfl, ?_⟩, ?_, rfl, hsent, Turn.outdated turns, crowdedOut,
    hfound, hdiffers, ?_, hsize, ?_, fun hwatched => ?_⟩
  · rw [hunchanged, Turn.length_judged, hlength]
  · rw [← Turn.length_written]
    exact haccount.inserts
  · rw [haccount.replaced]
  · rw [hcapacity]
  · obtain ⟨hreplaced, hcount, hroom⟩ := haccount.told (hwatched.held w k) hwatched.coming
    refine ⟨?_, hcount, hroom⟩
    rw [hreplaced, List.map_map]
    rfl

/-- Commands by which two vertices take the places that there are. -/
def filled : List Command :=
  [.cache "w1" .vertex [.vertex "v1" .published, .vertex "v2" .published]]

/-- A batch with an update, a vertex that takes the place of another one and comes again with a
score, the other one, which takes a place in turn, and one more update. -/
def busy : List (Entity .vertex) :=
  [.vertex "v1" .publishedChanged, .vertex "v3" .published,
    (Entity.vertex "v3" .published).withField "score" (.int 3), .vertex "v2" .published,
    .vertex "v3" .publishedChanged]

/-- The theorem applies to a batch that has everything in it. -/
theorem batch_accounts_busy :
    let s := ((Desk.new ⟨2, ["score"]⟩ true).run filled).1.store
    let batch := s.cacheBatch (Focus.none.set "w1") "w1" .vertex busy
    let after := (batch.1.partition "w1").cache .vertex
    Reachable ⟨2, ["score"]⟩ s ∧ s.Watched ∧
      batch.2.1 = ⟨2, 1, 2, true⟩ ∧
      Cache.departed .replaced batch.2.2.departures = batch.2.1.updated ∧
      after.size + Cache.departed .capacity batch.2.2.departures =
        ((s.partition "w1").cache .vertex).size + batch.2.1.new ∧
      batch.2.2.sent = [.ui (.storeObjectsUpdated
        (.ofKind .vertex [.vertex "v1" .publishedChanged, .vertex "v3" .publishedChanged]))] := by
  intro s batch after
  have hreachable : Reachable ⟨2, ["score"]⟩ s :=
    run (d := Desk.new ⟨2, ["score"]⟩ true) (.new true) filled
  have hwatched : s.Watched :=
    Desk.watched_run (d := Desk.new ⟨2, ["score"]⟩ true) (.new _) (.new _ true) filled
  have htally : batch.2.1 = ⟨2, 1, 2, true⟩ := by decide +kernel
  obtain ⟨-, -, -, -, outdated, crowdedOut, -, -, -, -, -, hall⟩ :=
    batch_accounts hreachable (Focus.none.set "w1") "w1" busy
  obtain ⟨-, hreplaced, hsize⟩ := hall hwatched
  exact ⟨hreachable, hwatched, htally, hreplaced, hsize, by decide +kernel⟩

end Reachable

end Store

end GraphStore
