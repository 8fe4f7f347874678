import GraphStore.Proofs.Store.Records

/-!
# The turns of a batch

The entities of a batch have their turns one after another.  At its turn an entity meets the cache
that the ones before it have left, which decides the verdict on it (`Turn.verdict`) and what
becomes of the cache (`Turn.Leads`).

* `Store.turns` : the turns of a batch.
* `Turn.Leads` : what a turn can do to a cache of a store.  Since all records of a store resist
  alike and none expires, the record that departs for want of room is the first one.
* `Store.Intake.take_leads` : an entity that is taken in has its turn, and is booked according to
  the verdict.
-/

namespace GraphStore

variable {k : Kind}

/-- The turn of an entity. -/
structure Turn (k : Kind) where
  /-- The entity as it came. -/
  incoming : Entity k
  /-- The entity without its volatile fields. -/
  entity : Entity k
  /-- The record that stands under its id. -/
  found : Option (Record (Entity k))

namespace Turn

/-- The turn of an entity that meets a cache. -/
def of (settings : StoreSettings) (c : Cache (Entity k)) (e : Entity k) : Turn k :=
  ⟨e, e.strip settings.volatileFields, c.find? e.id⟩

/-- The verdict on the entity. -/
def verdict (t : Turn k) : Verdict := .of (t.found.map Record.value) t.entity

/-- The turns with a verdict. -/
def judged (v : Verdict) (ts : List (Turn k)) : List (Turn k) := ts.filter fun t => t.verdict = v

/-- The turns in which an entity is put into the cache. -/
def written (ts : List (Turn k)) : List (Turn k) := ts.filter fun t => t.verdict ≠ .unchanged

section

variable (t : Turn k) (ts us : List (Turn k)) {v : Verdict}

theorem judged_append (v : Verdict) : judged v (ts ++ us) = judged v ts ++ judged v us :=
  List.filter_append ..

theorem judged_singleton (v : Verdict) : judged v [t] = if t.verdict = v then [t] else [] := by
  simp [judged, List.filter_singleton]

theorem written_append : written (ts ++ us) = written ts ++ written us := List.filter_append ..

theorem written_singleton : written [t] = if t.verdict = .unchanged then [] else [t] := by
  by_cases h : t.verdict = .unchanged <;> simp [written, h]

theorem length_judged :
    (judged .new ts).length + (judged .unchanged ts).length + (judged .updated ts).length =
      ts.length := by
  induction ts with
  | nil => rfl
  | cons t ts ih =>
    simp only [judged, List.filter_cons, List.length_cons] at ih ⊢
    cases t.verdict <;> simp <;> omega

theorem length_written :
    (written ts).length = (judged .new ts).length + (judged .updated ts).length := by
  induction ts with
  | nil => rfl
  | cons t ts ih =>
    simp only [judged, written, List.filter_cons, ne_eq, decide_not] at ih ⊢
    cases t.verdict <;> simp <;> omega

theorem verdict_of_mem_judged {t : Turn k} {ts : List (Turn k)} (h : t ∈ judged v ts) :
    t.verdict = v := by
  simpa using (List.mem_filter.1 h).2

variable {t}

theorem verdict_of_none (h : t.found = none) : t.verdict = .new := by
  rw [verdict, h]
  rfl

theorem verdict_of_some {r : Record (Entity k)} (h : t.found = some r) :
    t.verdict = if r.value.same t.entity then .unchanged else .updated := by
  rw [verdict, h]
  rfl

theorem exists_found (h : t.verdict ≠ .new) : ∃ r, t.found = some r := by
  cases hf : t.found with
  | none => exact absurd (verdict_of_none hf) h
  | some r => exact ⟨r, rfl⟩

end

/-- What a turn can do to a cache: the cache after it, and the departures. -/
inductive Leads (policy : Policy) (c : Cache (Entity k)) (t : Turn k) :
    Cache (Entity k) × List (Departure (Entity k)) → Prop
  /-- An equal entity is held, and nothing happens. -/
  | unchanged (hv : t.verdict = .unchanged) : Leads policy c t (c, [])
  /-- The entity takes the place of another version. -/
  | updated {r} (hv : t.verdict = .updated) (hf : c.find? t.entity.id = some r) :
    Leads policy c t (c.seat Store.moment t.entity.id t.entity policy, r.depart .replaced)
  /-- There is room for the entity. -/
  | added (hv : t.verdict = .new) (hf : c.find? t.entity.id = none) (hroom : c.size < c.capacity) :
    Leads policy c t (c.seat Store.moment t.entity.id t.entity policy, [])
  /-- The first record departs for the entity. -/
  | crowded {r rest} (hv : t.verdict = .new) (hf : c.find? t.entity.id = none)
    (hfull : c.size = c.capacity)
    (hr : (c.seat Store.moment t.entity.id t.entity policy).records = r :: rest) :
    Leads policy c t ((c.seat Store.moment t.entity.id t.entity policy).evict r .capacity)

theorem Leads.of_unchanged {policy : Policy} {c : Cache (Entity k)} {t : Turn k}
    {result : Cache (Entity k) × List (Departure (Entity k))} (h : t.Leads policy c result)
    (hv : t.verdict = .unchanged) : result = (c, []) := by
  cases h with
  | unchanged => rfl
  | updated hv' | added hv' | crowded hv' => cases hv.symm.trans hv'

end Turn

/-! ### Caches of a store -/

namespace Cache

theorem lowest_of_alike {α : Type} {p : Priority} {rs : List (Record α)}
    (h : ∀ r ∈ rs, r.policy.priority = p) : lowest rs = rs.head? := by
  cases rs with
  | nil => rfl
  | cons r rest =>
    obtain ⟨hr, hrest⟩ := List.forall_mem_cons.1 h
    simp only [lowest, List.head?_cons]
    split
    next s hs => rw [if_neg (by rw [hr, hrest s (mem_of_lowest hs)]; omega)]
    next => rfl

namespace Kept

variable {settings : StoreSettings} {c : Cache (Entity k)} {policy : Policy}

/-- What is held under an id is what stands under it. -/
theorem peek_eq (h : c.Kept settings) (now : Nat) (id : String) :
    c.peek now id = (c.find? id).map Record.value := by
  rw [Cache.peek_eq]
  cases hf : c.find? id with
  | none => rfl
  | some r => simp [(h.lasting r (c.mem_of_find? hf)).expired now]

/-- When there is no room, the first record departs. -/
theorem victim?_seat (h : c.Kept settings) {now : Nat} {e : Entity k}
    (hhigh : policy.priority = .high) (hp : policy.Lasting) {r : Record (Entity k)} {cause : Cause}
    (hv : victim? (c.seat now e.id e policy).records now = some (r, cause)) :
    (∃ rest, (c.seat now e.id e policy).records = r :: rest) ∧ cause = .capacity := by
  have hall : ∀ s ∈ (c.seat now e.id e policy).records,
      s.policy.priority = .high ∧ s.policy.Lasting := by
    intro s hs
    rw [records_seat] at hs
    rcases List.mem_append.1 hs with hs | hs
    · have hkept := h.records s ((c.mem_without).1 hs).1
      exact ⟨hkept.priority, hkept.lasting⟩
    · rw [List.mem_singleton.1 hs]
      exact ⟨hhigh, hp⟩
  obtain ⟨hr, ⟨hexpired, -⟩ | ⟨-, hlowest, hcause⟩⟩ := victim?_cases hv
  · rw [(hall r hr).2.expired now] at hexpired
    cases hexpired
  · rw [lowest_of_alike fun s hs => (hall s hs).1, List.head?_eq_some_iff] at hlowest
    exact ⟨hlowest, hcause⟩

end Kept

end Cache

namespace Store

variable {settings : StoreSettings} {policy : Policy}

namespace Intake

/-- An entity that is taken in has its turn, and is booked according to the verdict on it. -/
theorem take_leads {i : Intake k} (h : i.cache.Kept settings) (hhigh : policy.priority = .high)
    (hp : policy.Lasting) (e : Entity k) :
    ∃ c departures, (Turn.of settings i.cache e).Leads policy i.cache (c, departures) ∧
      i.take settings policy e =
        ⟨c, i.tally.count (Turn.of settings i.cache e).verdict,
          i.updated ++ (Turn.judged .updated [Turn.of settings i.cache e]).map Turn.entity,
          i.departures ++ departures⟩ := by
  have hheld : i.held e.id = (i.cache.find? e.id).map Record.value := h.peek_eq moment e.id
  have hinserted :=
    h.tidy.insert_cases moment e.id (e.strip settings.volatileFields) policy
  have htaken := take_cases settings policy i e
  generalize i.take settings policy e = i' at htaken ⊢
  cases htaken with
  | unchanged hi hs =>
    obtain ⟨r, hr, rfl⟩ := Option.map_eq_some_iff.1 (hheld.symm.trans hi)
    have hv : (Turn.of settings i.cache e).verdict = .unchanged :=
      (Turn.verdict_of_some hr).trans (if_pos hs)
    exact ⟨i.cache, [], .unchanged hv, by simp [Turn.judged, hv]⟩
  | @new c departures hi hc =>
    have hnone : i.cache.find? e.id = none := Option.map_eq_none_iff.1 (hheld.symm.trans hi)
    have hv : (Turn.of settings i.cache e).verdict = .new := Turn.verdict_of_none hnone
    refine ⟨c, departures, ?_, by simp [Turn.judged, hv]⟩
    rw [hc] at hinserted
    cases hinserted with
    | replaced hf => cases hnone.symm.trans hf
    | added hf hroom => exact .added hv hf hroom
    -- no record expires and all have one priority, so the first one departs
    | crowded hf hfull hvictim =>
      obtain ⟨⟨rest, hr⟩, rfl⟩ :=
        h.victim?_seat (e := e.strip settings.volatileFields) hhigh hp hvictim
      exact .crowded hv hf hfull hr
  | @updated e₀ c departures hi hs hc =>
    obtain ⟨r, hr, rfl⟩ := Option.map_eq_some_iff.1 (hheld.symm.trans hi)
    have hv : (Turn.of settings i.cache e).verdict = .updated := by
      rw [Turn.verdict_of_some hr]
      exact if_neg (Bool.eq_false_iff.1 hs)
    have hjudged : (Turn.judged .updated [Turn.of settings i.cache e]).map Turn.entity =
        [e.strip settings.volatileFields] := by
      rw [Turn.judged_singleton, if_pos hv]
      rfl
    refine ⟨c, departures, ?_, by rw [hv, hjudged]⟩
    rw [hc] at hinserted
    cases hinserted with
    | replaced hf => exact .updated hv hf
    | added hf | crowded hf => cases hf.symm.trans hr

/-! ### The turns of many entities -/

/-- A cache stays kept while entities are taken in. -/
theorem kept_takeAll {cache : Cache (Entity k)} (h : cache.Kept settings)
    (hhigh : policy.priority = .high) (hp : policy.Lasting) (es : List (Entity k)) :
    (takeAll settings policy cache es).cache.Kept settings := by
  have hstart : (start cache).Kept settings := ⟨h, List.forall_mem_nil _⟩
  exact (hstart.takeAll hhigh hp es).cache

section

variable (settings policy) (cache : Cache (Entity k)) (es : List (Entity k)) (e : Entity k)

/-- The turns of entities that are taken in one after another. -/
def turns : List (Turn k) :=
  es.mapIdx fun n e => .of settings (takeAll settings policy cache (es.take n)).cache e

/-- The last entity meets the cache that all the others have left. -/
theorem turns_snoc : turns settings policy cache (es ++ [e]) =
    turns settings policy cache es ++
      [.of settings (takeAll settings policy cache es).cache e] := by
  have hothers : (es.mapIdx fun n f =>
      Turn.of settings (takeAll settings policy cache ((es ++ [e]).take n)).cache f) =
        turns settings policy cache es := by
    refine List.mapIdx_eq_mapIdx_iff.2 fun n hn => ?_
    rw [List.take_append_of_le_length (Nat.le_of_lt hn)]
  rw [turns, List.mapIdx_append, List.mapIdx_singleton, hothers, Nat.zero_add, List.take_left]

end

end Intake

/-! ### The turns of a batch -/

theorem Settled.kept_self {s : Store} (h : s.Settled settings) (w : String) (k : Kind) :
    ((s.partition w).cache k).Kept s.settings := by
  rw [h.settings_eq]
  exact h.kept w k

section

variable (s : Store) (focus : Focus) (w : String) (batch : List (Entity k))

/-- The turns of a batch: every entity meets the cache that the store holds when only the ones
before it have come. -/
def turns : List (Turn k) :=
  batch.mapIdx fun n e =>
    .of s.settings (((s.cacheBatch focus w k (batch.take n)).1.partition w).cache k) e

theorem cache_cacheBatch : ((s.cacheBatch focus w k batch).1.partition w).cache k =
    (Intake.takeAll s.settings s.policy ((s.partition w).cache k) batch).cache := by
  have htakes := (s.takes_cacheBatch focus w k ⟨k, batch⟩).cache
  rwa [Batch.entitiesOf_singleton] at htakes

theorem turns_eq : s.turns focus w batch =
    Intake.turns s.settings s.policy ((s.partition w).cache k) batch := by
  simp only [turns, Intake.turns, cache_cacheBatch]

end

end Store

end GraphStore
