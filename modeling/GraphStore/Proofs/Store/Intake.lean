import GraphStore.Proofs.Cache.Lookup
import GraphStore.Store.Basic
import Mathlib.Data.List.Induction

/-!
# Taking in entities

`Intake.takeAll` takes in entities one after another, as a batch does.  Its results for one list
after another are put together from the results for each (`Intake.cache_takeAll_append`,
`Intake.updated_takeAll_append`), so it does not matter for the cache where a batch ends.

* `Intake.Taken` : the ways in which one entity can be taken in.
* `Intake.Drops` : an entity held is lost on the way, which happens only when the cache is full
  (`Intake.Drops.full`).
* `Intake.held_takeAll` : an entity that is not lost is held afterwards as it was updated last.
-/

namespace GraphStore

/-- The last copy of an entity in a list. -/
def Entity.lastOf? {k : Kind} (id : String) (es : List (Entity k)) : Option (Entity k) :=
  es.reverse.find? fun e => e.id == id

namespace Entity

variable {k : Kind} (id : String)

@[simp] theorem lastOf?_nil : lastOf? id ([] : List (Entity k)) = none := rfl

@[simp] theorem lastOf?_append (es fs : List (Entity k)) :
    lastOf? id (es ++ fs) = (lastOf? id fs).or (lastOf? id es) := by
  simp [lastOf?, List.find?_append]

theorem lastOf?_singleton (e : Entity k) :
    lastOf? id [e] = if e.id = id then some e else none := by
  by_cases h : e.id = id <;> simp [lastOf?, h]

theorem mem_of_lastOf? {id : String} {es : List (Entity k)} {e : Entity k}
    (h : lastOf? id es = some e) : e ∈ es ∧ e.id = id := by
  refine ⟨List.mem_reverse.1 (List.mem_of_find?_eq_some h), ?_⟩
  simpa using List.find?_some (p := fun e : Entity k => e.id == id) h

end Entity

namespace Store

theorem policy_lasting (s : Store) : s.policy.Lasting := ⟨rfl, rfl⟩

theorem policy_priority (s : Store) : s.policy.priority = .high := rfl

namespace Intake

variable {k : Kind} (settings : StoreSettings) (policy : Policy)

/-- The copy of an entity that is held. -/
def held (i : Intake k) (id : String) : Option (Entity k) := i.cache.peek moment id

/-- Nothing taken in yet. -/
def start (cache : Cache (Entity k)) : Intake k := ⟨cache, .zero, [], []⟩

/-- Take in entities one after another. -/
def takeAll (cache : Cache (Entity k)) (es : List (Entity k)) : Intake k :=
  es.foldl (take settings policy) (start cache)

/-! ### One entity -/

/-- The ways in which an entity can be taken in, without its volatile fields: an equal one is
held, none is held, or another copy is held. -/
inductive Taken (i : Intake k) (incoming : Entity k) : Intake k → Prop
  /-- An equal copy is held. -/
  | unchanged {e} (hi : i.held incoming.id = some e)
    (hs : e.same (incoming.strip settings.volatileFields) = true) :
    Taken i incoming { i with tally := i.tally.count .unchanged }
  /-- None is held. -/
  | new {c departures} (hi : i.held incoming.id = none)
    (hc : i.cache.insert moment incoming.id (incoming.strip settings.volatileFields) policy =
      (c, departures)) :
    Taken i incoming
      { i with cache := c, tally := i.tally.count .new, departures := i.departures ++ departures }
  /-- A different copy is held. -/
  | updated {e c departures} (hi : i.held incoming.id = some e)
    (hs : e.same (incoming.strip settings.volatileFields) = false)
    (hc : i.cache.insert moment incoming.id (incoming.strip settings.volatileFields) policy =
      (c, departures)) :
    Taken i incoming
      ⟨c, i.tally.count .updated, i.updated ++ [incoming.strip settings.volatileFields],
        i.departures ++ departures⟩

theorem take_cases (i : Intake k) (incoming : Entity k) :
    Taken settings policy i incoming (i.take settings policy incoming) := by
  have hheld : i.cache.peek moment (incoming.strip settings.volatileFields).id =
      i.held incoming.id := rfl
  simp only [take, hheld]
  cases hi : i.held incoming.id with
  | none => exact .new hi rfl
  | some e =>
    cases hs : e.same (incoming.strip settings.volatileFields) with
    | true =>
      simp only [Verdict.of, hs, if_true]
      exact .unchanged hi hs
    | false =>
      simp only [Verdict.of, hs, Bool.false_eq_true, if_false]
      exact .updated hi hs rfl

variable {settings policy}

/-- An entity held before and after another one is taken in is held as it was updated last. -/
theorem Taken.held {i i' : Intake k} {incoming : Entity k}
    (h : Taken settings policy i incoming i') (hp : policy.Lasting) {id : String}
    (hi : (i.held id).isSome) (hi' : (i'.held id).isSome) :
    ∃ us, i'.updated = i.updated ++ us ∧ i'.held id = (Entity.lastOf? id us).or (i.held id) := by
  -- what an insertion under the id of the incoming entity leaves of `id`
  have hput {c departures} (hc : i.cache.insert moment incoming.id
      (incoming.strip settings.volatileFields) policy = (c, departures))
      (hsome : (c.peek moment id).isSome) :
      c.peek moment id = if id = incoming.id then some (incoming.strip settings.volatileFields)
        else i.held id := by
    have := i.cache.peek_insert moment incoming.id (incoming.strip settings.volatileFields) hp
      (k := id)
    rw [hc] at this
    exact this hsome
  cases h with
  | unchanged => exact ⟨[], by simp, by simp [Intake.held]⟩
  | new hnone hc =>
    refine ⟨[], by simp, ?_⟩
    have hne : id ≠ incoming.id := by
      intro hid
      rw [hid, hnone] at hi
      cases hi
    simpa [Intake.held, hne] using hput hc hi'
  | updated _ _ hc =>
    refine ⟨_, rfl, ?_⟩
    rw [Entity.lastOf?_singleton]
    change Cache.peek _ moment id = _
    rw [hput hc hi']
    by_cases hid : id = incoming.id
    · have hid' : (incoming.strip settings.volatileFields).id = id := hid.symm
      rw [if_pos hid, if_pos hid']
      rfl
    · have hid' : (incoming.strip settings.volatileFields).id ≠ id := fun h => hid h.symm
      rw [if_neg hid, if_neg hid']
      rfl

/-! ### Many entities -/

variable (settings policy) in
/-- What is taken in depends on the cache only; the updates are added to the ones before. -/
theorem take_eq (i : Intake k) (incoming : Entity k) :
    (i.take settings policy incoming).cache =
        ((start i.cache).take settings policy incoming).cache ∧
      (i.take settings policy incoming).updated =
        i.updated ++ ((start i.cache).take settings policy incoming).updated := by
  unfold take
  simp only [start]
  split <;> simp

theorem foldl_take_eq (i : Intake k) (es : List (Entity k)) :
    (es.foldl (take settings policy) i).cache = (takeAll settings policy i.cache es).cache ∧
      (es.foldl (take settings policy) i).updated =
        i.updated ++ (takeAll settings policy i.cache es).updated := by
  induction es generalizing i with
  | nil => simp [takeAll, start]
  | cons e es ih =>
    have hstep := take_eq settings policy i e
    have hcons : takeAll settings policy i.cache (e :: es) =
        es.foldl (take settings policy) ((start i.cache).take settings policy e) := rfl
    obtain ⟨hcache, hupdated⟩ := ih (i.take settings policy e)
    obtain ⟨hcache', hupdated'⟩ := ih ((start i.cache).take settings policy e)
    rw [hcons, List.foldl_cons, hcache, hupdated, hcache', hupdated', hstep.1, hstep.2]
    exact ⟨rfl, List.append_assoc _ _ _⟩

section

variable (settings policy) (cache : Cache (Entity k)) (es fs : List (Entity k))

theorem takeAll_append : takeAll settings policy cache (es ++ fs) =
    fs.foldl (take settings policy) (takeAll settings policy cache es) := List.foldl_append

theorem takeAll_snoc (e : Entity k) : takeAll settings policy cache (es ++ [e]) =
    (takeAll settings policy cache es).take settings policy e := takeAll_append ..

theorem cache_takeAll_append : (takeAll settings policy cache (es ++ fs)).cache =
    (takeAll settings policy (takeAll settings policy cache es).cache fs).cache := by
  rw [takeAll_append, (foldl_take_eq _ fs).1]

theorem updated_takeAll_append : (takeAll settings policy cache (es ++ fs)).updated =
    (takeAll settings policy cache es).updated ++
      (takeAll settings policy (takeAll settings policy cache es).cache fs).updated := by
  rw [takeAll_append, (foldl_take_eq _ fs).2]

end

/-! ### Losses -/

variable (settings policy) in
/-- One of the entities that are taken in makes the cache lose another one. -/
def Drops (cache : Cache (Entity k)) (es : List (Entity k)) (id : String) : Prop :=
  ∃ before e after, es = before ++ e :: after ∧
    ((takeAll settings policy cache before).held id).isSome ∧
    (takeAll settings policy cache (before ++ [e])).held id = none

variable {cache : Cache (Entity k)} {es fs : List (Entity k)} {id : String}

theorem Drops.append_right (h : Drops settings policy cache es id) (fs : List (Entity k)) :
    Drops settings policy cache (es ++ fs) id := by
  obtain ⟨before, e, after, rfl, hbefore, hafter⟩ := h
  exact ⟨before, e, after ++ fs, by simp, hbefore, hafter⟩

theorem Taken.cache_size_le {i i' : Intake k} {incoming : Entity k}
    (h : Taken settings policy i incoming i') :
    i'.cache.size ≤ i.cache.size + 1 ∧ i'.cache.capacity = i.cache.capacity := by
  cases h with
  | unchanged => exact ⟨Nat.le_succ _, rfl⟩
  | new _ hc | updated _ _ hc =>
    have hsize := i.cache.size_insert_le moment incoming.id
      (incoming.strip settings.volatileFields) policy
    have hcap := i.cache.capacity_insert moment incoming.id
      (incoming.strip settings.volatileFields) policy
    rw [hc] at hsize hcap
    exact ⟨hsize, hcap⟩

/-- While the cache has room, what is held stays held. -/
theorem Taken.isSome_held_of_room {i i' : Intake k} {incoming : Entity k}
    (h : Taken settings policy i incoming i') (hp : policy.Lasting)
    (hroom : i.cache.size < i.cache.capacity) (hi : (i.held id).isSome) :
    (i'.held id).isSome := by
  cases h with
  | unchanged => exact hi
  | new _ hc | updated _ _ hc =>
    have hseat := i.cache.insert_of_room moment incoming.id
      (incoming.strip settings.volatileFields) policy hroom
    rw [hc] at hseat
    simp only [Intake.held] at hseat hi ⊢
    rw [hseat, i.cache.peek_seat moment incoming.id _ hp id]
    by_cases hid : id = incoming.id
    · simp [hid]
    · rwa [if_neg hid]

variable (settings policy) in
theorem cache_takeAll_size_le (cache : Cache (Entity k)) (es : List (Entity k)) :
    (takeAll settings policy cache es).cache.size ≤ cache.size + es.length ∧
      (takeAll settings policy cache es).cache.capacity = cache.capacity := by
  induction es using List.reverseRecOn with
  | nil => exact ⟨Nat.le_refl _, rfl⟩
  | append_singleton es e ih =>
    obtain ⟨hsize, hcap⟩ :=
      (take_cases settings policy (takeAll settings policy cache es) e).cache_size_le
    rw [takeAll_snoc, List.length_append, List.length_singleton]
    exact ⟨by omega, hcap.trans ih.2⟩

/-- Only a full cache loses anything. -/
theorem Drops.full (hp : policy.Lasting) (h : Drops settings policy cache es id) :
    ∃ before e, before ++ [e] <+: es ∧
      (takeAll settings policy cache before).cache.capacity ≤
        (takeAll settings policy cache before).cache.size := by
  obtain ⟨before, e, after, rfl, hbefore, hafter⟩ := h
  refine ⟨before, e, ⟨after, by simp⟩, Nat.le_of_not_lt fun hroom => ?_⟩
  rw [takeAll_snoc] at hafter
  have := (take_cases settings policy _ e).isSome_held_of_room hp hroom hbefore
  rw [hafter] at this
  cases this

theorem not_drops_of_room (hp : policy.Lasting)
    (hroom : cache.size + es.length ≤ cache.capacity) : ¬ Drops settings policy cache es id := by
  intro h
  obtain ⟨before, e, hprefix, hfull⟩ := h.full hp
  have hlt := hprefix.length_le
  rw [List.length_append, List.length_singleton] at hlt
  obtain ⟨hsize, hcap⟩ := cache_takeAll_size_le settings policy cache before
  omega

/-- An entity that is not lost is held as it was updated last, or as it was held before. -/
theorem held_takeAll (hp : policy.Lasting) (hheld : (cache.peek moment id).isSome)
    (hdrop : ¬ Drops settings policy cache es id) :
    ((takeAll settings policy cache es).held id).isSome ∧
      (takeAll settings policy cache es).held id =
        (Entity.lastOf? id (takeAll settings policy cache es).updated).or
          (cache.peek moment id) := by
  induction es using List.reverseRecOn with
  | nil => exact ⟨hheld, rfl⟩
  | append_singleton es e ih =>
    obtain ⟨hsome, heq⟩ := ih fun h => hdrop (h.append_right [e])
    -- if it is not held any more, the last entity is the one that loses it
    have hsome' : ((takeAll settings policy cache (es ++ [e])).held id).isSome := by
      by_contra hnot
      exact hdrop ⟨es, e, [], by simp, hsome, by simpa using hnot⟩
    refine ⟨hsome', ?_⟩
    rw [takeAll_snoc] at hsome' ⊢
    obtain ⟨us, hus, hlast⟩ := (take_cases settings policy _ e).held hp hsome hsome'
    rw [hlast, heq, hus, Entity.lastOf?_append, Option.or_assoc]

end Intake

end Store

end GraphStore
