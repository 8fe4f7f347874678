import GraphStore.Cache.Basic
import Mathlib.Tactic.SplitIfs

/-!
# What a cache holds after an operation

An operation on a cache is described by what can be looked up afterwards, key by key, and not by
the order of its records.

* `Cache.peek_insert` : what is held after a value was put in is that value under its key, and
  what was held before under every other key.
* `Cache.insert_of_room` : nothing is lost while there is room.
* `Cache.peek_get` : reading changes nothing that can be looked up at the same moment.
-/

namespace GraphStore

/-- A record under the policy does not expire. -/
def Policy.Lasting (p : Policy) : Prop := p.expiresAt = none ∧ p.expiresAfter = none

theorem Policy.Lasting.expired {α : Type} {r : Record α} (h : r.policy.Lasting) (now : Nat) :
    r.expired now = false := by
  obtain ⟨hat, hafter⟩ := h
  simp [Record.expired, hat, hafter]

namespace Cache

variable {α : Type} (c : Cache α) (now : Nat)

/-! ### Records -/

theorem key_of_find? {key : String} {r : Record α} (h : c.find? key = some r) : r.key = key := by
  have := List.find?_some (p := fun r : Record α => r.key == key) h
  simpa using this

theorem find?_without (key k : String) :
    (c.without key).find? (fun r => r.key == k) = if k = key then none else c.find? k := by
  rw [without, List.find?_filter]
  split_ifs with hk
  · rw [List.find?_eq_none]
    intro r _
    simp [hk]
  · refine congrArg (c.records.find? ·) (funext fun r => ?_)
    by_cases hr : r.key = k
    · simp [hr, hk]
    · simp [hr]

theorem peek_eq (k : String) :
    c.peek now k = (c.find? k).bind fun r => if r.expired now then none else some r.value := by
  simp only [peek]
  cases c.find? k <;> rfl

theorem peek_of_find?_eq {c c' : Cache α} {k : String} (h : c'.find? k = c.find? k) :
    c'.peek now k = c.peek now k := by
  rw [peek_eq, peek_eq, h]

/-! ### Taking records out -/

theorem find?_evict (r : Record α) (cause : Cause) (k : String) :
    (c.evict r cause).1.find? k = if k = r.key then none else c.find? k :=
  c.find?_without r.key k

theorem find?_displace (key k : String) :
    (c.displace key).1.find? k = if k = key then none else c.find? k := by
  unfold displace
  split
  next h =>
    split_ifs with hk
    · rw [hk, h]
    · rfl
  next => exact c.find?_without key k

/-- A purge loses the record of one key at most. -/
theorem find?_purge (k : String) :
    (c.purge now).1.find? k = c.find? k ∨ (c.purge now).1.find? k = none := by
  unfold purge
  split
  · exact .inl rfl
  · split
    next r cause _ =>
      rw [find?_evict]
      split_ifs
      · exact .inr rfl
      · exact .inl rfl
    next => exact .inl rfl

theorem size_purge_le : (c.purge now).1.size ≤ c.size := by
  unfold purge
  split
  · exact Nat.le_refl _
  · split
    · exact List.length_filter_le _ _
    · exact Nat.le_refl _

theorem capacity_purge : (c.purge now).1.capacity = c.capacity := by
  unfold purge
  split
  · rfl
  · split <;> rfl

theorem purge_of_room (h : c.size ≤ c.capacity) : c.purge now = (c, []) := by
  rw [purge, if_pos h]

/-! ### Putting a value in -/

/-- The cache with a value put in, before records depart for it. -/
def seat (key : String) (value : α) (policy : Policy) : Cache α :=
  { (c.displace key).1 with
    records := (c.displace key).1.records ++ [⟨key, value, policy, now⟩]
    counters :=
      { (c.displace key).1.counters with inserts := (c.displace key).1.counters.inserts + 1 } }

variable (key : String) (value : α) (policy : Policy)

theorem insert_eq :
    c.insert now key value policy =
      (((c.seat now key value policy).purge now).1,
        (c.displace key).2 ++ ((c.seat now key value policy).purge now).2) := rfl

theorem find?_seat (k : String) :
    (c.seat now key value policy).find? k =
      if k = key then some ⟨key, value, policy, now⟩ else c.find? k := by
  have hold : (c.displace key).1.records.find? (fun r => r.key == k) =
      if k = key then none else c.find? k := c.find?_displace key k
  simp only [find?, seat, List.find?_append, hold]
  split_ifs with hk
  · simp [hk]
  · have hne : (key == k) = false := beq_eq_false_iff_ne.2 fun h => hk h.symm
    simp [hne]

theorem peek_seat {policy : Policy} (hp : policy.Lasting) (k : String) :
    (c.seat now key value policy).peek now k = if k = key then some value else c.peek now k := by
  rw [peek_eq, find?_seat]
  split_ifs with hk
  · simp [Policy.Lasting.expired (r := ⟨key, value, policy, now⟩) hp now]
  · exact (c.peek_eq now k).symm

theorem peek_insert {policy : Policy} (hp : policy.Lasting) {k : String}
    (h : ((c.insert now key value policy).1.peek now k).isSome) :
    (c.insert now key value policy).1.peek now k =
      if k = key then some value else c.peek now k := by
  rw [← c.peek_seat now key value hp k]
  rw [insert_eq] at h ⊢
  rcases (c.seat now key value policy).find?_purge now k with hk | hk
  · exact peek_of_find?_eq now hk
  · rw [peek_eq, hk] at h
    cases h

theorem size_displace_le : (c.displace key).1.size ≤ c.size := by
  unfold displace
  split
  · exact Nat.le_refl _
  · exact List.length_filter_le _ _

theorem capacity_displace : (c.displace key).1.capacity = c.capacity := by
  unfold displace
  split <;> rfl

theorem size_seat_le : (c.seat now key value policy).size ≤ c.size + 1 := by
  have hle := c.size_displace_le key
  simp only [size, seat, List.length_append, List.length_singleton] at hle ⊢
  omega

theorem capacity_seat : (c.seat now key value policy).capacity = c.capacity :=
  c.capacity_displace key

/-- While there is room, nothing is lost. -/
theorem insert_of_room (h : c.size < c.capacity) :
    (c.insert now key value policy).1 = c.seat now key value policy := by
  have hsize := c.size_seat_le now key value policy
  have hcap := c.capacity_seat now key value policy
  rw [insert_eq, purge_of_room _ _ (by omega)]

theorem size_insert_le : (c.insert now key value policy).1.size ≤ c.size + 1 :=
  Nat.le_trans (size_purge_le _ _) (c.size_seat_le now key value policy)

theorem capacity_insert : (c.insert now key value policy).1.capacity = c.capacity :=
  (capacity_purge _ _).trans (c.capacity_seat now key value policy)

/-! ### Reading -/

theorem expired_touch {r : Record α} (h : r.expired now = false) :
    ({ r with touched := now } : Record α).expired now = false := by
  obtain ⟨key, value, ⟨priority, expiresAt, expiresAfter, observed⟩, touched⟩ := r
  cases expiresAfter with
  | none => simpa [Record.expired] using h
  | some span =>
    simp only [Record.expired, Bool.or_eq_false_iff, decide_eq_false_iff_not] at h ⊢
    exact ⟨h.1, by omega⟩

/-- What stands under the keys after one of them was read: the record that is read is touched, or
departs if it has expired. -/
theorem find?_get (k : String) :
    (c.get now key).1.find? k =
      if k = key then (c.find? key).bind fun r =>
        if r.expired now then none else some { r with touched := now }
      else c.find? k := by
  unfold get
  split
  next h =>
    split_ifs with hk
    · rw [hk, h]
      exact h
    · rfl
  next r hr =>
    have hkey := c.key_of_find? hr
    rw [hr, Option.bind_some]
    split
    next he => exact (c.find?_evict r .expired k).trans (by rw [hkey])
    next he =>
      -- the record moves to the end, behind all records of other keys
      simp only [find?, List.find?_append]
      rw [c.find?_without key k]
      split_ifs with hk
      · simp [hk, hkey]
      · have hne : (r.key == k) = false := beq_eq_false_iff_ne.2 fun h => hk (h ▸ hkey)
        simp [hne, find?]

/-- Reading a key leaves every value in place. -/
theorem peek_get (k : String) : (c.get now key).1.peek now k = c.peek now k := by
  rw [peek_eq, peek_eq, find?_get]
  split_ifs with hk
  · subst hk
    cases c.find? k with
    | none => rfl
    | some r =>
      cases he : r.expired now with
      | true => simp [he]
      | false => simp [he, expired_touch now he]
  · rfl

theorem value_get : (c.get now key).2.1 = c.peek now key := by
  unfold get peek
  split
  next hnone => rw [hnone]
  next r hr =>
    rw [hr]
    split <;> simp_all

end Cache

end GraphStore
