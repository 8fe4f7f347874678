import GraphStore.Proofs.Cache.Lookup
import Mathlib.Data.List.Nodup

/-!
# Keys and room

A cache is tidy (`Cache.Tidy`) when its keys are distinct and it holds no more records than it
may.  It starts so, and every operation keeps it so (`Cache.Tidy.perform`, `Cache.Tidy.run`).

In a tidy cache a key stands for one record, so that taking a record out leaves all the others as
they stand (`Cache.exists_split`), and a value can be put in in three ways only
(`Cache.Inserted`): over the record of its key, into a free place, or in place of one record that
departs.
-/

namespace GraphStore

variable {α : Type}

namespace Record

variable {r : Record α} {cause : Cause}

theorem depart_of_observed (h : r.policy.observed = true) (cause : Cause) :
    r.depart cause = [⟨r.key, cause, r.value⟩] := by
  rw [depart, if_pos h]

theorem length_depart_le (r : Record α) (cause : Cause) : (r.depart cause).length ≤ 1 := by
  unfold depart
  split
  · exact Nat.le_refl 1
  · exact Nat.zero_le 1

theorem cause_of_mem_depart {d : Departure α} (h : d ∈ r.depart cause) : d.cause = cause := by
  unfold depart at h
  split at h
  · rw [List.mem_singleton.1 h]
  · cases h

end Record

namespace Cache

/-! ### Records and keys -/

section

variable (c : Cache α) {key : String} {r : Record α}

theorem mem_of_find? (h : c.find? key = some r) : r ∈ c.records := List.mem_of_find?_eq_some h

theorem find?_eq_none_iff : c.find? key = none ↔ key ∉ c.keys := by
  rw [find?, List.find?_eq_none, keys, List.mem_map]
  constructor
  · rintro h ⟨r, hr, rfl⟩
    exact h r hr (beq_self_eq_true r.key)
  · intro h r hr hkey
    exact h ⟨r, hr, by simpa using hkey⟩

theorem mem_without : r ∈ c.without key ↔ r ∈ c.records ∧ r.key ≠ key := by
  simp [without]

theorem without_of_not_mem (h : key ∉ c.keys) : c.without key = c.records := by
  rw [without, List.filter_eq_self]
  intro r hr
  have hne : r.key ≠ key := fun hkey => h (hkey ▸ List.mem_map_of_mem hr)
  simpa using hne

theorem exists_split (hn : c.keys.Nodup) (hr : r ∈ c.records) :
    ∃ before after, c.records = before ++ r :: after ∧ c.without r.key = before ++ after := by
  obtain ⟨before, after, heq⟩ := List.append_of_mem hr
  refine ⟨before, after, heq, ?_⟩
  rw [keys, heq, List.map_append, List.map_cons, List.nodup_middle, List.nodup_cons,
    ← List.map_append] at hn
  have hother : ∀ s ∈ before ++ after, (s.key != r.key) = true := by
    intro s hs
    have hne : s.key ≠ r.key := fun hkey => hn.1 (hkey ▸ List.mem_map_of_mem hs)
    simpa using hne
  rw [without, heq, List.filter_append, List.filter_cons_of_neg (by simp), ← List.filter_append,
    List.filter_eq_self]
  exact hother

theorem find?_of_mem (hn : c.keys.Nodup) (hr : r ∈ c.records) : c.find? r.key = some r := by
  obtain ⟨before, after, heq, -⟩ := c.exists_split hn hr
  rw [keys, heq, List.map_append, List.map_cons, List.nodup_middle, List.nodup_cons,
    List.mem_append, not_or] at hn
  refine List.find?_eq_some_iff_append.2 ⟨by simp, before, after, heq, fun s hs => ?_⟩
  have hne : s.key ≠ r.key := fun h => hn.1.1 (h ▸ List.mem_map_of_mem hs)
  simpa using hne

theorem perm_without (hn : c.keys.Nodup) (hr : r ∈ c.records) :
    c.records.Perm (r :: c.without r.key) := by
  obtain ⟨before, after, hrecords, hwithout⟩ := c.exists_split hn hr
  rw [hrecords, hwithout]
  exact List.perm_middle

theorem length_without (hn : c.keys.Nodup) (hr : r ∈ c.records) :
    (c.without r.key).length + 1 = c.size := by
  rw [size, (c.perm_without hn hr).length_eq, List.length_cons]

theorem nodup_without (hn : c.keys.Nodup) (key : String) :
    ((c.without key).map Record.key).Nodup :=
  hn.sublist (List.Sublist.map _ List.filter_sublist)

theorem nodup_without_snoc (hn : c.keys.Nodup) (hr : r.key = key) :
    ((c.without key ++ [r]).map Record.key).Nodup := by
  rw [List.map_append, List.nodup_append]
  refine ⟨c.nodup_without hn key, by simp, ?_⟩
  intro k hk k' hk' heq
  obtain ⟨s, hs, rfl⟩ := List.mem_map.1 hk
  obtain rfl : k' = r.key := by simpa using hk'
  exact ((c.mem_without).1 hs).2 (heq.trans hr)

end

/-! ### The record that departs -/

section

variable {rs : List (Record α)} {r : Record α} {now : Nat} {cause : Cause}

theorem mem_of_lowest (h : lowest rs = some r) : r ∈ rs := by
  induction rs generalizing r with
  | nil => cases h
  | cons s rest ih =>
    simp only [lowest] at h
    split at h
    next t ht =>
      split at h
      · cases h
        exact List.mem_cons_of_mem s (ih ht)
      · cases h
        exact List.mem_cons_self
    next =>
      cases h
      exact List.mem_cons_self

theorem exists_lowest (h : rs ≠ []) : ∃ r, lowest rs = some r := by
  cases rs with
  | nil => exact absurd rfl h
  | cons s rest =>
    simp only [lowest]
    split
    · split
      · exact ⟨_, rfl⟩
      · exact ⟨_, rfl⟩
    · exact ⟨_, rfl⟩

/-- An expired record departs first; a record that is not expired departs for capacity. -/
theorem victim?_cases (h : victim? rs now = some (r, cause)) :
    r ∈ rs ∧ (r.expired now = true ∧ cause = .expired ∨
      (∀ s ∈ rs, s.expired now = false) ∧ lowest rs = some r ∧ cause = .capacity) := by
  unfold victim? at h
  split at h
  next s hs =>
    cases h
    exact ⟨List.mem_of_find?_eq_some hs,
      .inl ⟨List.find?_some (p := fun t : Record α => t.expired now) hs, rfl⟩⟩
  next hnone =>
    obtain ⟨s, hs, heq⟩ := Option.map_eq_some_iff.1 h
    cases heq
    refine ⟨mem_of_lowest hs, .inr ⟨?_, hs, rfl⟩⟩
    intro t ht
    simpa using List.find?_eq_none.1 hnone t ht

theorem exists_victim? (h : rs ≠ []) (now : Nat) :
    ∃ r cause, victim? rs now = some (r, cause) := by
  obtain ⟨r, hr⟩ := exists_lowest h
  unfold victim?
  split
  · exact ⟨_, _, rfl⟩
  · exact ⟨r, .capacity, by rw [hr]; rfl⟩

end

/-! ### Putting a value in -/

variable (c : Cache α) (now : Nat) (key : String) (value : α) (policy : Policy)

theorem records_displace : (c.displace key).1.records = c.without key := by
  unfold displace
  split
  next h => exact (c.without_of_not_mem ((c.find?_eq_none_iff).1 h)).symm
  next => rfl

theorem records_seat :
    (c.seat now key value policy).records = c.without key ++ [⟨key, value, policy, now⟩] := by
  rw [seat, records_displace]

theorem nodup_seat (hn : c.keys.Nodup) : (c.seat now key value policy).keys.Nodup := by
  rw [keys, records_seat]
  exact c.nodup_without_snoc hn rfl

/-- No two records share a key, and there are at most as many as the cache may hold. -/
structure Tidy (c : Cache α) : Prop where
  /-- The keys are distinct. -/
  nodup : c.keys.Nodup
  /-- The cache is not too full. -/
  size_le : c.size ≤ c.capacity

/-- The ways in which a value is put into a tidy cache. -/
inductive Inserted (c : Cache α) (now : Nat) (key : String) (value : α) (policy : Policy) :
    Cache α × List (Departure α) → Prop
  /-- It takes the place of the record under its key. -/
  | replaced {old} (h : c.find? key = some old) :
    Inserted c now key value policy (c.seat now key value policy, old.depart .replaced)
  /-- There is room for it. -/
  | added (h : c.find? key = none) (hroom : c.size < c.capacity) :
    Inserted c now key value policy (c.seat now key value policy, [])
  /-- A record departs for it, or it departs at once. -/
  | crowded {r cause} (h : c.find? key = none) (hfull : c.size = c.capacity)
    (hv : victim? (c.seat now key value policy).records now = some (r, cause)) :
    Inserted c now key value policy ((c.seat now key value policy).evict r cause)

theorem size_seat_of_none (h : c.find? key = none) :
    (c.seat now key value policy).size = c.size + 1 := by
  rw [size, records_seat, c.without_of_not_mem ((c.find?_eq_none_iff).1 h), List.length_append,
    List.length_singleton]
  rfl

theorem size_seat_of_some (hn : c.keys.Nodup) {old : Record α} (h : c.find? key = some old) :
    (c.seat now key value policy).size = c.size := by
  have hlen := c.length_without hn (c.mem_of_find? h)
  rw [c.key_of_find? h] at hlen
  rw [size, records_seat, List.length_append, List.length_singleton, hlen]

theorem Tidy.insert_cases {c : Cache α} (h : c.Tidy) :
    Inserted c now key value policy (c.insert now key value policy) := by
  have hcap := c.capacity_seat now key value policy
  have hle := h.size_le
  rw [insert_eq]
  cases hfind : c.find? key with
  | some old =>
    have hsize := c.size_seat_of_some now key value policy h.nodup hfind
    have hdisplace : (c.displace key).2 = old.depart .replaced := by
      simp only [displace, hfind]
    rw [purge_of_room _ _ (by omega), hdisplace, List.append_nil]
    exact .replaced hfind
  | none =>
    have hsize := c.size_seat_of_none now key value policy hfind
    have hdisplace : (c.displace key).2 = [] := by
      simp only [displace, hfind]
    rw [hdisplace, List.nil_append]
    -- with the new record the cache is one too full, unless there was room
    rcases Nat.lt_or_ge c.size c.capacity with hroom | hfull
    · rw [purge_of_room _ _ (by omega)]
      exact .added hfind hroom
    · have hne : (c.seat now key value policy).records ≠ [] := by
        rw [records_seat]
        simp
      obtain ⟨r, cause, hv⟩ := exists_victim? hne now
      have hpurge : (c.seat now key value policy).purge now =
          (c.seat now key value policy).evict r cause := by
        rw [purge, if_neg (by omega), hv]
      rw [hpurge]
      exact .crowded hfind (by omega) hv

variable {c now key value policy} in
/-- However the value is put in, the cache is tidy afterwards. -/
theorem Inserted.tidy {result : Cache α × List (Departure α)}
    (hi : Inserted c now key value policy result) (h : c.Tidy) : result.1.Tidy := by
  have hcap := c.capacity_seat now key value policy
  have hle := h.size_le
  have hn := c.nodup_seat now key value policy h.nodup
  cases hi with
  | replaced hfind =>
    have hsize := c.size_seat_of_some now key value policy h.nodup hfind
    have hfits : (c.seat now key value policy).size ≤ (c.seat now key value policy).capacity := by
      omega
    exact ⟨hn, hfits⟩
  | added hfind hroom =>
    have hsize := c.size_seat_of_none now key value policy hfind
    have hfits : (c.seat now key value policy).size ≤ (c.seat now key value policy).capacity := by
      omega
    exact ⟨hn, hfits⟩
  | @crowded r cause hfind hfull hv =>
    have hsize := c.size_seat_of_none now key value policy hfind
    have hlen := length_without _ hn (victim?_cases hv).1
    refine ⟨nodup_without _ hn r.key, ?_⟩
    change ((c.seat now key value policy).without r.key).length ≤
      (c.seat now key value policy).capacity
    omega

variable {c now key value policy} in
theorem Inserted.mem_records {result : Cache α × List (Departure α)}
    (hi : Inserted c now key value policy result) {r : Record α} (hr : r ∈ result.1.records) :
    r ∈ c.records ∨ r = ⟨key, value, policy, now⟩ := by
  have hseat : r ∈ (c.seat now key value policy).records := by
    cases hi with
    | replaced => exact hr
    | added => exact hr
    | crowded => exact (List.mem_filter.1 hr).1
  rw [records_seat] at hseat
  rcases List.mem_append.1 hseat with hold | hnew
  · exact .inl ((c.mem_without).1 hold).1
  · exact .inr (List.mem_singleton.1 hnew)

variable {c now key value policy} in
theorem Inserted.length_departures_le {result : Cache α × List (Departure α)}
    (hi : Inserted c now key value policy result) : result.2.length ≤ 1 := by
  cases hi with
  | replaced => exact Record.length_depart_le _ _
  | added => exact Nat.zero_le 1
  | crowded => exact Record.length_depart_le _ _

/-! ### Operations keep a cache tidy -/

theorem capacity_perform (op : Op α) : (c.perform now op).1.capacity = c.capacity := by
  cases op with
  | insert key value policy => exact c.capacity_insert now key value policy
  | get key =>
    change (c.get now key).1.capacity = c.capacity
    unfold get
    split
    · rfl
    · split <;> rfl
  | peek | contains | clear => rfl
  | remove key =>
    change (c.remove key).1.capacity = c.capacity
    unfold remove
    split <;> rfl

theorem capacity_run (ops : List (Nat × Op α)) : (c.run ops).1.capacity = c.capacity := by
  induction ops generalizing c with
  | nil => rfl
  | cons step ops ih =>
    exact (ih (c.perform step.1 step.2).1).trans (c.capacity_perform step.1 step.2)

theorem tidy_new (capacity : Nat) : (new capacity : Cache α).Tidy :=
  ⟨List.nodup_nil, Nat.zero_le _⟩

theorem tidy_clear (c : Cache α) : c.clear.1.Tidy := ⟨List.nodup_nil, Nat.zero_le _⟩

namespace Tidy

variable {c : Cache α} (now : Nat) (key : String)

theorem insert (h : c.Tidy) (value : α) (policy : Policy) :
    (c.insert now key value policy).1.Tidy :=
  (h.insert_cases now key value policy).tidy h

theorem evict (h : c.Tidy) (r : Record α) (cause : Cause) : (c.evict r cause).1.Tidy :=
  ⟨c.nodup_without h.nodup r.key,
    Nat.le_trans (List.length_filter_le _ _) h.size_le⟩

theorem get (h : c.Tidy) : (c.get now key).1.Tidy := by
  unfold Cache.get
  split
  · exact ⟨h.nodup, h.size_le⟩
  next r hr =>
    have hkey := c.key_of_find? hr
    split
    · have hevict := h.evict r .expired
      exact ⟨hevict.nodup, hevict.size_le⟩
    · have hlen := c.length_without h.nodup (c.mem_of_find? hr)
      rw [hkey] at hlen
      refine ⟨c.nodup_without_snoc h.nodup hkey, ?_⟩
      have hle := h.size_le
      simp only [size, List.length_append, List.length_singleton] at hlen hle ⊢
      omega

theorem remove (h : c.Tidy) : (c.remove key).1.Tidy := by
  unfold Cache.remove
  split
  · exact h
  · exact ⟨c.nodup_without h.nodup key, Nat.le_trans (List.length_filter_le _ _) h.size_le⟩

/-- Every operation keeps a cache tidy. -/
theorem perform (h : c.Tidy) (op : Op α) : (c.perform now op).1.Tidy := by
  cases op with
  | insert key value policy => exact h.insert now key value policy
  | get key => exact h.get now key
  | peek | contains => exact h
  | remove key => exact h.remove key
  | clear => exact c.tidy_clear

theorem run (h : c.Tidy) (ops : List (Nat × Op α)) : (c.run ops).1.Tidy := by
  induction ops generalizing c with
  | nil => exact h
  | cons step ops ih => exact ih (h.perform step.1 step.2)

end Tidy

end Cache

end GraphStore
