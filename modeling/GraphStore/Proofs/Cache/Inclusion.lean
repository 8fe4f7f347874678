import GraphStore.Proofs.Cache.Recency
import Mathlib.Data.List.Forall2

/-!
# More room loses nothing

Two caches are used alike, and one of them has more room.  Then the one with more room holds all
that the other one holds, and the records that both hold stand in the same order.

* `Cache.Within` : the records of a cache are some of those of another one, which has more room for
  them but no more free places than that.  Every operation keeps this (`Cache.Within.perform`,
  `Cache.Within.run`), at whatever moments and whatever expires: when a record departs from the
  larger cache that the smaller one holds as well, it departs from both, since the first of its sort
  is the first among fewer records, too (`Cache.victim?_of_sublist`).
* `Cache.Twins` : two caches that hold the same and were used at different times.  A record that has
  expired when it is put in, or never expires, does not depend on the time, so operations on such
  records keep the caches twins (`Cache.Twins.perform`, `Cache.Twins.run`).
* `Cache.more_room_keeps` : both together, for two caches that have the same done to them, each by
  its own clock.
-/

namespace GraphStore

variable {α : Type}

/-! ### Some of the elements of a list -/

section

variable {β : Type} {l l' before after : List β} {a : β}

theorem exists_split_of_sublist (hs : l.Sublist (before ++ a :: after))
    (hn : (before ++ a :: after).Nodup) (ha : a ∈ l) :
    ∃ before' after', l = before' ++ a :: after' ∧ before'.Sublist before ∧
      after'.Sublist after := by
  obtain ⟨before', rest, rfl, hbefore, hrest⟩ := List.sublist_append_iff.1 hs
  rw [List.nodup_middle, List.nodup_cons, List.mem_append, not_or] at hn
  rcases List.sublist_cons_iff.1 hrest with hafter | ⟨after', rfl, hafter⟩
  · -- otherwise the element would stand before or behind its own place
    exfalso
    rcases List.mem_append.1 ha with ha | ha
    · exact hn.1.1 (hbefore.subset ha)
    · exact hn.1.2 (hafter.subset ha)
  · exact ⟨before', after', rfl, hbefore, hafter⟩

theorem filter_mem_eq_of_sublist [DecidableEq β] (hs : l.Sublist l') (hn : l'.Nodup) :
    (l'.filter fun b => b ∈ l) = l := by
  induction hs with
  | slnil => rfl
  | @cons l l' b hs ih =>
    obtain ⟨hb, hn⟩ := List.nodup_cons.1 hn
    rw [List.filter_cons_of_neg (by simpa using fun hmem => hb (hs.subset hmem)), ih hn]
  | @cons_cons l l' b hs ih =>
    obtain ⟨hb, hn⟩ := List.nodup_cons.1 hn
    rw [List.filter_cons_of_pos (by simp)]
    refine congrArg (b :: ·) (Eq.trans (List.filter_congr fun c hc => ?_) (ih hn))
    have hne : c ≠ b := fun h => hb (h ▸ hc)
    simp [hne]

end

namespace Cache

variable {c d : Cache α} {r : Record α} {now : Nat}

/-! ### A cache within another one -/

/-- The records of the cache `c` are some of those of `d`, which has more room but no more free
places than that. -/
structure Within (c d : Cache α) : Prop where
  /-- The records stand in the same order. -/
  records : c.records.Sublist d.records
  /-- There is at least as much room. -/
  capacity : c.capacity ≤ d.capacity
  /-- There are at most as many records more as there is more room. -/
  size : d.size + c.capacity ≤ c.size + d.capacity

/-- The lowest record is the one before which all resist more, and behind which all resist at least
as much. -/
theorem lowest_eq_some_iff {rs : List (Record α)} :
    lowest rs = some r ↔ ∃ before after, rs = before ++ r :: after ∧
      (∀ s ∈ before, r.policy.priority.rank < s.policy.priority.rank) ∧
      ∀ s ∈ after, r.policy.priority.rank ≤ s.policy.priority.rank := by
  refine ⟨lowest_split, ?_⟩
  rintro ⟨before, after, rfl, hbefore, hafter⟩
  induction before with
  | nil =>
    simp only [List.nil_append, lowest]
    split
    next s hs => rw [if_neg (Nat.not_lt.2 (hafter s (mem_of_lowest hs)))]
    next => rfl
  | cons s before ih =>
    obtain ⟨hs, hbefore⟩ := List.forall_mem_cons.1 hbefore
    simp only [List.cons_append, lowest, ih hbefore]
    rw [if_pos hs]

/-- If the record that departs is one of fewer records, it departs from these as well. -/
theorem victim?_of_sublist {rs rs' : List (Record α)} {cause : Cause} (hs : rs.Sublist rs')
    (hn : rs'.Nodup) (hv : victim? rs' now = some (r, cause)) (hr : r ∈ rs) :
    victim? rs now = some (r, cause) := by
  unfold victim? at hv ⊢
  split at hv
  next s hfind =>
    cases hv
    obtain ⟨hexpired, before, after, rfl, hbefore⟩ := List.find?_eq_some_iff_append.1 hfind
    -- fewer records stand in front of `r`, and still none of them has expired
    obtain ⟨before', after', rfl, hbefore', -⟩ := exists_split_of_sublist hs hn hr
    have hfirst : (before' ++ r :: after').find? (fun r => r.expired now) = some r :=
      List.find?_eq_some_iff_append.2
        ⟨hexpired, before', after', rfl, fun s hs => hbefore s (hbefore'.subset hs)⟩
    rw [hfirst]
  next hnone =>
    obtain ⟨s, hlowest, heq⟩ := Option.map_eq_some_iff.1 hv
    cases heq
    obtain ⟨before, after, rfl, hbefore, hafter⟩ := lowest_eq_some_iff.1 hlowest
    obtain ⟨before', after', rfl, hbefore', hafter'⟩ := exists_split_of_sublist hs hn hr
    have hfresh : (before' ++ r :: after').find? (fun r => r.expired now) = none :=
      List.find?_eq_none.2 fun s hs' => List.find?_eq_none.1 hnone s (hs.subset hs')
    -- fewer records stand on either side of `r`, so it is still the lowest one
    have hlowest' : lowest (before' ++ r :: after') = some r :=
      lowest_eq_some_iff.2 ⟨before', after', rfl, fun s hs => hbefore s (hbefore'.subset hs),
        fun s hs => hafter s (hafter'.subset hs)⟩
    rw [hfresh, hlowest']
    rfl

theorem exists_purge_eq (c : Cache α) (now : Nat) (h : c.capacity < c.size) :
    ∃ r cause, victim? c.records now = some (r, cause) ∧ c.purge now = c.evict r cause := by
  have hne : c.records ≠ [] := by
    intro hnil
    simp [size, hnil] at h
  obtain ⟨r, cause, hv⟩ := exists_victim? hne now
  exact ⟨r, cause, hv, by rw [purge, if_neg (Nat.not_le.2 h), hv]⟩

namespace Within

variable (key : String)

/-- What is found in the smaller cache is found in the larger one. -/
theorem find? (h : c.Within d) (hd : d.Tidy) {key : String} (hr : c.find? key = some r) :
    d.find? key = some r := by
  obtain rfl := c.key_of_find? hr
  exact d.find?_of_mem hd.nodup (h.records.subset (c.mem_of_find? hr))

theorem find?_eq_none (h : c.Within d) (hr : d.find? key = none) : c.find? key = none := by
  rw [find?_eq_none_iff] at hr ⊢
  exact fun hmem => hr ((h.records.map Record.key).subset hmem)

theorem without (h : c.Within d) : (c.without key).Sublist (d.without key) := h.records.filter _

/-- A record departs under its key from both caches, or from the larger one only. -/
theorem of_without {c' d' : Cache α} (h : c.Within d) (hc : c.Tidy) (hd : d.Tidy)
    (hr : d.find? key = some r) (hcc : c'.capacity = c.capacity) (hdc : d'.capacity = d.capacity)
    (hc' : c'.records = c.without key) (hd' : d'.records = d.without key) : c'.Within d' := by
  have hcap := h.capacity
  have hsize := h.size
  have hlen := d.length_without hd.nodup (d.mem_of_find? hr)
  rw [d.key_of_find? hr, ← hd'] at hlen
  refine ⟨?_, by omega, ?_⟩
  · rw [hc', hd']
    exact h.without key
  · change d'.records.length + c'.capacity ≤ c'.records.length + d'.capacity
    cases hf : c.find? key with
    | none =>
      rw [hc', c.without_of_not_mem ((c.find?_eq_none_iff).1 hf)]
      change _ ≤ c.size + _
      omega
    | some s =>
      have hlen' := c.length_without hc.nodup (c.mem_of_find? hf)
      rw [c.key_of_find? hf, ← hc'] at hlen'
      omega

theorem seat (h : c.Within d) (hc : c.Tidy) (hd : d.Tidy) (now : Nat) (value : α)
    (policy : Policy) :
    (c.seat now key value policy).Within (d.seat now key value policy) := by
  have hcap := c.capacity_seat now key value policy
  have hcap' := d.capacity_seat now key value policy
  have hle := h.capacity
  have hsize := h.size
  refine ⟨?_, by omega, ?_⟩
  · rw [records_seat, records_seat]
    exact (h.without key).append (.refl _)
  · -- the larger cache grows only if the smaller one does
    have hnone := c.size_seat_of_none now key value policy
    have hnone' := d.size_seat_of_none now key value policy
    cases hf' : d.find? key with
    | none =>
      have hf := h.find?_eq_none key hf'
      have := hnone hf
      have := hnone' hf'
      omega
    | some s =>
      have := d.size_seat_of_some now key value policy hd.nodup hf'
      cases hf : c.find? key with
      | none =>
        have := hnone hf
        omega
      | some r =>
        have := c.size_seat_of_some now key value policy hc.nodup hf
        omega

/-- When a record departs from both caches, it is the same one, or the smaller cache does not hold
the one that departs from the larger. -/
theorem without_victims (h : c.Within d) (hn : d.keys.Nodup) {u v : Record α}
    {cause cause' : Cause} (hu : victim? c.records now = some (u, cause))
    (hv : victim? d.records now = some (v, cause')) :
    (c.without u.key).Sublist (d.without v.key) := by
  have hkept := h.without v.key
  by_cases hmem : v ∈ c.records
  · have hsame := victim?_of_sublist h.records hn.of_map hv hmem
    rw [hu, Option.some.injEq, Prod.mk.injEq] at hsame
    rw [hsame.1]
    exact hkept
  · have hkey : v.key ∉ c.keys := by
      intro hkey
      obtain ⟨s, hs, hsv⟩ := List.mem_map.1 hkey
      have hfound := d.find?_of_mem hn (h.records.subset hs)
      rw [hsv, d.find?_of_mem hn (victim?_cases hv).1, Option.some.injEq] at hfound
      exact hmem (hfound ▸ hs)
    rw [c.without_of_not_mem hkey] at hkept
    exact List.filter_sublist.trans hkept

theorem purge (h : c.Within d) (hn : d.keys.Nodup) (hc : c.size ≤ c.capacity + 1)
    (hd : d.size ≤ d.capacity + 1) (now : Nat) : (c.purge now).1.Within (d.purge now).1 := by
  have hcap := h.capacity
  have hsize := h.size
  rcases Nat.lt_or_ge c.capacity c.size with hfull | hroom
  · have hnc : c.keys.Nodup := hn.sublist (h.records.map Record.key)
    obtain ⟨u, cause, hu, hpurge⟩ := c.exists_purge_eq now hfull
    have hlen := c.length_without hnc (victim?_cases hu).1
    rw [hpurge]
    rcases Nat.lt_or_ge d.capacity d.size with hfull' | hroom'
    · obtain ⟨v, cause', hv, hpurge'⟩ := d.exists_purge_eq now hfull'
      have hlen' := d.length_without hn (victim?_cases hv).1
      rw [hpurge']
      refine ⟨h.without_victims hn hu hv, hcap, ?_⟩
      change (d.without v.key).length + c.capacity ≤ (c.without u.key).length + d.capacity
      omega
    · rw [d.purge_of_room now hroom']
      refine ⟨List.filter_sublist.trans h.records, hcap, ?_⟩
      change d.size + c.capacity ≤ (c.without u.key).length + d.capacity
      omega
  · -- as long as the smaller cache has room, the larger one has room, too
    rw [c.purge_of_room now hroom, d.purge_of_room now (by omega)]
    exact h

theorem insert (h : c.Within d) (hc : c.Tidy) (hd : d.Tidy) (now : Nat) (value : α)
    (policy : Policy) :
    (c.insert now key value policy).1.Within (d.insert now key value policy).1 := by
  have hle := hc.size_le
  have hle' := hd.size_le
  have hsize := c.size_seat_le now key value policy
  have hsize' := d.size_seat_le now key value policy
  have hcap := c.capacity_seat now key value policy
  have hcap' := d.capacity_seat now key value policy
  exact (h.seat key hc hd now value policy).purge (d.nodup_seat now key value policy hd.nodup)
    (by omega) (by omega) now

/-- Reading touches a record in both caches, or in the larger one only. -/
theorem get (h : c.Within d) (hc : c.Tidy) (hd : d.Tidy) (now : Nat) :
    (c.get now key).1.Within (d.get now key).1 := by
  cases hf' : d.find? key with
  | none =>
    have hf := h.find?_eq_none key hf'
    simp only [Cache.get, hf, hf']
    exact ⟨h.records, h.capacity, h.size⟩
  | some s =>
    have hcap := h.capacity
    have hsize := h.size
    have hkey := d.key_of_find? hf'
    have hlen := d.length_without hd.nodup (d.mem_of_find? hf')
    rw [hkey] at hlen
    cases hf : c.find? key with
    | none =>
      have hsame := c.without_of_not_mem ((c.find?_eq_none_iff).1 hf)
      simp only [Cache.get, hf, hf']
      split
      · exact h.of_without key hc hd hf' rfl rfl hsame.symm (by rw [← hkey]; rfl)
      · -- the smaller cache has no record of the key, so its records stay in front
        have hfront := h.without key
        rw [hsame] at hfront
        refine ⟨hfront.trans (List.sublist_append_left _ _), hcap, ?_⟩
        change ((d.without key) ++ [_]).length + c.capacity ≤ c.size + d.capacity
        rw [List.length_append, List.length_singleton]
        omega
    | some r =>
      obtain rfl : s = r := by
        have := h.find? hd hf
        rw [hf'] at this
        exact Option.some.inj this
      have hlen' := c.length_without hc.nodup (c.mem_of_find? hf)
      rw [hkey] at hlen'
      simp only [Cache.get, hf, hf']
      split
      · exact h.of_without key hc hd hf' rfl rfl (by rw [← hkey]; rfl) (by rw [← hkey]; rfl)
      · refine ⟨(h.without key).append (.refl _), hcap, ?_⟩
        change ((d.without key) ++ [_]).length + c.capacity ≤
          ((c.without key) ++ [_]).length + d.capacity
        simp only [List.length_append, List.length_singleton]
        omega

theorem remove (h : c.Within d) (hc : c.Tidy) (hd : d.Tidy) :
    (c.remove key).1.Within (d.remove key).1 := by
  cases hf' : d.find? key with
  | none =>
    simp only [Cache.remove, h.find?_eq_none key hf', hf']
    exact h
  | some s =>
    cases hf : c.find? key with
    | none =>
      have hsame := c.without_of_not_mem ((c.find?_eq_none_iff).1 hf)
      simp only [Cache.remove, hf, hf']
      exact h.of_without key hc hd hf' rfl rfl hsame.symm rfl
    | some r =>
      simp only [Cache.remove, hf, hf']
      exact h.of_without key hc hd hf' rfl rfl rfl rfl

/-- Every operation keeps a cache within another one. -/
theorem perform (h : c.Within d) (hc : c.Tidy) (hd : d.Tidy) (now : Nat) (op : Op α) :
    (c.perform now op).1.Within (d.perform now op).1 := by
  cases op with
  | insert key value policy => exact h.insert key hc hd now value policy
  | get key => exact h.get key hc hd now
  | peek | contains => exact h
  | remove key => exact h.remove key hc hd
  | clear =>
    refine ⟨.refl _, h.capacity, ?_⟩
    exact Nat.add_le_add_left h.capacity 0

theorem run (h : c.Within d) (hc : c.Tidy) (hd : d.Tidy) (ops : List (Nat × Op α)) :
    (c.run ops).1.Within (d.run ops).1 := by
  induction ops generalizing c d with
  | nil => exact h
  | cons step ops ih =>
    exact ih (h.perform hc hd step.1 step.2) (hc.perform step.1 step.2) (hd.perform step.1 step.2)

theorem filter_keys (h : c.Within d) (hd : d.Tidy) :
    (d.keys.filter fun key => key ∈ c.keys) = c.keys :=
  filter_mem_eq_of_sublist (h.records.map Record.key) hd.nodup

end Within

end Cache

/-! ### The time does not matter -/

namespace Record

/-- The record has expired for good. -/
def Gone (r : Record α) (now : Nat) : Prop := ∀ later, now ≤ later → r.expired later = true

theorem gone_of_expired {r : Record α} (h : r.expired r.touched = true) : r.Gone r.touched := by
  obtain ⟨key, value, ⟨priority, expiresAt, expiresAfter, observed⟩, touched⟩ := r
  intro later hlater
  cases expiresAt <;> cases expiresAfter <;>
    simp only [expired, Bool.or_eq_true, decide_eq_true_eq, Bool.false_eq_true, or_false,
      false_or] at h hlater ⊢ <;> omega

/-- Two records that hold the same and have expired for good, or never will.  They may have been
touched at different times, the one up to `now`, the other one up to `now'`. -/
structure Twin (now now' : Nat) (r s : Record α) : Prop where
  /-- The keys are equal. -/
  key : r.key = s.key
  /-- The values are equal. -/
  value : r.value = s.value
  /-- The policies are equal. -/
  policy : r.policy = s.policy
  /-- Both have expired for good, or neither ever will. -/
  settled : r.policy.Lasting ∨ r.Gone now ∧ s.Gone now'

namespace Twin

variable {r s : Record α} {now now' later later' : Nat}

theorem mono (h : r.Twin now now' s) (hl : now ≤ later) (hl' : now' ≤ later') :
    r.Twin later later' s := by
  refine ⟨h.key, h.value, h.policy, h.settled.imp_right ?_⟩
  rintro ⟨hr, hs⟩
  exact ⟨fun t ht => hr t (Nat.le_trans hl ht), fun t ht => hs t (Nat.le_trans hl' ht)⟩

theorem expired (h : r.Twin now now' s) : r.expired now = s.expired now' := by
  rcases h.settled with hlasting | ⟨hr, hs⟩
  · rw [hlasting.expired now, (h.policy ▸ hlasting : s.policy.Lasting).expired now']
  · rw [hr now (Nat.le_refl _), hs now' (Nat.le_refl _)]

theorem touch (h : r.Twin now now' s) (he : r.expired now = false) :
    ({ r with touched := now } : Record α).Twin now now' { s with touched := now' } := by
  refine ⟨h.key, h.value, h.policy, .inl (h.settled.resolve_right fun hgone => ?_)⟩
  rw [hgone.1 now (Nat.le_refl _)] at he
  cases he

end Twin

end Record

namespace Cache

/-- If the operation puts a record in, it has expired by then, or it never will. -/
def Op.Timeless (now : Nat) : Op α → Prop
  | .insert key value policy =>
    policy.Lasting ∨ (⟨key, value, policy, now⟩ : Record α).expired now = true
  | .get _ | .peek _ | .contains _ | .remove _ | .clear => True

/-- Two caches that hold the same and were used at different times. -/
structure Twins (now now' : Nat) (c d : Cache α) : Prop where
  /-- There is the same room in both. -/
  capacity : c.capacity = d.capacity
  /-- The records are twins, one by one. -/
  records : List.Forall₂ (Record.Twin now now') c.records d.records

section

variable {R : Record α → Record α → Prop} {rs ss : List (Record α)} {p q : Record α → Bool}

theorem rel_find? (h : List.Forall₂ R rs ss) (hpq : ∀ r s, R r s → p r = q s) :
    Option.Rel R (rs.find? p) (ss.find? q) := by
  induction h with
  | nil => exact .none
  | @cons r s rs ss hr _ ih =>
    rw [List.find?_cons, List.find?_cons, hpq r s hr]
    cases q s with
    | true => exact .some hr
    | false => exact ih

theorem rel_lowest (h : List.Forall₂ R rs ss) (hR : ∀ r s, R r s → r.policy = s.policy) :
    Option.Rel R (lowest rs) (lowest ss) := by
  induction h with
  | nil => exact .none
  | @cons r s rs ss hr _ ih =>
    simp only [lowest]
    generalize lowest rs = low, lowest ss = low' at ih
    cases ih with
    | none => exact .some hr
    | @some t u ht =>
      simp only [hR r s hr, hR t u ht]
      split
      · exact .some ht
      · exact .some hr

end

namespace Twins

variable {c d : Cache α} {now now' later later' : Nat} (key : String)

theorem mono (h : c.Twins now now' d) (hl : now ≤ later) (hl' : now' ≤ later') :
    c.Twins later later' d :=
  ⟨h.capacity, h.records.imp fun _ _ hr => hr.mono hl hl'⟩

theorem size_eq (h : c.Twins now now' d) : c.size = d.size := h.records.length_eq

theorem keys_eq (h : c.Twins now now' d) : c.keys = d.keys := by
  rw [keys, keys, ← List.forall₂_eq_eq_eq, List.forall₂_map_left_iff, List.forall₂_map_right_iff]
  exact h.records.imp fun _ _ hr => hr.key

theorem rel_find? (h : c.Twins now now' d) :
    Option.Rel (Record.Twin now now') (c.find? key) (d.find? key) :=
  Cache.rel_find? h.records fun r s hr => by rw [hr.key]

theorem rel_without (h : c.Twins now now' d) {key key' : String} (hk : key = key') :
    List.Forall₂ (Record.Twin now now') (c.without key) (d.without key') := by
  subst hk
  refine List.rel_filter (fun r s hr => ?_) h.records
  simp [hr.key]

theorem purge (h : c.Twins now now' d) : (c.purge now).1.Twins now now' (d.purge now').1 := by
  have hvictim : Option.Rel (fun u v => u.1.Twin now now' v.1) (victim? c.records now)
      (victim? d.records now') := by
    have hfind := Cache.rel_find? h.records fun r s (hr : r.Twin now now' s) => hr.expired
    have hlowest := rel_lowest h.records fun r s (hr : r.Twin now now' s) => hr.policy
    unfold victim?
    generalize c.records.find? (fun r => r.expired now) = found,
      d.records.find? (fun r => r.expired now') = found' at hfind
    generalize lowest c.records = low, lowest d.records = low' at hlowest
    cases hfind with
    | none =>
      cases hlowest with
      | none => exact .none
      | some hr => exact .some hr
    | some hr => exact .some hr
  simp only [Cache.purge, h.size_eq, h.capacity]
  generalize victim? c.records now = v, victim? d.records now' = v' at hvictim
  split
  · exact h
  · cases hvictim with
    | none => exact h
    | some hr => exact ⟨h.capacity, h.rel_without hr.key⟩

theorem insert (h : c.Twins now now' d) (value : α) (policy : Policy)
    (ht : (Op.insert key value policy).Timeless now)
    (ht' : (Op.insert key value policy).Timeless now') :
    (c.insert now key value policy).1.Twins now now' (d.insert now' key value policy).1 := by
  -- both clocks agree on the new record: it never expires, or it has expired for good by both
  have hnew : (⟨key, value, policy, now⟩ : Record α).Twin now now' ⟨key, value, policy, now'⟩ := by
    refine ⟨rfl, rfl, rfl, ?_⟩
    rcases ht with hlasting | hexpired
    · exact .inl hlasting
    · rcases ht' with hlasting | hexpired'
      · exact .inl hlasting
      · exact .inr ⟨Record.gone_of_expired hexpired, Record.gone_of_expired hexpired'⟩
  have hseat : (c.seat now key value policy).Twins now now' (d.seat now' key value policy) := by
    refine ⟨?_, ?_⟩
    · rw [capacity_seat, capacity_seat, h.capacity]
    · rw [records_seat, records_seat]
      exact List.rel_append (h.rel_without rfl) (.cons hnew .nil)
  exact hseat.purge

theorem get (h : c.Twins now now' d) : (c.get now key).1.Twins now now' (d.get now' key).1 := by
  have hfind := h.rel_find? key
  unfold Cache.get
  generalize c.find? key = found, d.find? key = found' at hfind
  cases hfind with
  | none => exact ⟨h.capacity, h.records⟩
  | @some r s hr =>
    simp only [← hr.expired]
    cases he : r.expired now with
    | true => exact ⟨h.capacity, h.rel_without hr.key⟩
    | false =>
      exact ⟨h.capacity, List.rel_append (h.rel_without rfl) (.cons (hr.touch he) .nil)⟩

theorem remove (h : c.Twins now now' d) : (c.remove key).1.Twins now now' (d.remove key).1 := by
  have hfind := h.rel_find? key
  unfold Cache.remove
  generalize c.find? key = found, d.find? key = found' at hfind
  cases hfind with
  | none => exact h
  | some => exact ⟨h.capacity, h.rel_without rfl⟩

/-- An operation on records that do not depend on the time keeps caches twins. -/
theorem perform (h : c.Twins now now' d) {op : Op α} (ht : op.Timeless now)
    (ht' : op.Timeless now') : (c.perform now op).1.Twins now now' (d.perform now' op).1 := by
  cases op with
  | insert key value policy => exact h.insert key value policy ht ht'
  | get key => exact h.get key
  | peek | contains => exact h
  | remove key => exact h.remove key
  | clear => exact ⟨h.capacity, .nil⟩

end Twins

/-- The operations are carried out one after another, and none before `now`. -/
def Chronological (now : Nat) (ops : List (Nat × Op α)) : Prop :=
  (now :: ops.map Prod.fst).Pairwise (· ≤ ·)

theorem Twins.run {c d : Cache α} {now now' : Nat} (h : c.Twins now now' d)
    {ops ops' : List (Nat × Op α)} (hsame : ops.map Prod.snd = ops'.map Prod.snd)
    (hc : Chronological now ops) (hc' : Chronological now' ops')
    (ht : ∀ step ∈ ops, step.2.Timeless step.1) (ht' : ∀ step ∈ ops', step.2.Timeless step.1) :
    ∃ later later', (c.run ops).1.Twins later later' (d.run ops').1 := by
  induction ops generalizing c d now now' ops' with
  | nil =>
    cases ops' with
    | nil => exact ⟨now, now', h⟩
    | cons => cases hsame
  | cons step ops ih =>
    cases ops' with
    | nil => cases hsame
    | cons step' ops' =>
      obtain ⟨t, op⟩ := step
      obtain ⟨t', op'⟩ := step'
      obtain ⟨hop, hrest⟩ := List.cons.inj hsame
      obtain rfl : op = op' := hop
      obtain ⟨hle, hc⟩ := List.pairwise_cons.1 hc
      obtain ⟨hle', hc'⟩ := List.pairwise_cons.1 hc'
      obtain ⟨hstep, ht⟩ := List.forall_mem_cons.1 ht
      obtain ⟨hstep', ht'⟩ := List.forall_mem_cons.1 ht'
      have hready : c.Twins t t' d :=
        h.mono (hle t List.mem_cons_self) (hle' t' List.mem_cons_self)
      exact ih (hready.perform hstep hstep') hrest hc hc' ht ht'

/-! ### More room -/

/-- **More room loses nothing.**  The same operations are carried out on two caches, and the second
one may hold at least as many records; each goes by its own clock, which never goes back.  Every
record has expired when it is put in, or it never expires.  Then after every operation each key of
the first cache is a key of the second one, with the same value, and the keys that both hold stand
in the same order in both. -/
theorem more_room_keeps {capacity capacity' : Nat} (hroom : capacity ≤ capacity')
    {ops ops' : List (Nat × Op α)} (hsame : ops.map Prod.snd = ops'.map Prod.snd)
    (hclock : (ops.map Prod.fst).Pairwise (· ≤ ·)) (hclock' : (ops'.map Prod.fst).Pairwise (· ≤ ·))
    (ht : ∀ step ∈ ops, step.2.Timeless step.1) (ht' : ∀ step ∈ ops', step.2.Timeless step.1)
    (n : Nat) :
    let c := ((new capacity).run (ops.take n)).1
    let d := ((new capacity').run (ops'.take n)).1
    (∀ key r, c.find? key = some r → ∃ s, d.find? key = some s ∧ s.value = r.value) ∧
      (d.keys.filter fun key => key ∈ c.keys) = c.keys := by
  intro c d
  -- the first cache holds what one like it holds that goes by the clock of the second
  obtain ⟨later, later', htwins⟩ : ∃ later later',
      c.Twins later later' ((new capacity).run (ops'.take n)).1 := by
    have hstart : (new capacity : Cache α).Twins 0 0 (new capacity) := ⟨rfl, .nil⟩
    refine hstart.run ?_ ?_ ?_ (fun step hstep => ht step (List.mem_of_mem_take hstep))
      fun step hstep => ht' step (List.mem_of_mem_take hstep)
    · rw [List.map_take, List.map_take, hsame]
    · refine List.pairwise_cons.2 ⟨fun _ _ => Nat.zero_le _, ?_⟩
      exact hclock.sublist ((List.take_sublist n ops).map Prod.fst)
    · refine List.pairwise_cons.2 ⟨fun _ _ => Nat.zero_le _, ?_⟩
      exact hclock'.sublist ((List.take_sublist n ops').map Prod.fst)
  have hwithin : ((new capacity).run (ops'.take n)).1.Within d := by
    have hle : max capacity 1 ≤ max capacity' 1 := by omega
    have hstart : (new capacity : Cache α).Within (new capacity') :=
      ⟨.refl _, hle, Nat.add_le_add_left hle 0⟩
    exact hstart.run (tidy_new capacity) (tidy_new capacity') _
  have hd : d.Tidy := (tidy_new capacity').run _
  refine ⟨fun key r hr => ?_, ?_⟩
  · have hfind := htwins.rel_find? key
    rw [hr] at hfind
    generalize hfound : ((new capacity).run (ops'.take n)).1.find? key = found at hfind
    cases hfind with
    | @some _ s hs => exact ⟨s, hwithin.find? hd hfound, hs.value.symm⟩
  · rw [htwins.keys_eq]
    exact hwithin.filter_keys hd

/-- Operations that press two caches of different capacity: a record of low priority, one that has
expired when it comes, and one for which another one has to depart. -/
def pressing (clock : List Nat) : List (Nat × Op Nat) :=
  clock.zip [.insert "a" 1 ⟨.high, none, none, true⟩, .insert "b" 2 ⟨.low, none, none, true⟩,
    .get "a", .insert "c" 3 ⟨.high, some 0, none, true⟩,
    .insert "d" 4 ⟨.normal, none, none, true⟩, .remove "b"]

/-- The theorem applies to them, on two clocks and before the last one: the smaller cache has given
up two records by then, and the larger one only the one that had expired. -/
theorem more_room_keeps_pressing :
    let ops := pressing [0, 1, 2, 2, 4, 5]
    let ops' := pressing [0, 0, 7, 7, 8, 9]
    let c := ((new 2).run (ops.take 5)).1
    let d := ((new 3).run (ops'.take 5)).1
    2 ≤ 3 ∧ ops.map Prod.snd = ops'.map Prod.snd ∧ (ops.map Prod.fst).Pairwise (· ≤ ·) ∧
      (ops'.map Prod.fst).Pairwise (· ≤ ·) ∧ (∀ step ∈ ops, step.2.Timeless step.1) ∧
      (∀ step ∈ ops', step.2.Timeless step.1) ∧ c.keys = ["a", "d"] ∧ d.keys = ["b", "a", "d"] ∧
      (∀ key r, c.find? key = some r → ∃ s, d.find? key = some s ∧ s.value = r.value) ∧
      (d.keys.filter fun key => key ∈ c.keys) = c.keys := by
  intro ops ops' c d
  have hsame : ops.map Prod.snd = ops'.map Prod.snd := rfl
  have hclock : (ops.map Prod.fst).Pairwise (· ≤ ·) := by decide
  have hclock' : (ops'.map Prod.fst).Pairwise (· ≤ ·) := by decide
  have ht (clock : List Nat) : ∀ step ∈ pressing clock, step.2.Timeless step.1 := by
    intro step hstep
    have hop := (List.of_mem_zip hstep).2
    simp only [List.mem_cons, List.not_mem_nil, or_false] at hop
    rcases hop with hop | hop | hop | hop | hop | hop <;>
      simp [hop, Op.Timeless, Policy.Lasting, Record.expired]
  exact ⟨by decide, hsame, hclock, hclock', ht _, ht _, by decide, by decide,
    more_room_keeps (by decide) hsame hclock hclock' (ht _) (ht _) 5⟩

end Cache

end GraphStore
