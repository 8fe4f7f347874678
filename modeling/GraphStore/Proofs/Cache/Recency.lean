import GraphStore.Proofs.Cache.Bounds

/-!
# Which record departs

The moments of their last touches do not tell the records of a cache apart, since much can happen
at one moment; only the order in which they stand does.  Here the operations of a run are numbered,
and a key was touched last by the operation with a certain number (`Cache.lastTouch`): one that put
a value in under it, or one that read the value.

* `Cache.InOrder.run` : the keys of a cache stand in the order in which they were touched last.
* `Cache.victim?_oldest` : so the first record of its sort that a purge comes across is the one of
  its sort that was not touched for the longest time.
* `Cache.oldest_departs` : what departs when a value is put in and there is no room for it.
-/

namespace GraphStore

namespace Cache

variable {α : Type}

/-! ### Touches -/

/-- The key that an operation with this answer touches: the one under which it puts a value in,
or the one whose value it reads. -/
def Op.touched? : Op α → Answer α → Option String
  | .insert key _ _, _ => some key
  | .get key, .value (some _) => some key
  | _, _ => none

/-- The keys that operations touch, in order, with a gap for an operation that touches none. -/
def touches (c : Cache α) : List (Nat × Op α) → List (Option String)
  | [] => []
  | (now, op) :: ops =>
    op.touched? (c.perform now op).2.1 :: touches (c.perform now op).1 ops

/-- The number of the operation that touched a key last, the first one having number one; zero if
none did. -/
def lastTouch (touched : List (Option String)) (key : String) : Nat :=
  touched.length - touched.reverse.idxOf (some key)

section

variable (touched : List (Option String)) (key : String)

@[simp] theorem lastTouch_snoc_self :
    lastTouch (touched ++ [some key]) key = touched.length + 1 := by
  simp [lastTouch]

theorem lastTouch_snoc_of_ne {t : Option String} (h : t ≠ some key) :
    lastTouch (touched ++ [t]) key = lastTouch touched key := by
  have hidx : (t :: touched.reverse).idxOf (some key) = touched.reverse.idxOf (some key) + 1 :=
    List.idxOf_cons_ne _ h
  rw [lastTouch, List.reverse_append, List.reverse_singleton, List.singleton_append, hidx,
    List.length_append, List.length_singleton, Nat.add_sub_add_right]
  rfl

theorem lastTouch_le : lastTouch touched key ≤ touched.length := Nat.sub_le _ _

end

/-- The keys stand in the order in which they were touched last. -/
structure InOrder (touched : List (Option String)) (keys : List String) : Prop where
  /-- Each of them was touched. -/
  pos : ∀ key ∈ keys, 0 < lastTouch touched key
  /-- The ones before were touched before. -/
  sorted : keys.Pairwise fun k l => lastTouch touched k < lastTouch touched l

namespace InOrder

variable {touched : List (Option String)} {keys keys' : List String} {c : Cache α}

theorem nil : InOrder touched [] := ⟨List.forall_mem_nil _, .nil⟩

theorem sublist (h : InOrder touched keys) (hs : keys'.Sublist keys) : InOrder touched keys' :=
  ⟨fun key hkey => h.pos key (hs.subset hkey), h.sorted.sublist hs⟩

theorem idle (h : InOrder touched keys) : InOrder (touched ++ [none]) keys := by
  have hsame (key : String) : lastTouch (touched ++ [none]) key = lastTouch touched key :=
    lastTouch_snoc_of_ne touched key nofun
  refine ⟨fun key hkey => ?_, h.sorted.imp fun hlt => ?_⟩
  · rw [hsame]
    exact h.pos key hkey
  · rw [hsame, hsame]
    exact hlt

theorem touch (h : InOrder touched keys) {key : String} (hkey : key ∉ keys) :
    InOrder (touched ++ [some key]) (keys ++ [key]) := by
  have hother (k : String) (hk : k ∈ keys) :
      lastTouch (touched ++ [some key]) k = lastTouch touched k := by
    refine lastTouch_snoc_of_ne touched k fun heq => hkey ?_
    rw [Option.some.inj heq]
    exact hk
  refine ⟨fun k hk => ?_, List.pairwise_append.2 ⟨?_, List.pairwise_singleton _ _, ?_⟩⟩
  · rcases List.mem_append.1 hk with hk | hk
    · rw [hother k hk]
      exact h.pos k hk
    · rw [List.mem_singleton.1 hk, lastTouch_snoc_self]
      omega
  · refine h.sorted.imp_of_mem fun {k l} hk hl hlt => ?_
    rw [hother k hk, hother l hl]
    exact hlt
  · intro k hk l hl
    have hle := lastTouch_le touched k
    rw [List.mem_singleton.1 hl, hother k hk, lastTouch_snoc_self]
    omega

/-! ### Operations keep the order -/

theorem without_snoc (h : InOrder touched c.keys) {key : String} {r : Record α} (hr : r.key = key) :
    InOrder (touched ++ [some key]) ((c.without key ++ [r]).map Record.key) := by
  have hrest : InOrder touched ((c.without key).map Record.key) :=
    h.sublist (List.Sublist.map _ List.filter_sublist)
  have hnot : key ∉ (c.without key).map Record.key := by
    intro hkey
    obtain ⟨s, hs, hskey⟩ := List.mem_map.1 hkey
    exact ((c.mem_without).1 hs).2 hskey
  rw [List.map_append, List.map_singleton, hr]
  exact hrest.touch hnot

theorem purge (h : InOrder touched c.keys) (now : Nat) : InOrder touched (c.purge now).1.keys := by
  refine h.sublist ?_
  unfold Cache.purge
  split
  · exact .refl _
  · split
    · exact List.Sublist.map _ List.filter_sublist
    · exact .refl _

theorem insert (h : InOrder touched c.keys) (now : Nat) (key : String) (value : α)
    (policy : Policy) :
    InOrder (touched ++ [some key]) (c.insert now key value policy).1.keys := by
  have hseat : InOrder (touched ++ [some key]) (c.seat now key value policy).keys := by
    rw [keys, records_seat]
    exact h.without_snoc rfl
  rw [insert_eq]
  exact hseat.purge now

theorem get (h : InOrder touched c.keys) (now : Nat) (key : String) :
    InOrder (touched ++ [(Op.get key).touched? (.value (c.get now key).2.1)])
      (c.get now key).1.keys := by
  unfold Cache.get
  split
  next => exact h.idle
  next r hr =>
    have hkey := c.key_of_find? hr
    split
    next => exact (h.sublist (List.Sublist.map _ List.filter_sublist)).idle
    next => exact h.without_snoc (r := { r with touched := now }) hkey

theorem remove (h : InOrder touched c.keys) (key : String) :
    InOrder (touched ++ [none]) (c.remove key).1.keys := by
  unfold Cache.remove
  split
  next => exact h.idle
  next => exact (h.sublist (List.Sublist.map _ List.filter_sublist)).idle

/-- After every operation the keys stand in the order in which they were touched last. -/
theorem perform (h : InOrder touched c.keys) (now : Nat) (op : Op α) :
    InOrder (touched ++ [op.touched? (c.perform now op).2.1]) (c.perform now op).1.keys := by
  cases op with
  | insert key value policy => exact h.insert now key value policy
  | get key => exact h.get now key
  | peek | contains => exact h.idle
  | remove key => exact h.remove key
  | clear => exact nil

theorem run (h : InOrder touched c.keys) (ops : List (Nat × Op α)) :
    InOrder (touched ++ c.touches ops) (c.run ops).1.keys := by
  induction ops generalizing c touched with
  | nil => simpa [touches, Cache.run] using h
  | cons step ops ih =>
    obtain ⟨now, op⟩ := step
    have hrest := ih (h.perform now op)
    rw [List.append_assoc] at hrest
    exact hrest

end InOrder

theorem touches_append (c : Cache α) (ops ops' : List (Nat × Op α)) :
    c.touches (ops ++ ops') = c.touches ops ++ (c.run ops).1.touches ops' := by
  induction ops generalizing c with
  | nil => rfl
  | cons step ops ih =>
    obtain ⟨now, op⟩ := step
    exact congrArg _ (ih (c.perform now op).1)

/-! ### The record that departs -/

/-- Of the records with a property, the one whose key was not touched for the longest time. -/
structure Oldest (touched : List (Option String)) (rs : List (Record α)) (p : Record α → Prop)
    (r : Record α) : Prop where
  /-- It is one of the records. -/
  mem : r ∈ rs
  /-- It has the property. -/
  holds : p r
  /-- All others with the property were touched later. -/
  first : ∀ s ∈ rs, p s → s ≠ r → lastTouch touched r.key < lastTouch touched s.key

/-- No record resists less. -/
def Weakest (rs : List (Record α)) (r : Record α) : Prop :=
  ∀ s ∈ rs, r.policy.priority.rank ≤ s.policy.priority.rank

variable {touched : List (Option String)} {rs : List (Record α)} {r : Record α} {now : Nat}
  {cause : Cause}

/-- Among records in order, the first one with a property is the oldest. -/
theorem Oldest.of_split {p : Record α → Prop} {before after : List (Record α)}
    (ho : InOrder touched (rs.map Record.key)) (heq : rs = before ++ r :: after) (hr : p r)
    (hbefore : ∀ s ∈ before, ¬ p s) : Oldest touched rs p r := by
  subst heq
  have hsorted := ho.sorted
  rw [List.map_append, List.map_cons, List.pairwise_append, List.pairwise_cons] at hsorted
  obtain ⟨-, ⟨hafter, -⟩, -⟩ := hsorted
  refine ⟨by simp, hr, fun s hs hp hne => ?_⟩
  rcases List.mem_append.1 hs with hs | hs
  · exact absurd hp (hbefore s hs)
  · rcases List.mem_cons.1 hs with rfl | hs
    · exact absurd rfl hne
    · exact hafter s.key (List.mem_map_of_mem hs)

/-- The first record of the lowest priority: the ones before it resist more, and the ones behind
it at least as much. -/
theorem lowest_split (h : lowest rs = some r) :
    ∃ before after, rs = before ++ r :: after ∧
      (∀ s ∈ before, r.policy.priority.rank < s.policy.priority.rank) ∧
      ∀ s ∈ after, r.policy.priority.rank ≤ s.policy.priority.rank := by
  induction rs generalizing r with
  | nil => cases h
  | cons s rest ih =>
    simp only [lowest] at h
    split at h
    next t ht =>
      obtain ⟨before, after, rfl, hbefore, hafter⟩ := ih ht
      split at h
      next hlt =>
        cases h
        exact ⟨s :: before, after, rfl, List.forall_mem_cons.2 ⟨hlt, hbefore⟩, hafter⟩
      next hle =>
        -- `s` stays the lowest one, since no later record is lower than `t`
        cases h
        refine ⟨[], _, rfl, List.forall_mem_nil _, fun u hu => ?_⟩
        have hs : s.policy.priority.rank ≤ t.policy.priority.rank := Nat.le_of_not_lt hle
        rcases List.mem_append.1 hu with hu | hu
        · exact Nat.le_trans hs (Nat.le_of_lt (hbefore u hu))
        · rcases List.mem_cons.1 hu with rfl | hu
          · exact hs
          · exact Nat.le_trans hs (hafter u hu)
    next hnone =>
      cases h
      have hrest : rest = [] := by
        by_contra hne
        obtain ⟨t, ht⟩ := exists_lowest hne
        rw [hnone] at ht
        cases ht
      subst hrest
      exact ⟨[], [], rfl, List.forall_mem_nil _, List.forall_mem_nil _⟩

/-- Among records in order, the oldest expired one departs, or else the oldest of the weakest. -/
theorem victim?_oldest (ho : InOrder touched (rs.map Record.key))
    (h : victim? rs now = some (r, cause)) :
    cause = .expired ∧ Oldest touched rs (fun s => s.expired now = true) r ∨
      cause = .capacity ∧ (∀ s ∈ rs, s.expired now = false) ∧ Oldest touched rs (Weakest rs) r := by
  unfold victim? at h
  split at h
  next s hs =>
    cases h
    obtain ⟨hexpired, before, after, heq, hbefore⟩ := List.find?_eq_some_iff_append.1 hs
    refine .inl ⟨rfl, .of_split ho heq hexpired fun s hs => ?_⟩
    simpa using hbefore s hs
  next hnone =>
    obtain ⟨s, hs, heq⟩ := Option.map_eq_some_iff.1 h
    cases heq
    refine .inr ⟨rfl, fun t ht => by simpa using List.find?_eq_none.1 hnone t ht, ?_⟩
    -- all records before the lowest one are above it, so none of them is among the weakest
    obtain ⟨before, after, rfl, hbefore, hafter⟩ := lowest_split hs
    refine .of_split ho rfl ?_ ?_
    · intro t ht
      rcases List.mem_append.1 ht with ht | ht
      · exact Nat.le_of_lt (hbefore t ht)
      · rcases List.mem_cons.1 ht with rfl | ht
        · exact Nat.le_refl _
        · exact hafter t ht
    · intro t ht hweakest
      have hle : t.policy.priority.rank ≤ r.policy.priority.rank := hweakest r (by simp)
      have hlt := hbefore t ht
      omega

/-- **Which record departs.**  Put values into an empty cache, read them and take them out, in any
order and at any moments.  Then the keys stand in the order in which they were touched last.  Put
one more value in, and call all records that are stored then `stored`, the new one with them.  If
they are no more than the cache may hold, all of them stay.  Otherwise exactly one departs: the
oldest expired one, if any has expired, and else the oldest of those with the lowest priority. -/
theorem oldest_departs (capacity : Nat) (ops : List (Nat × Op α)) :
    let c := ((new capacity : Cache α).run ops).1
    let touched := (new capacity : Cache α).touches ops
    ((∀ key ∈ c.keys, 0 < lastTouch touched key) ∧
      c.keys.Pairwise fun k l => lastTouch touched k < lastTouch touched l) ∧
    ∀ (now : Nat) (key : String) (value : α) (policy : Policy),
      let stored := c.without key ++ [⟨key, value, policy, now⟩]
      let touched' := (new capacity : Cache α).touches (ops ++ [(now, .insert key value policy)])
      let after := c.insert now key value policy
      (stored.length ≤ max capacity 1 → after.1.records = stored) ∧
      (max capacity 1 < stored.length → ∃ r cause,
        stored.Perm (r :: after.1.records) ∧ after.2 = r.depart cause ∧
        (cause = .expired ∧ Oldest touched' stored (fun s => s.expired now = true) r ∨
          cause = .capacity ∧ (∀ s ∈ stored, s.expired now = false) ∧
            Oldest touched' stored (Weakest stored) r)) := by
  intro c touched
  have htidy : c.Tidy := (tidy_new capacity).run ops
  have hcap : c.capacity = max capacity 1 := capacity_run _ ops
  have hstart : InOrder [] (new capacity : Cache α).keys := .nil
  have horder : InOrder touched c.keys := hstart.run ops
  refine ⟨⟨horder.pos, horder.sorted⟩, ?_⟩
  intro now key value policy stored touched' after
  have hstored : (c.seat now key value policy).records = stored :=
    c.records_seat now key value policy
  have hsize : (c.seat now key value policy).size = stored.length := congrArg List.length hstored
  have htouched : touched' = touched ++ [some key] := touches_append _ ops _
  have hi : Inserted c now key value policy after := htidy.insert_cases now key value policy
  have hle := htidy.size_le
  generalize hafter : after = result at hi
  cases hi with
  | replaced hfind =>
    have hsame := c.size_seat_of_some now key value policy htidy.nodup hfind
    exact ⟨fun _ => hstored, fun hlt => absurd hlt (by omega)⟩
  | added hfind hroom =>
    have hmore := c.size_seat_of_none now key value policy hfind
    exact ⟨fun _ => hstored, fun hlt => absurd hlt (by omega)⟩
  | @crowded r cause hfind hfull hv =>
    have hmore := c.size_seat_of_none now key value policy hfind
    rw [hstored] at hv
    refine ⟨fun hfits => absurd hfits (by omega), fun _ => ⟨r, cause, ?_, rfl, ?_⟩⟩
    · have hperm := perm_without _ (c.nodup_seat now key value policy htidy.nodup)
        (hstored ▸ (victim?_cases hv).1)
      rw [hstored] at hperm
      exact hperm
    · rw [htouched]
      exact victim?_oldest (horder.without_snoc rfl) hv

/-- Operations that fill a cache of two places; the value under `a` is read again, and the one
under `b` is only looked at. -/
def readAgain : List (Nat × Op Nat) :=
  [(0, .insert "a" 1 ⟨.low, some 5, none, true⟩), (1, .insert "b" 2 ⟨.low, none, none, true⟩),
    (2, .get "a"), (3, .peek "b")]

/-- The theorem applies to a third value: the one under `b` departs for it, and later, when the
one under `a` has expired, that one. -/
theorem oldest_departs_readAgain :
    let c := ((new 2).run readAgain).1
    let policy : Policy := ⟨.normal, none, none, true⟩
    let stored := c.without "c" ++ [⟨"c", 3, policy, 4⟩]
    let touched := (new 2).touches (readAgain ++ [(4, .insert "c" 3 policy)])
    max 2 1 < stored.length ∧
      (∃ r cause, stored.Perm (r :: (c.insert 4 "c" 3 policy).1.records) ∧
        (c.insert 4 "c" 3 policy).2 = r.depart cause ∧
        (cause = .expired ∧ Oldest touched stored (fun s => s.expired 4 = true) r ∨
          cause = .capacity ∧ (∀ s ∈ stored, s.expired 4 = false) ∧
            Oldest touched stored (Weakest stored) r)) ∧
      (c.insert 4 "c" 3 policy).2 = [⟨"b", .capacity, 2⟩] ∧
      (c.insert 9 "c" 3 policy).2 = [⟨"a", .expired, 1⟩] := by
  intro c policy stored touched
  have hfull : max 2 1 < stored.length := by decide
  exact ⟨hfull, ((oldest_departs 2 readAgain).2 4 "c" 3 policy).2 hfull, by decide, by decide⟩

end Cache

end GraphStore
