import GraphStore.Proofs.Store.Turns
import Mathlib.Data.List.Dedup
import Mathlib.Data.List.DropRight
import Mathlib.Data.List.Perm.Subperm

/-!
# What a batch leaves behind

A batch can push its own entities out again, and what comes later in it is compared with what is
left.  All the same, the keys after it can be told from the keys before it and from the ids that
were written: go through all of them, count an id where it comes last, and keep as many of the last
ones as there is room for.

* `Cache.Rewritten` : the cache after entities are written; one more of them is a step
  (`Cache.Rewritten.snoc`), since cutting a list twice leaves what cutting it once at the end leaves
  (`rtake_toEnd`).
* `Store.Intake.takeAll_written` : an entity that is not written leaves no trace.
* `Store.Reachable.batch_contents` : the keys and the entities after a batch.
-/

namespace GraphStore

/-! ### The last occurrences in a list -/

section

variable {α : Type} {l : List α} {n : Nat}

theorem rtake_of_length_le (h : l.length ≤ n) : l.rtake n = l := by
  rw [List.rtake, Nat.sub_eq_zero_of_le h, List.drop_zero]

theorem rtake_append_of_le {l' : List α} (h : n ≤ l'.length) : (l ++ l').rtake n = l'.rtake n := by
  have hall : l.length ≤ (l ++ l').length - n := by
    rw [List.length_append]
    omega
  have hrest : (l ++ l').length - n - l.length = l'.length - n := by
    rw [List.length_append]
    omega
  rw [List.rtake, List.drop_append, List.drop_of_length_le hall, List.nil_append, hrest]
  rfl

end

section

variable {α : Type} [DecidableEq α]

/-- The list with an element moved to its end, or put there. -/
def toEnd (l : List α) (a : α) : List α := (l.filter fun b => b ≠ a) ++ [a]

variable (l : List α) (a : α) {n : Nat}

theorem dedup_snoc : (l ++ [a]).dedup = toEnd l.dedup a := by
  induction l with
  | nil => rfl
  | cons b l ih =>
    rw [List.cons_append]
    by_cases hb : b ∈ l
    · rw [List.dedup_cons_of_mem (List.mem_append_left _ hb), List.dedup_cons_of_mem hb, ih]
    · rw [List.dedup_cons_of_notMem hb]
      by_cases hba : b = a
      · subst hba
        rw [List.dedup_cons_of_mem (by simp), ih, toEnd, toEnd, List.filter_cons_of_neg (by simp)]
      · rw [List.dedup_cons_of_notMem (by simp [hb, hba]), ih, toEnd, toEnd,
          List.filter_cons_of_pos (by simpa using hba), List.cons_append]

variable {l}

theorem length_le_length_toEnd (h : l.Nodup) : l.length ≤ (toEnd l a).length := by
  have hsubset : l ⊆ toEnd l a := by
    intro b hb
    by_cases hba : b = a
    · simp [toEnd, hba]
    · simp [toEnd, hb, hba]
  exact (h.subperm hsubset).length_le

/-- What is cut off before an element is moved to the end would be cut off afterwards as well. -/
theorem rtake_toEnd (h : l.Nodup) : (toEnd l a).rtake n = (toEnd (l.rtake n) a).rtake n := by
  rcases Nat.le_total l.length n with hle | hle
  · rw [rtake_of_length_le hle]
  · have hsplit : l = l.take (l.length - n) ++ l.rtake n := (List.take_append_drop _ _).symm
    have hcut : toEnd l a =
        (l.take (l.length - n)).filter (fun b => b ≠ a) ++ toEnd (l.rtake n) a := by
      rw [toEnd, toEnd, ← List.append_assoc, ← List.filter_append, ← hsplit]
    have hlength : (l.rtake n).length = n := by
      rw [List.rtake, List.length_drop]
      omega
    have hroom : (l.rtake n).length ≤ (toEnd (l.rtake n) a).length :=
      length_le_length_toEnd a (h.sublist (List.drop_sublist _ l))
    rw [hlength] at hroom
    rw [hcut, rtake_append_of_le hroom]

/-- Elements at the end that fit are kept. -/
theorem mem_rtake_dedup_append {l' : List α} (hfits : l'.dedup.length ≤ n) (ha : a ∈ l') :
    a ∈ (l ++ l').dedup.rtake n := by
  have hsuffix : l'.dedup <:+ (l ++ l').dedup := by
    rw [List.dedup_append]
    exact List.suffix_union_right _ _
  have hcut : (l ++ l').dedup.rtake n <:+ (l ++ l').dedup := List.drop_suffix _ _
  have hlength : l'.dedup.length ≤ ((l ++ l').dedup.rtake n).length := by
    have hle := hsuffix.length_le
    rw [List.rtake, List.length_drop]
    omega
  exact (List.suffix_of_suffix_length_le hsuffix hcut hlength).subset (List.mem_dedup.2 ha)

end

variable {settings : StoreSettings} {policy : Policy} {k : Kind}

/-! ### Entities that are written -/

theorem Entity.isSome_lastOf?_iff {id : String} {es : List (Entity k)} :
    (lastOf? id es).isSome ↔ id ∈ es.map Entity.id := by
  simp [lastOf?, List.find?_isSome]

namespace Cache

theorem map_key_without {α : Type} (c : Cache α) (key : String) :
    (c.without key).map Record.key = c.keys.filter fun other => other ≠ key := by
  rw [without, keys, List.filter_map]
  refine congrArg (List.map Record.key) (List.filter_congr fun r _ => ?_)
  rw [Bool.eq_iff_iff]
  simp

theorem keys_seat {α : Type} (c : Cache α) (now : Nat) (key : String) (value : α)
    (policy : Policy) : (c.seat now key value policy).keys = toEnd c.keys key := by
  rw [keys, records_seat, List.map_append, map_key_without]
  rfl

theorem without_head {α : Type} (c : Cache α) (hn : c.keys.Nodup) {r : Record α}
    {rest : List (Record α)} (h : c.records = r :: rest) : c.without r.key = rest := by
  rw [keys, h, List.map_cons, List.nodup_cons] at hn
  rw [without, h, List.filter_cons_of_neg (by simp), List.filter_eq_self]
  intro s hs
  have hne : s.key ≠ r.key := fun hkey => hn.1 (hkey ▸ List.mem_map_of_mem hs)
  simpa using hne

/-- The cache `c'` holds what is in `c` and what was written since, as far as there is room. -/
structure Rewritten (c : Cache (Entity k)) (us : List (Entity k)) (c' : Cache (Entity k)) :
    Prop where
  /-- The keys stand in the order in which they were written last. -/
  keys : c'.keys = (c.keys ++ us.map Entity.id).dedup.rtake c.capacity
  /-- An entity is held as it was written last, or as it was before. -/
  values : ∀ id ∈ c'.keys, (c'.find? id).map Record.value =
    (Entity.lastOf? id us).or ((c.find? id).map Record.value)

theorem Tidy.rewritten {c : Cache (Entity k)} (h : c.Tidy) : c.Rewritten [] c := by
  refine ⟨?_, fun id _ => rfl⟩
  have hsize : c.keys.length ≤ c.capacity := by
    rw [Cache.keys, List.length_map]
    exact h.size_le
  rw [List.map_nil, List.append_nil, h.nodup.dedup, rtake_of_length_le hsize]

end Cache

namespace Turn

variable {c c' : Cache (Entity k)} {t : Turn k} {departures : List (Departure (Entity k))}

/-- The id of an entity that is written goes to the end, and the first one leaves if there is no
room. -/
theorem Leads.keys (h : t.Leads policy c (c', departures)) (htidy : c.Tidy)
    (hw : t.verdict ≠ .unchanged) : c'.keys = (toEnd c.keys t.entity.id).rtake c.capacity := by
  have hseat := c.keys_seat Store.moment t.entity.id t.entity policy
  have hlength : (toEnd c.keys t.entity.id).length =
      (c.seat Store.moment t.entity.id t.entity policy).size := by
    rw [← hseat, Cache.keys, List.length_map, Cache.size]
  have hle := htidy.size_le
  cases h with
  | unchanged hv => exact absurd hv hw
  | updated hv hf =>
    have hsize := c.size_seat_of_some Store.moment t.entity.id t.entity policy htidy.nodup hf
    rw [hseat, rtake_of_length_le (by omega)]
  | added hv hf =>
    have hsize := c.size_seat_of_none Store.moment t.entity.id t.entity policy hf
    rw [hseat, rtake_of_length_le (by omega)]
  | @crowded r rest hv hf hfull hr =>
    have hsize := c.size_seat_of_none Store.moment t.entity.id t.entity policy hf
    have hnodup := c.nodup_seat Store.moment t.entity.id t.entity policy htidy.nodup
    have hleft : ((c.seat Store.moment t.entity.id t.entity policy).evict r .capacity).1.keys =
        rest.map Record.key := congrArg (List.map Record.key) (Cache.without_head _ hnodup hr)
    -- the first id is the one that leaves, and there is room for exactly the others
    have hall : toEnd c.keys t.entity.id = [r.key] ++ rest.map Record.key := by
      rw [← hseat, Cache.keys, hr]
      rfl
    have hrest : (rest.map Record.key).length = c.capacity := by
      rw [hall, List.length_append, List.length_singleton] at hlength
      omega
    rw [hall, rtake_append_of_le (Nat.le_of_eq hrest.symm),
      rtake_of_length_le (Nat.le_of_eq hrest)]
    exact hleft

/-- What is held under the ids that are left. -/
theorem Leads.values (h : t.Leads policy c (c', departures)) (hw : t.verdict ≠ .unchanged)
    {id : String} (hid : id ∈ c'.keys) : (c'.find? id).map Record.value =
      if id = t.entity.id then some t.entity else (c.find? id).map Record.value := by
  have hseat : ((c.seat Store.moment t.entity.id t.entity policy).find? id).map Record.value =
      if id = t.entity.id then some t.entity else (c.find? id).map Record.value := by
    rw [Cache.find?_seat]
    split <;> rfl
  cases h with
  | unchanged hv => exact absurd hv hw
  | updated => exact hseat
  | added => exact hseat
  | @crowded r rest =>
    have hne : id ≠ r.key := by
      obtain ⟨s, hs, rfl⟩ := List.mem_map.1 hid
      exact ((Cache.mem_without _).1 hs).2
    have hleft := (c.seat Store.moment t.entity.id t.entity policy).find?_evict r .capacity id
    rw [if_neg hne] at hleft
    exact (congrArg (Option.map Record.value) hleft).trans hseat

theorem Leads.rewritten {c₀ : Cache (Entity k)} {us : List (Entity k)}
    (h : t.Leads policy c (c', departures)) (htidy : c.Tidy) (hcap : c.capacity = c₀.capacity)
    (hw : t.verdict ≠ .unchanged) (hold : c₀.Rewritten us c) :
    c₀.Rewritten (us ++ [t.entity]) c' := by
  have hkeys := h.keys htidy hw
  refine ⟨?_, fun id hid => ?_⟩
  · rw [hkeys, hold.keys, hcap, ← rtake_toEnd _ (List.nodup_dedup _), List.map_append,
      ← List.append_assoc, List.map_singleton, dedup_snoc]
  · rw [h.values hw hid, Entity.lastOf?_append, Entity.lastOf?_singleton]
    by_cases hown : id = t.entity.id
    · simp [hown]
    · have hbefore : id ∈ c.keys := by
        have hmem : id ∈ toEnd c.keys t.entity.id := by
          rw [hkeys] at hid
          exact List.mem_of_mem_drop hid
        simpa [toEnd, hown] using hmem
      have hown' : t.entity.id ≠ id := fun heq => hown heq.symm
      rw [if_neg hown, if_neg hown', Option.none_or]
      exact hold.values id hbefore

end Turn

namespace Store

namespace Intake

variable {c : Cache (Entity k)}

/-- What is in the cache after entities are taken in. -/
theorem rewritten_takeAll (h : c.Kept settings) (hhigh : policy.priority = .high)
    (hp : policy.Lasting) (es : List (Entity k)) :
    c.Rewritten ((Turn.written (turns settings policy c es)).map Turn.entity)
      (takeAll settings policy c es).cache := by
  induction es using List.reverseRecOn with
  | nil => exact h.tidy.rewritten
  | append_singleton es e ih =>
    have hkept := kept_takeAll h hhigh hp es
    have hcap := (cache_takeAll_size_le settings policy c es).2
    obtain ⟨c', departures, hleads, htake⟩ := take_leads hkept hhigh hp e
    rw [takeAll_snoc, htake, turns_snoc, Turn.written_append, List.map_append,
      Turn.written_singleton]
    by_cases hv : (Turn.of settings (takeAll settings policy c es).cache e).verdict = .unchanged
    · cases hleads.of_unchanged hv
      rw [if_pos hv, List.map_nil, List.append_nil]
      exact ih
    · rw [if_neg hv]
      exact hleads.rewritten hkept.tidy hcap hv ih

/-- An entity that is not written leaves no trace. -/
theorem takeAll_written (h : c.Kept settings) (hhigh : policy.priority = .high)
    (hp : policy.Lasting) (es : List (Entity k)) :
    (takeAll settings policy c ((Turn.written (turns settings policy c es)).map
      Turn.incoming)).cache = (takeAll settings policy c es).cache := by
  induction es using List.reverseRecOn with
  | nil => rfl
  | append_singleton es e ih =>
    have hkept := kept_takeAll h hhigh hp es
    rw [turns_snoc, Turn.written_append, List.map_append, Turn.written_singleton]
    by_cases hv : (Turn.of settings (takeAll settings policy c es).cache e).verdict = .unchanged
    · obtain ⟨c', departures, hleads, htake⟩ := take_leads hkept hhigh hp e
      have hsame : c' = (takeAll settings policy c es).cache :=
        congrArg Prod.fst (hleads.of_unchanged hv)
      rw [if_pos hv, List.map_nil, List.append_nil, ih, takeAll_snoc, htake, hsame]
    · rw [if_neg hv, List.map_singleton, cache_takeAll_append, cache_takeAll_append, ih]
      rfl

end Intake

/-! ### Reading back -/

theorem value_readOne (s : Store) (w : String) (k : Kind) (id : String) :
    (s.readOne w k id).2.1 = s.held? w k id := by
  unfold readOne held? partition
  cases s.partition? w with
  | none => cases k <;> rfl
  | some p => exact Cache.value_get _ moment id

namespace Reachable

variable {s : Store}

/-- **What a batch leaves behind.**  The keys after a batch are the last ones, as many as there is
room for, of the keys before it and the ids that were written in it, in this order, where an id
counts in its last place only.  An entity under one of these keys is held as the batch wrote it
last, without volatile fields, or as it was before if the batch did not write it.  So all ids that
were written can be read back if there is room for them.  An entity that was unchanged has left no
trace: without it the batch makes the same store, so its record has not moved and nothing was kept
for it. -/
theorem batch_contents (h : Reachable settings s) (focus : Focus) (w : String)
    (batch : List (Entity k)) :
    let written := Turn.written (s.turns focus w batch)
    let ids := written.map fun t => t.entity.id
    let room := max settings.entityCapacity 1
    let before := (s.partition w).cache k
    let s' := (s.cacheBatch focus w k batch).1
    let after := (s'.partition w).cache k
    after.keys = (before.keys ++ ids).dedup.rtake room ∧
    (∀ id ∈ after.keys, (s'.held? w k id).isSome ∧
      s'.held? w k id = (Entity.lastOf? id (written.map Turn.entity)).or (s.held? w k id)) ∧
    (ids.dedup.length ≤ room → ∀ id ∈ ids, (s'.readOne w k id).2.1.isSome ∧
      (s'.readOne w k id).2.1 = Entity.lastOf? id (written.map Turn.entity)) ∧
    (s.cacheBatch focus w k (written.map Turn.incoming)).1 = s' := by
  intro written ids room before s' after
  have hkept : before.Kept settings := h.settled.kept w k
  have hkept' : after.Kept settings := (h.settled.cacheBatch focus w batch).1.kept w k
  have hheld (id : String) : s.held? w k id = (before.find? id).map Record.value :=
    hkept.peek_eq moment id
  have hheld' (id : String) : s'.held? w k id = (after.find? id).map Record.value :=
    hkept'.peek_eq moment id
  have hintake : before.Kept s.settings := h.settled.kept_self w k
  have hrewritten : before.Rewritten (written.map Turn.entity) after := by
    have htaken :=
      Intake.rewritten_takeAll hintake s.policy_priority s.policy_lasting batch
    rwa [← s.turns_eq focus w batch, ← s.cache_cacheBatch focus w batch] at htaken
  have hkeys : after.keys = (before.keys ++ ids).dedup.rtake room := by
    have hkeys := hrewritten.keys
    rwa [List.map_map, hkept.capacity] at hkeys
  have hvalues (id : String) (hid : id ∈ after.keys) : (s'.held? w k id).isSome ∧
      s'.held? w k id =
        (Entity.lastOf? id (written.map Turn.entity)).or (s.held? w k id) := by
    constructor
    · rw [hheld', Option.isSome_map, Option.isSome_iff_ne_none]
      exact fun hnone => (after.find?_eq_none_iff.1 hnone) hid
    · rw [hheld, hheld']
      exact hrewritten.values id hid
  refine ⟨hkeys, hvalues, fun hfits id hid => ?_, ?_⟩
  · have hmem : id ∈ after.keys := by
      rw [hkeys]
      exact mem_rtake_dedup_append id hfits hid
    obtain ⟨-, hlast⟩ := hvalues id hmem
    have hwritten : (Entity.lastOf? id (written.map Turn.entity)).isSome := by
      rw [Entity.isSome_lastOf?_iff, List.map_map]
      exact hid
    rw [value_readOne, hlast, Option.or_of_isSome hwritten]
    exact ⟨hwritten, rfl⟩
  · -- an entity that is unchanged does not touch the cache
    have hcache := Intake.takeAll_written hintake s.policy_priority s.policy_lasting batch
    rw [← s.turns_eq focus w batch] at hcache
    exact congrArg (fun c => s.withPartition w ((s.partition w).withCache k c)) hcache

/-- Commands by which two vertices take the places that there are. -/
def oldest : List Command :=
  [.cache "w1" .vertex [.vertex "v1" .published, .vertex "v2" .published]]

/-- A batch with the older one as it is, a vertex for which it has to leave all the same, and an
update of the other one. -/
def unprotected : List (Entity .vertex) :=
  [(Entity.vertex "v1" .published).withField "score" (.int 3), .vertex "v3" .published,
    .vertex "v2" .publishedChanged]

/-- The theorem applies to a batch that lets an entity of its own leave. -/
theorem batch_contents_unprotected :
    let s := ((Desk.new ⟨2, ["score"]⟩ true).run oldest).1.store
    let written := Turn.written (s.turns .none "w1" unprotected)
    let ids := written.map fun t => t.entity.id
    let s' := (s.cacheBatch .none "w1" .vertex unprotected).1
    Reachable ⟨2, ["score"]⟩ s ∧ ids = ["v3", "v2"] ∧ ids.dedup.length ≤ max 2 1 ∧
      ((s'.partition "w1").cache .vertex).keys =
        (((s.partition "w1").cache .vertex).keys ++ ids).dedup.rtake (max 2 1) ∧
      ((s'.partition "w1").cache .vertex).keys = ["v3", "v2"] ∧
      ((s.cacheBatch .none "w1" .vertex unprotected).1.readOne "w1" .vertex "v2").2.1 =
        Entity.lastOf? "v2" (written.map Turn.entity) ∧
      Entity.lastOf? "v2" (written.map Turn.entity) = some (.vertex "v2" .publishedChanged) ∧
      (s.cacheBatch .none "w1" .vertex (written.map Turn.incoming)).1 = s' := by
  intro s written ids s'
  have hreachable : Reachable ⟨2, ["score"]⟩ s :=
    run (d := Desk.new ⟨2, ["score"]⟩ true) (.new true) oldest
  have hids : ids = ["v3", "v2"] := by decide +kernel
  have hfits : ids.dedup.length ≤ max 2 1 := by
    rw [hids]
    decide
  have hmem : "v2" ∈ ids := by
    rw [hids]
    decide
  obtain ⟨hkeys, -, hread, hsame⟩ := batch_contents hreachable .none "w1" unprotected
  exact ⟨hreachable, hids, hfits, hkeys, by decide +kernel, (hread hfits "v2" hmem).2,
    by decide +kernel, hsame⟩

end Reachable

end Store

end GraphStore
