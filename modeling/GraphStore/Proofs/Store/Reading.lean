import GraphStore.Proofs.Store.Repetition

/-!
# What reading leaves behind

A request reads one entity after another, and each reading moves a record and is counted.  So every
slot of the answer is read from another cache than the one before; but no reading changes what is
held, and all slots show what was held when the request came.

* `Cache.Reread` : what readings do to a cache.  One of them is a case analysis
  (`Cache.reread_get`), and readings add up (`Cache.Reread.trans`).
* `Store.Settled.read_eq` : the answer to several ids, and the store afterwards.
* `Store.Reachable.reads_stable` : what a request is answered, and all that it changes.
-/

namespace GraphStore

theorem dedup_dedup_append {α : Type} [DecidableEq α] (l l' : List α) :
    (l.dedup ++ l').dedup = (l ++ l').dedup := by
  induction l with
  | nil => rfl
  | cons a l ih =>
    by_cases ha : a ∈ l
    · rw [List.dedup_cons_of_mem ha, List.cons_append,
        List.dedup_cons_of_mem (List.mem_append_left _ ha), ih]
    · rw [List.dedup_cons_of_notMem ha, List.cons_append, List.cons_append]
      by_cases ha' : a ∈ l'
      · rw [List.dedup_cons_of_mem (List.mem_append_right _ ha'),
          List.dedup_cons_of_mem (List.mem_append_right _ ha'), ih]
      · rw [List.dedup_cons_of_notMem (by simp [ha, ha']),
          List.dedup_cons_of_notMem (by simp [ha, ha']), ih]

namespace Cache

/-! ### Readings of a cache -/

/-- Readings make `c'` of the cache `c`: some found the records under these keys, one after another,
and a number of them found none. -/
structure Reread {α : Type} (c : Cache α) (found : List String) (missed : Nat) (c' : Cache α) :
    Prop where
  /-- There is as much room as before. -/
  capacity : c'.capacity = c.capacity
  /-- The keys that were found stand at the end, in the order in which they were found last. -/
  keys : c'.keys = (c.keys ++ found).dedup
  /-- Under every key there is what there was. -/
  content : ∀ key, (c'.find? key).map Record.content = (c.find? key).map Record.content
  /-- The readings are counted, and nothing else is. -/
  counters : c'.counters = { c.counters with
    hits := c.counters.hits + found.length
    misses := c.counters.misses + missed }

variable {α : Type} {c c' c'' : Cache α} {found found' : List String} {missed missed' : Nat}

theorem Reread.refl (hn : c.keys.Nodup) : c.Reread [] 0 c := by
  refine ⟨rfl, ?_, fun _ => rfl, rfl⟩
  rw [List.append_nil, hn.dedup]

theorem Reread.trans (h : c.Reread found missed c') (h' : c'.Reread found' missed' c'') :
    c.Reread (found ++ found') (missed + missed') c'' where
  capacity := h'.capacity.trans h.capacity
  keys := by rw [h'.keys, h.keys, dedup_dedup_append, List.append_assoc]
  content key := (h'.content key).trans (h.content key)
  counters := by
    rw [h'.counters, h.counters, List.length_append, Nat.add_assoc, Nat.add_assoc]

/-- One reading finds the record under its key, or none. -/
theorem reread_get (hn : c.keys.Nodup) (hl : ∀ r ∈ c.records, r.policy.Lasting) (now : Nat)
    (key : String) :
    c.Reread (if (c.find? key).isSome then [key] else [])
      (if (c.find? key).isSome then 0 else 1) (c.get now key).1 := by
  have hcontent (k : String) : ((c.get now key).1.find? k).map Record.content =
      (c.find? k).map Record.content := by
    rw [find?_get]
    split
    next hk =>
      subst hk
      cases hr : c.find? k with
      | none => rfl
      | some r => simp [(hl r (c.mem_of_find? hr)).expired now, Record.content]
    next => rfl
  refine ⟨c.capacity_perform now (.get key), ?_, hcontent, ?_⟩
  · unfold get
    split
    next hnone =>
      rw [hnone]
      exact (Reread.refl hn).keys
    next r hr =>
      obtain rfl := c.key_of_find? hr
      rw [hr, (hl r (c.mem_of_find? hr)).expired now]
      -- the record that was found moves to the end
      show ((c.without r.key) ++ [{ r with touched := now }]).map Record.key = _
      rw [List.map_append, map_key_without, Option.isSome_some, if_pos rfl, dedup_snoc, hn.dedup]
      rfl
  · unfold get
    split
    next hnone =>
      rw [hnone]
      rfl
    next r hr =>
      rw [hr, (hl r (c.mem_of_find? hr)).expired now]
      rfl

end Cache

namespace Store

variable {settings : StoreSettings} {s : Store} {k : Kind}

/-! ### Readings of a store -/

theorem read_of_none {w : String} (hw : s.partition? w = none) (k : Kind) (ids : List String) :
    s.read w k ids = (s, ids.map fun _ => none, .none) := by
  induction ids with
  | nil => rfl
  | cons id ids ih =>
    have hone : s.readOne w k id = (s, none, .none) := by rw [readOne, hw]
    rw [read, hone]
    simp only [ih]
    rfl

theorem held?_of_none {w : String} (hw : s.partition? w = none) (k : Kind) (id : String) :
    s.held? w k id = none := by
  rw [held?, partition, hw]
  cases k <;> rfl

theorem readOne_of_some {w : String} {p : Partition} (hw : s.partition? w = some p) (k : Kind)
    (id : String) :
    s.readOne w k id = (s.withPartition w (p.withCache k ((p.cache k).get moment id).1),
      s.held? w k id, .ofDepartures ((p.cache k).get moment id).2.2) := by
  have hvalue := s.value_readOne w k id
  rw [readOne, hw] at hvalue ⊢
  rw [← hvalue]

theorem partition_of_some {w : String} {p : Partition} (hw : s.partition? w = some p) :
    s.partition w = p := by
  rw [partition, hw, Option.getD_some]

/-- The slots of an answer show what was held before the first of them was read. -/
theorem Settled.read_eq (h : s.Settled settings) {w : String} {p : Partition}
    (hw : s.partition? w = some p) (k : Kind) (ids : List String) :
    ∃ c', (p.cache k).Reread (ids.filter fun id => (s.held? w k id).isSome)
        (ids.countP fun id => (s.held? w k id).isNone) c' ∧
      s.read w k ids = (s.withPartition w (p.withCache k c'), ids.map (s.held? w k), .none) := by
  induction ids generalizing s p with
  | nil =>
    obtain rfl := partition_of_some hw
    refine ⟨_, .refl (h.kept w k).tidy.nodup, ?_⟩
    rw [withCache_cache, withPartition_partition (by rw [hw]; rfl)]
    rfl
  | cons id ids ih =>
    obtain rfl := partition_of_some hw
    have hkept := h.kept w k
    have hfirst := Cache.reread_get hkept.tidy.nodup hkept.lasting moment id
    have hnone := (Cache.get_of_lasting hkept.tidy.nodup hkept.lasting moment id).1
    have hfound : (((s.partition w).cache k).find? id).isSome = (s.held? w k id).isSome := by
      rw [held?, hkept.peek_eq, Option.isSome_map]
    -- the first reading leaves another cache, in which the same entities are held
    let c := (((s.partition w).cache k).get moment id).1
    let s' := s.withPartition w ((s.partition w).withCache k c)
    have hone : s.readOne w k id = (s', s.held? w k id, .none) := by
      rw [readOne_of_some hw, hnone]
      rfl
    have hheld : s'.held? w k = s.held? w k := by
      funext id'
      have hsame := (held?_readOne w k id' s w k id).1
      rwa [hone] at hsame
    have hsettled : s'.Settled settings := h.withCache w (hkept.get moment id)
    have hw' : s'.partition? w = some ((s.partition w).withCache k c) := by
      rw [partition?_withPartition, if_pos rfl]
    obtain ⟨c', hreread, hread⟩ := ih hsettled hw'
    rw [hheld, Partition.cache_withCache] at hreread
    rw [hheld, withPartition_withPartition, withCache_withCache] at hread
    refine ⟨c', ?_, ?_⟩
    · have hboth := hfirst.trans hreread
      rw [hfound] at hboth
      rw [List.filter_cons, List.countP_cons, ← Option.not_isSome, Nat.add_comm]
      cases hs : (s.held? w k id).isSome with
      | true => simpa [hs] using hboth
      | false => simpa [hs] using hboth
    · rw [Store.read, hone]
      simp only [hread, Emission.none_append]
      rfl

/-- Reading makes no partition. -/
theorem Settled.isSome_partition?_read (h : s.Settled settings) (w : String) (k : Kind)
    (ids : List String) (v : String) :
    ((s.read w k ids).1.partition? v).isSome = (s.partition? v).isSome := by
  cases hw : s.partition? w with
  | none => rw [read_of_none hw]
  | some p =>
    obtain ⟨c', -, hread⟩ := h.read_eq hw k ids
    rw [hread, partition?_withPartition]
    split
    next hv => rw [hv, hw]; rfl
    next => rfl

/-- Reading leaves the same keys in every cache. -/
theorem Settled.perm_keys_read (h : s.Settled settings) (w : String) (k : Kind)
    (ids : List String) (v : String) (l : Kind) :
    (((s.read w k ids).1.partition v).cache l).keys.Perm ((s.partition v).cache l).keys := by
  have hkeys (c : Cache (Entity l)) : c.keys = (c.records.map Record.content).map Prod.fst := by
    rw [List.map_map]
    rfl
  rw [hkeys, hkeys]
  exact ((h.read w k ids).2.2 v l).map Prod.fst

/-! ### Requests -/

theorem serve_of_name (s : Store) {request : StoreRequest} (hk : request.kind = k.name) :
    s.serve request =
      ((s.read request.workspaceId k request.ids).1,
        .ok ((s.read request.workspaceId k request.ids).2.1.map (Option.map .of)),
        (s.read request.workspaceId k request.ids).2.2) := by
  rw [serve, hk, Kind.ofName_name]

/-- An answer is a refusal when the name of the kind is refused. -/
theorem serve_eq_error_iff (s : Store) {request : StoreRequest} {e : UnknownKind} :
    (s.serve request).2.1 = .error e ↔ Kind.ofName request.kind = .error e := by
  unfold serve
  cases Kind.ofName request.kind <;> simp

theorem serve_of_unknown (s : Store) {request : StoreRequest} {e : UnknownKind}
    (he : Kind.ofName request.kind = .error e) : s.serve request = (s, .error e, .none) := by
  rw [serve, he]

namespace Reachable

/-- **Reads are stable.**  A request is refused when it names neither of the two kinds, and then the
store is as it was.  Otherwise it is answered with a slot for each id, in the order of the ids: the
entity that was held under the id when the request came, if there was one.  Nothing is sent and no
record departs; in all caches the same entities are held under the same keys, the canvases are the
same, and no workspace gets a partition.  If there is no partition to read from, nothing is found
and the store is as it was.  Otherwise all that changes is the cache of the kind: the ids that were
found stand at the end of its keys, each where it was found last, and the slots that were found and
those that were not are counted. -/
theorem reads_stable (h : Reachable settings s) (request : StoreRequest) :
    let w := request.workspaceId
    let answer := s.serve request
    ((∃ e, answer.2.1 = .error e) ↔ request.kind ≠ "vertex" ∧ request.kind ≠ "edge") ∧
    (∀ e, answer.2.1 = .error e → answer = (s, .error ⟨request.kind⟩, .none)) ∧
    ∀ k : Kind, request.kind = k.name →
      answer.2 = (.ok (request.ids.map fun id => (s.held? w k id).map .of), .none) ∧
      (∀ v l id, answer.1.held? v l id = s.held? v l id) ∧
      (∀ v l, ((answer.1.partition v).cache l).keys.Perm ((s.partition v).cache l).keys) ∧
      (∀ v, answer.1.onGraph? v = s.onGraph? v) ∧
      (∀ v, (answer.1.partition? v).isSome = (s.partition? v).isSome) ∧
      (s.partition? w = none → answer.1 = s ∧ ∀ id, s.held? w k id = none) ∧
      ∀ p, s.partition? w = some p → ∃ c',
        answer.1 = s.withPartition w (p.withCache k c') ∧
        (p.cache k).Reread (request.ids.filter fun id => (s.held? w k id).isSome)
          (request.ids.countP fun id => (s.held? w k id).isNone) c' := by
  intro w answer
  have hsettled := h.settled
  refine ⟨?_, fun e he => ?_, fun k hk => ?_⟩
  · simp only [answer, serve_eq_error_iff, Kind.ofName_eq_error_iff, exists_and_left, exists_eq,
      and_true]
  · have hname := s.serve_eq_error_iff.1 he
    obtain ⟨-, rfl⟩ := Kind.ofName_eq_error_iff.1 hname
    exact s.serve_of_unknown hname
  · have hanswer : answer = _ := s.serve_of_name hk
    have hsame (v : String) (l : Kind) (id : String) := (held?_read v l id s w k request.ids).1
    have hsome := hsettled.isSome_partition?_read w k request.ids
    rw [hanswer]
    refine ⟨?_, hsame, hsettled.perm_keys_read w k request.ids, fun v => ?_, hsome,
      fun hw => ?_, fun p hw => ?_⟩
    · cases hw : s.partition? w with
      | none => simp [w, read_of_none hw, held?_of_none hw]
      | some p =>
        obtain ⟨c', -, hread⟩ := hsettled.read_eq hw k request.ids
        simp [w, hread]
    · rw [onGraph?_eq, onGraph?_eq, hsome, onGraph_read]
    · exact ⟨by rw [read_of_none hw], held?_of_none hw k⟩
    · obtain ⟨c', hreread, hread⟩ := hsettled.read_eq hw k request.ids
      exact ⟨c', by rw [hread], hreread⟩

/-- Commands by which two vertices and an edge with the id of one of them are held. -/
def shelved : List Command :=
  [.cache "w1" .vertex [.vertex "v1" .published, .vertex "v2" .unpublished],
    .cache "w1" .edge [.edge "v1" "knows" "v1" "v2"]]

/-- A request that asks for a vertex twice, and in between for one that is not held. -/
def twiceAsked : StoreRequest := ⟨"w1", "vertex", ["v1", "v3", "v1"]⟩

/-- The theorem applies to a request that moves a record and misses another one. -/
theorem reads_stable_twiceAsked :
    let s := ((Desk.new ⟨2, ["score"]⟩ true).run shelved).1.store
    Reachable ⟨2, ["score"]⟩ s ∧ twiceAsked.kind = Kind.vertex.name ∧
      ((s.partition "w1").cache .vertex).keys = ["v1", "v2"] ∧
      (s.serve twiceAsked).2 = (.ok [some (.of (Entity.vertex "v1" .published)), none,
        some (.of (Entity.vertex "v1" .published))], .none) ∧
      ∃ p c', s.partition? "w1" = some p ∧
        (s.serve twiceAsked).1 = s.withPartition "w1" (p.withCache .vertex c') ∧
        c'.keys = ["v2", "v1"] ∧
        c'.counters = { (p.cache .vertex).counters with hits := 2, misses := 1 } := by
  intro s
  have hreachable : Reachable ⟨2, ["score"]⟩ s :=
    run (d := Desk.new ⟨2, ["score"]⟩ true) (.new true) shelved
  obtain ⟨p, hp⟩ : ∃ p, s.partition? "w1" = some p :=
    Option.isSome_iff_exists.1 (by decide +kernel)
  have hkeys : ((s.partition "w1").cache .vertex).keys = ["v1", "v2"] := by decide +kernel
  obtain ⟨-, -, hserved⟩ := reads_stable hreachable twiceAsked
  obtain ⟨hanswer, -, -, -, -, -, hpartition⟩ := hserved .vertex rfl
  obtain ⟨c', hstore, hreread⟩ := hpartition p hp
  refine ⟨hreachable, rfl, hkeys, hanswer.trans (by decide +kernel), p, c', hp, hstore, ?_, ?_⟩
  · rw [hreread.keys, ← partition_of_some hp, hkeys]
    decide +kernel
  · rw [hreread.counters, ← partition_of_some hp]
    decide +kernel

end Reachable

end Store

end GraphStore
