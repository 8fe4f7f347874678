import GraphStore.Proofs.Cache.Bounds
import GraphStore.Proofs.Cache.Values

/-!
# Every record departs once

A cache keeps account of its records.  When every record is observed, the values that were put in
are the ones that are stored and the ones whose departure was told, each counted once, and the
counters say how many departed and why (`Cache.Balanced`).  Every operation keeps the accounts
balanced (`Cache.Balanced.perform`).

* `Cache.departs_once` : with the insertions told apart by marks, each of them is stored or has
  departed, and has departed once; putting a value in lets at most one record depart.
-/

namespace GraphStore

variable {α : Type}

/-- What a record was put in as: its key and its value. -/
def Record.entry (r : Record α) : String × α := (r.key, r.value)

/-- What the record was put in as whose departure is told. -/
def Departure.entry (d : Departure α) : String × α := (d.key, d.value)

namespace Cache

/-! ### Counting -/

/-- The key and the value that an operation puts in, if it puts one in. -/
def Op.entries : Op α → List (String × α)
  | .insert key value _ => [(key, value)]
  | .get _ | .peek _ | .contains _ | .remove _ | .clear => []

/-- The operation reads a value and touches it. -/
def Op.isGet : Op α → Bool
  | .get _ => true
  | .insert _ _ _ | .peek _ | .contains _ | .remove _ | .clear => false

/-- A record that the operation puts in is observed. -/
def Op.isObserved : Op α → Bool
  | .insert _ _ policy => policy.observed
  | .get _ | .peek _ | .contains _ | .remove _ | .clear => true

/-- The keys and values that operations put in, in order. -/
def inserted (ops : List (Nat × Op α)) : List (String × α) := ops.flatMap fun step => step.2.entries

/-- How many operations read a value and touch it. -/
def gets (ops : List (Nat × Op α)) : Nat := ops.countP fun step => step.2.isGet

/-- What observers are told while operations are carried out. -/
def told (c : Cache α) (ops : List (Nat × Op α)) : List (Departure α) :=
  (c.run ops).2.flatMap Prod.snd

/-- How often records departed for a cause. -/
def departed (cause : Cause) (reports : List (Departure α)) : Nat :=
  (reports.map Departure.cause).count cause

/-- The keys and values that are stored. -/
def entries (c : Cache α) : List (String × α) := c.records.map Record.entry

@[simp] theorem departed_append (cause : Cause) (a b : List (Departure α)) :
    departed cause (a ++ b) = departed cause a + departed cause b := by
  simp [departed]

/-- Every departure has one of the five causes. -/
theorem length_eq_departed (reports : List (Departure α)) :
    reports.length = departed .replaced reports + departed .capacity reports +
      departed .expired reports + departed .removed reports + departed .cleared reports := by
  induction reports with
  | nil => rfl
  | cons d reports ih =>
    simp only [departed, List.map_cons, List.count_cons, List.length_cons] at ih ⊢
    cases d.cause <;> simp <;> omega

/-! ### A record leaves -/

/-- Count a record that leaves. -/
def Counters.leave (k : Counters) : Cause → Counters
  | .replaced => { k with replacements := k.replacements + 1 }
  | .capacity | .expired => { k with evictions := k.evictions + 1 }
  | .removed | .cleared => k

/-- A record leaves for a cause. -/
def leave (c : Cache α) (r : Record α) (cause : Cause) : Cache α × List (Departure α) :=
  ({ c with records := c.without r.key, counters := Counters.leave c.counters cause },
    r.depart cause)

/-- The accounts of a cache balance: what was put in is stored or was told to depart, and the
counters count. -/
structure Balanced (c : Cache α) (puts : List (String × α)) (reports : List (Departure α))
    (looks : Nat) : Prop where
  /-- The departure of every record will be told. -/
  observed : ∀ r ∈ c.records, r.policy.observed = true
  /-- What was put in is stored or has departed. -/
  entries : (c.entries ++ reports.map Departure.entry).Perm puts
  /-- Insertions are counted. -/
  inserts : c.counters.inserts = puts.length
  /-- Replacements are counted. -/
  replacements : c.counters.replacements = departed .replaced reports
  /-- Evictions are counted. -/
  evictions : c.counters.evictions = departed .capacity reports + departed .expired reports
  /-- Readings are counted. -/
  reads : c.counters.hits + c.counters.misses = looks

namespace Balanced

variable {c : Cache α} {puts : List (String × α)} {reports : List (Departure α)} {looks : Nat}

theorem new (capacity : Nat) : Balanced (new capacity : Cache α) [] [] 0 :=
  ⟨fun _ h => absurd h List.not_mem_nil, .nil, rfl, rfl, rfl, rfl⟩

/-! ### What one record does to the accounts -/

theorem leave (h : c.Balanced puts reports looks) (hn : c.keys.Nodup) {r : Record α}
    (hr : r ∈ c.records) (cause : Cause) :
    (c.leave r cause).1.Balanced puts (reports ++ (c.leave r cause).2) looks := by
  have hdepart : (c.leave r cause).2 = [⟨r.key, cause, r.value⟩] :=
    Record.depart_of_observed (h.observed r hr) cause
  have hentries : (c.entries).Perm (r.entry :: (c.leave r cause).1.entries) :=
    (c.perm_without hn hr).map Record.entry
  rw [hdepart]
  refine ⟨fun s hs => h.observed s ((c.mem_without).1 hs).1, ?_, ?_, ?_, ?_, ?_⟩
  · -- its entry moves from the stored ones behind the reported ones
    refine .trans ?_ ((hentries.append_right _).symm.trans h.entries)
    rw [List.map_append, ← List.append_assoc]
    exact List.perm_append_singleton r.entry _
  · rw [← h.inserts]
    cases cause <;> rfl
  · have hcount := h.replacements
    cases cause <;> simp [Cache.leave, Counters.leave, departed] at hcount ⊢ <;> omega
  · have hcount := h.evictions
    cases cause <;> simp [Cache.leave, Counters.leave, departed] at hcount ⊢ <;> omega
  · rw [← h.reads]
    cases cause <;> rfl

theorem enter (h : c.Balanced puts reports looks) {r : Record α}
    (hr : r.policy.observed = true) :
    Balanced { c with
        records := c.records ++ [r]
        counters := { c.counters with inserts := c.counters.inserts + 1 } }
      (puts ++ [r.entry]) reports looks := by
  refine ⟨?_, ?_, ?_, h.replacements, h.evictions, h.reads⟩
  · intro s hs
    rcases List.mem_append.1 hs with hs | hs
    · exact h.observed s hs
    · rw [List.mem_singleton.1 hs]
      exact hr
  · have hmove : (c.entries ++ [r.entry] ++ reports.map Departure.entry).Perm
        (c.entries ++ reports.map Departure.entry ++ [r.entry]) := by
      rw [List.append_assoc, List.append_assoc]
      exact List.perm_append_comm.append_left c.entries
    simpa [Cache.entries] using hmove.trans (h.entries.append_right [r.entry])
  · simp [h.inserts]

theorem touch (h : c.Balanced puts reports looks) (hn : c.keys.Nodup) {r : Record α}
    (hr : r ∈ c.records) (now : Nat) :
    Balanced { c with records := c.without r.key ++ [{ r with touched := now }] } puts reports
      looks := by
  refine ⟨?_, ?_, h.inserts, h.replacements, h.evictions, h.reads⟩
  · intro s hs
    rcases List.mem_append.1 hs with hs | hs
    · exact h.observed s ((c.mem_without).1 hs).1
    · rw [List.mem_singleton.1 hs]
      exact h.observed r hr
  · have hentries : (c.entries).Perm ((c.without r.key).map Record.entry ++ [r.entry]) :=
      ((c.perm_without hn hr).map Record.entry).trans
        (List.perm_append_singleton r.entry _).symm
    refine .trans ?_ h.entries
    refine List.Perm.append_right _ ?_
    simpa [Cache.entries, Record.entry] using hentries.symm

theorem countHit (h : c.Balanced puts reports looks) :
    Balanced { c with counters := Cache.countHit c.counters } puts reports (looks + 1) := by
  refine ⟨h.observed, h.entries, h.inserts, h.replacements, h.evictions, ?_⟩
  have hreads := h.reads
  simp only [Cache.countHit]
  omega

theorem countMiss (h : c.Balanced puts reports looks) :
    Balanced { c with counters := Cache.countMiss c.counters } puts reports (looks + 1) := by
  refine ⟨h.observed, h.entries, h.inserts, h.replacements, h.evictions, ?_⟩
  have hreads := h.reads
  simp only [Cache.countMiss]
  omega

/-! ### Operations -/

theorem displace (h : c.Balanced puts reports looks) (hn : c.keys.Nodup) (key : String) :
    (c.displace key).1.Balanced puts (reports ++ (c.displace key).2) looks := by
  unfold Cache.displace
  split
  next => simpa using h
  next r hr =>
    obtain rfl := c.key_of_find? hr
    exact h.leave hn (c.mem_of_find? hr) .replaced

theorem purge (h : c.Balanced puts reports looks) (hn : c.keys.Nodup) (now : Nat) :
    (c.purge now).1.Balanced puts (reports ++ (c.purge now).2) looks := by
  unfold Cache.purge
  split
  next => simpa using h
  next =>
    split
    next r cause hv =>
      -- an eviction is a departure for one of two causes
      obtain ⟨hr, ⟨-, rfl⟩ | ⟨-, -, rfl⟩⟩ := victim?_cases hv
      · exact h.leave hn hr .expired
      · exact h.leave hn hr .capacity
    next => simpa using h

theorem insert (h : c.Balanced puts reports looks) (hn : c.keys.Nodup) (now : Nat) (key : String)
    (value : α) {policy : Policy} (hp : policy.observed = true) :
    (c.insert now key value policy).1.Balanced (puts ++ [(key, value)])
      (reports ++ (c.insert now key value policy).2) looks := by
  have hseat : (c.seat now key value policy).Balanced (puts ++ [(key, value)])
      (reports ++ (c.displace key).2) looks :=
    (h.displace hn key).enter (r := ⟨key, value, policy, now⟩) hp
  have hpurge := hseat.purge (c.nodup_seat now key value policy hn) now
  rw [insert_eq, ← List.append_assoc]
  exact hpurge

theorem get (h : c.Balanced puts reports looks) (hn : c.keys.Nodup) (now : Nat) (key : String) :
    (c.get now key).1.Balanced puts (reports ++ (c.get now key).2.2) (looks + 1) := by
  unfold Cache.get
  split
  next => simpa using h.countMiss
  next r hr =>
    obtain rfl := c.key_of_find? hr
    have hmem := c.mem_of_find? hr
    split
    next => exact (h.leave hn hmem .expired).countMiss
    next => simpa using (h.touch hn hmem now).countHit

theorem remove (h : c.Balanced puts reports looks) (hn : c.keys.Nodup) (key : String) :
    (c.remove key).1.Balanced puts (reports ++ (c.remove key).2.2) looks := by
  unfold Cache.remove
  split
  next => simpa using h
  next r hr =>
    obtain rfl := c.key_of_find? hr
    exact h.leave hn (c.mem_of_find? hr) .removed

theorem clear (h : c.Balanced puts reports looks) :
    c.clear.1.Balanced puts (reports ++ c.clear.2) looks := by
  have hcleared : c.clear.2 = c.records.map fun r => ⟨r.key, .cleared, r.value⟩ := by
    rw [List.map_eq_flatMap]
    exact List.flatMap_congr fun r hr => Record.depart_of_observed (h.observed r hr) .cleared
  have hcount (cause : Cause) (hne : cause ≠ .cleared) : departed cause c.clear.2 = 0 := by
    simp only [departed, hcleared, List.map_map, List.count_eq_zero, List.mem_map]
    rintro ⟨r, -, heq⟩
    exact hne heq.symm
  refine ⟨fun _ hr => absurd hr List.not_mem_nil, ?_, h.inserts, ?_, ?_, h.reads⟩
  · have hall : c.clear.2.map Departure.entry = c.entries := by
      rw [hcleared, List.map_map]
      rfl
    have hnone : c.clear.1.entries = [] := rfl
    rw [List.map_append, hall, hnone, List.nil_append]
    exact List.perm_append_comm.trans h.entries
  · rw [departed_append, hcount .replaced (by decide)]
    exact h.replacements
  · rw [departed_append, departed_append, hcount .capacity (by decide),
      hcount .expired (by decide)]
    exact h.evictions

theorem perform (h : c.Balanced puts reports looks) (hn : c.keys.Nodup) (now : Nat) {op : Op α}
    (hop : op.isObserved = true) :
    (c.perform now op).1.Balanced (puts ++ op.entries) (reports ++ (c.perform now op).2.2)
      (looks + if op.isGet then 1 else 0) := by
  cases op with
  | insert key value policy => exact h.insert hn now key value hop
  | get key => simpa [Op.entries, Op.isGet, Cache.perform] using h.get hn now key
  | peek | contains => simpa [Op.entries, Op.isGet, Cache.perform] using h
  | remove key => simpa [Op.entries, Op.isGet, Cache.perform] using h.remove hn key
  | clear => simpa [Op.entries, Op.isGet, Cache.perform] using h.clear

/-- A run keeps the accounts balanced. -/
theorem run (h : c.Balanced puts reports looks) (ht : c.Tidy) {ops : List (Nat × Op α)}
    (hops : ∀ step ∈ ops, step.2.isObserved = true) :
    (c.run ops).1.Balanced (puts ++ inserted ops) (reports ++ c.told ops)
      (looks + gets ops) := by
  induction ops generalizing c puts reports looks with
  | nil => simpa [inserted, told, gets, Cache.run] using h
  | cons step ops ih =>
    obtain ⟨hop, hrest⟩ := List.forall_mem_cons.1 hops
    have hstep := h.perform ht.nodup step.1 hop
    -- the reports of the step stand before those of the rest
    have hlast := ih hstep (ht.perform step.1 step.2) hrest
    have hgets : gets (step :: ops) = (if step.2.isGet then 1 else 0) + gets ops := by
      rw [gets, List.countP_cons, Nat.add_comm]
      rfl
    rw [hgets, ← Nat.add_assoc]
    simpa [inserted, told, Cache.run, List.append_assoc] using hlast

end Balanced

/-! ### One departure for a record -/

section

variable (ops : List (Nat × Op α))

theorem nodup_inserted_numbered : (inserted (numbered ops)).Nodup := by
  -- their marks are places of the run, in order
  have hmarks (ops : List (Nat × Op α)) (n : Nat) :
      ((inserted ((ops.zipIdx n).map fun step =>
        (step.1.1, step.1.2.map fun value => (step.2, value)))).map fun e => e.2.1).Sublist
        (List.range' n ops.length) := by
    induction ops generalizing n with
    | nil => exact .slnil
    | cons step ops ih =>
      obtain ⟨now, op⟩ := step
      have hrest := ih (n + 1)
      simp only [inserted, List.zipIdx_cons, List.map_cons, List.flatMap_cons, List.map_append,
        List.length_cons, List.range'_succ] at hrest ⊢
      cases op with
      | insert key value policy => exact hrest.cons_cons n
      | get | peek | contains | remove | clear => exact hrest.cons n
  exact ((List.nodup_range').sublist (hmarks ops 0)).of_map _

theorem isObserved_numbered (h : ∀ step ∈ ops, step.2.isObserved = true) :
    ∀ step ∈ numbered ops, step.2.isObserved = true := by
  intro step hstep
  obtain ⟨⟨⟨now, op⟩, place⟩, hmem, rfl⟩ := List.mem_map.1 hstep
  have hop := h _ (List.fst_mem_of_mem_zipIdx hmem)
  cases op <;> exact hop

/-- Observers are told the same, with the marks. -/
theorem told_numbered (capacity : Nat) :
    (new capacity).told ops =
      ((new capacity).told (numbered ops)).map (Departure.map Prod.snd) := by
  rw [told, run_numbered, told, List.flatMap_map, List.map_flatMap]

end

/-- **Every record departs once.**  Put values into an empty cache, read them and take them out, in
any order and at any moments, while every record is observed.  Then

* the cache is not too full, its keys are distinct, and the next insertion will let at most one
  record depart;
* marks, which tell the insertions apart, change nothing, and each of the marked insertions is
  stored or was told to depart: one of the two, and once;
* the counters count what was put in, replaced, evicted and read. -/
theorem departs_once (capacity : Nat) (ops : List (Nat × Op α))
    (hobserved : ∀ step ∈ ops, step.2.isObserved = true) :
    let c := ((new capacity : Cache α).run ops).1
    let reports := (new capacity : Cache α).told ops
    let marked := ((new capacity : Cache (Nat × α)).run (numbered ops)).1
    let markedReports := (new capacity : Cache (Nat × α)).told (numbered ops)
    (c.size ≤ max capacity 1 ∧ c.keys.Nodup ∧
      ∀ now key value policy, (c.insert now key value policy).2.length ≤ 1) ∧
    (c = marked.map Prod.snd ∧ reports = markedReports.map (Departure.map Prod.snd)) ∧
    ((marked.entries ++ markedReports.map Departure.entry).Perm (inserted (numbered ops)) ∧
      (inserted (numbered ops)).Nodup) ∧
    (c.counters.inserts = c.size + c.counters.replacements + c.counters.evictions +
        departed .removed reports + departed .cleared reports ∧
      c.counters.replacements = departed .replaced reports ∧
      c.counters.evictions = departed .capacity reports + departed .expired reports ∧
      c.counters.hits + c.counters.misses = gets ops) := by
  intro c reports marked markedReports
  have htidy : c.Tidy := (tidy_new capacity).run ops
  have hcap : c.capacity = max capacity 1 := capacity_run _ ops
  have hbalanced : c.Balanced ([] ++ inserted ops) ([] ++ reports) (0 + gets ops) :=
    (Balanced.new capacity).run (tidy_new capacity) hobserved
  have hmarked : marked.Balanced ([] ++ inserted (numbered ops)) ([] ++ markedReports)
      (0 + gets (numbered ops)) :=
    (Balanced.new capacity).run (tidy_new capacity) (isObserved_numbered ops hobserved)
  simp only [List.nil_append, Nat.zero_add] at hbalanced hmarked
  refine ⟨⟨hcap ▸ htidy.size_le, htidy.nodup, ?_⟩, ⟨?_, told_numbered ops capacity⟩,
    ⟨hmarked.entries, nodup_inserted_numbered ops⟩,
    ⟨?_, hbalanced.replacements, hbalanced.evictions, hbalanced.reads⟩⟩
  · intro now key value policy
    exact (htidy.insert_cases now key value policy).length_departures_le
  · exact congrArg Prod.fst (run_numbered capacity ops)
  · -- what was put in is stored or has departed, for one of the five causes
    have hlength := hbalanced.entries.length_eq
    have hcauses := length_eq_departed reports
    have hputs := hbalanced.inserts
    have hreplaced := hbalanced.replacements
    have hevicted := hbalanced.evictions
    simp only [List.length_append, List.length_map, entries] at hlength
    change c.counters.inserts = c.records.length + _ + _ + _ + _
    omega

/-- Operations that put one value in twice under one key and let records depart for every cause. -/
def everyCause : List (Nat × Op Nat) :=
  [(0, .insert "a" 7 ⟨.low, none, none, true⟩), (1, .insert "a" 7 ⟨.low, none, none, true⟩),
    (2, .insert "b" 7 ⟨.normal, some 5, none, true⟩), (3, .peek "a"),
    (4, .insert "c" 1 ⟨.high, none, some 9, true⟩), (6, .get "b"), (7, .get "c"),
    (8, .remove "c"), (9, .insert "d" 2 ⟨.normal, none, none, true⟩), (10, .clear),
    (11, .insert "d" 3 ⟨.normal, none, none, true⟩)]

/-- The theorem applies when records depart for every cause. -/
theorem departs_once_everyCause :
    (∀ step ∈ everyCause, step.2.isObserved = true) ∧
      ((new 2).told everyCause).map Departure.cause =
        [.replaced, .capacity, .expired, .removed, .cleared] ∧
      ((((new 2).run (numbered everyCause)).1).entries ++
          ((new 2).told (numbered everyCause)).map Departure.entry).Perm
        (inserted (numbered everyCause)) ∧
      (inserted (numbered everyCause)).Nodup ∧
      ((new 2).run everyCause).1.counters.evictions =
        departed .capacity ((new 2).told everyCause) +
          departed .expired ((new 2).told everyCause) := by
  have hobserved : ∀ step ∈ everyCause, step.2.isObserved = true := by decide
  obtain ⟨-, -, ⟨hperm, hnodup⟩, -, -, hevictions, -⟩ := departs_once 2 everyCause hobserved
  exact ⟨hobserved, by decide +kernel, hperm, hnodup, hevictions⟩

end Cache

end GraphStore
