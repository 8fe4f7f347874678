import GraphStore.Proofs.Cache.Lookup
import Mathlib.Data.List.Induction

/-!
# What stands under a key

A cache moves its records about with every operation, and a purge can take any of them.  Seen from
one key it is simple: what stands there is what was put in last, if nothing has taken it away since.

The history of a run (`Cache.history`) lists the operations with their moments and with the record
that each insertion gave up for want of room.  From the history alone one can tell which record
stands under a key (`Cache.Stands`).

* `Cache.find?_perform` : what one operation leaves under a key.
* `Cache.find?_run_iff` : the record under a key after a run is the one that the history tells.
* `Cache.holds_latest` : what looking up, reading and removing answer after a run, and that
  operations on other keys leave a record as it is, unless they give it up.
-/

namespace GraphStore

variable {α : Type}

/-- The record when other moments of its touches are counted in: it was touched last at the last one
of them. -/
def Record.touchedAt (r : Record α) (moments : List Nat) : Record α :=
  { r with touched := moments.getLast?.getD r.touched }

namespace Record

variable (r : Record α)

@[simp] theorem touchedAt_nil : r.touchedAt [] = r := rfl

theorem touchedAt_append (moments later : List Nat) :
    r.touchedAt (moments ++ later) = (r.touchedAt moments).touchedAt later := by
  cases later.eq_nil_or_concat with
  | inl h => simp [h]
  | inr h =>
    obtain ⟨rest, moment, rfl⟩ := h
    simp [touchedAt, List.getLast?_append]

end Record

namespace Cache

/-! ### Histories -/

/-- The key that an operation is about. -/
def Op.key? : Op α → Option String
  | .insert key _ _ | .get key | .peek key | .contains key | .remove key => some key
  | .clear => none

/-- The key of the record that the cache gives up when an operation leaves it too full. -/
def purged? (c : Cache α) (now : Nat) : Op α → Option String
  | .insert key value policy =>
    let seated := c.seat now key value policy
    if seated.size ≤ seated.capacity then none
    else (victim? seated.records now).map fun v => v.1.key
  | .get _ | .peek _ | .contains _ | .remove _ | .clear => none

/-- An operation in a history. -/
structure Step (α : Type) where
  /-- The moment at which it was carried out. -/
  now : Nat
  /-- The operation. -/
  op : Op α
  /-- The key of the record that was given up for want of room. -/
  purged? : Option String

/-- The history of a run. -/
def history (c : Cache α) : List (Nat × Op α) → List (Step α)
  | [] => []
  | (now, op) :: ops => ⟨now, op, c.purged? now op⟩ :: history (c.perform now op).1 ops

section

variable (c : Cache α) (ops : List (Nat × Op α)) (now : Nat) (op : Op α)

theorem run_snoc : (c.run (ops ++ [(now, op)])).1 = ((c.run ops).1.perform now op).1 := by
  induction ops generalizing c with
  | nil => rfl
  | cons step ops ih => exact ih (c.perform step.1 step.2).1

theorem history_snoc : c.history (ops ++ [(now, op)]) =
    c.history ops ++ [⟨now, op, (c.run ops).1.purged? now op⟩] := by
  induction ops generalizing c with
  | nil => rfl
  | cons step ops ih => exact congrArg _ (ih (c.perform step.1 step.2).1)

end

/-- The moments at which steps read a key. -/
def readings (key : String) (steps : List (Step α)) : List Nat :=
  steps.filterMap fun s =>
    match s.op with
    | .get k => if k = key then some s.now else none
    | _ => none

theorem readings_append (key : String) (steps later : List (Step α)) :
    readings key (steps ++ later) = readings key steps ++ readings key later :=
  List.filterMap_append ..

/-- A step lets a record stand. -/
structure Step.Spares (s : Step α) (r : Record α) : Prop where
  /-- No other value is put in under its key. -/
  latest : ∀ value policy, s.op ≠ .insert r.key value policy
  /-- It is not removed. -/
  removed : s.op ≠ .remove r.key
  /-- The cache is not cleared. -/
  cleared : s.op ≠ .clear
  /-- It is not given up for want of room. -/
  purged : s.purged? ≠ some r.key
  /-- It is not found expired when it is read. -/
  unexpired : s.op = .get r.key → r.expired s.now = false

/-- A record stands under a key after these steps: one of them has put it in, without giving it up
at once, and all later ones have spared it as the ones before them had left it.  It was touched last
when it was last read, or put in. -/
def Stands (steps : List (Step α)) (key : String) (r : Record α) : Prop :=
  ∃ before put after value policy, steps = before ++ put :: after ∧
    put.op = .insert key value policy ∧ put.purged? ≠ some key ∧
    (∀ between s rest, after = between ++ s :: rest →
      s.Spares (Record.touchedAt ⟨key, value, policy, put.now⟩ (readings key between))) ∧
    r = Record.touchedAt ⟨key, value, policy, put.now⟩ (readings key after)

/-! ### One operation -/

/-- What a step leaves under a key when it finds a record or none there. -/
def Step.leaves (s : Step α) (key : String) (found : Option (Record α)) : Option (Record α) :=
  if s.purged? = some key then none
  else match s.op with
    | .insert k value policy => if k = key then some ⟨key, value, policy, s.now⟩ else found
    | .get k =>
      if k = key then found.bind fun r =>
        if r.expired s.now then none else some { r with touched := s.now }
      else found
    | .remove k => if k = key then none else found
    | .clear => none
    | .peek _ | .contains _ => found

section

variable (c : Cache α) (now : Nat) (key : String)

theorem find?_remove (k : String) :
    (c.remove key).1.find? k = if k = key then none else c.find? k := by
  unfold remove
  split
  next h =>
    split
    next hk => rw [hk, h]
    next => rfl
  next => exact c.find?_without key k

theorem value_remove : (c.remove key).2.1 = (c.find? key).map Record.value := by
  unfold remove
  split
  next h => rw [h]; rfl
  next h => rw [h]; rfl

theorem find?_purge_seat (value : α) (policy : Policy) (k : String) :
    ((c.seat now key value policy).purge now).1.find? k =
      if c.purged? now (.insert key value policy) = some k then none
      else (c.seat now key value policy).find? k := by
  simp only [purge, purged?]
  split
  next => simp
  next =>
    split
    next r cause hv =>
      rw [find?_evict, hv]
      simp [eq_comm]
    next hv => simp [hv]

theorem find?_perform (op : Op α) (k : String) : (c.perform now op).1.find? k =
    (Step.mk now op (c.purged? now op)).leaves k (c.find? k) := by
  cases op with
  | insert key value policy =>
    refine (c.find?_purge_seat now key value policy k).trans ?_
    rw [find?_seat]
    simp only [Step.leaves]
    by_cases hk : key = k
    · subst hk
      simp
    · have hk' : k ≠ key := fun h => hk h.symm
      rw [if_neg hk, if_neg hk']
  | get key =>
    refine (c.find?_get now key k).trans ?_
    simp only [Step.leaves, purged?, reduceCtorEq, if_false]
    split
    next hk => rw [if_pos hk.symm, hk]
    next hk => rw [if_neg fun h => hk h.symm]
  | peek key | contains key => rfl
  | remove key =>
    refine (c.find?_remove key k).trans ?_
    simp only [Step.leaves, purged?, reduceCtorEq, if_false, eq_comm]
  | clear => rfl

end

/-! ### Runs -/

/-- The step puts a record in under the key, and does not give it up at once. -/
def Step.PutsIn (s : Step α) (key : String) (r : Record α) : Prop :=
  s.purged? ≠ some key ∧
    ∃ value policy, s.op = .insert key value policy ∧ r = ⟨key, value, policy, s.now⟩

section

variable {steps : List (Step α)} {s : Step α} {key : String} {r : Record α}

theorem readings_singleton_of_ne (h : s.op ≠ .get key) : readings key [s] = [] := by
  obtain ⟨now, op, purged?⟩ := s
  cases op with
  | get k =>
    have hk : k ≠ key := fun hk => h (by rw [hk])
    simp [readings, hk]
  | insert | peek | contains | remove | clear => rfl

theorem readings_singleton (h : s.op = .get key) : readings key [s] = [s.now] := by
  simp [readings, h]

/-- What stands after one more step was put in by it, or stood before and was spared. -/
theorem stands_snoc : Stands (steps ++ [s]) key r ↔ s.PutsIn key r ∨
    ∃ r₀, Stands steps key r₀ ∧ s.Spares r₀ ∧ r = r₀.touchedAt (readings key [s]) := by
  constructor
  · rintro ⟨before, put, after, value, policy, hsteps, hput, hpurged, hspares, rfl⟩
    -- the new step puts the record in, or comes after the one that did
    rcases after.eq_nil_or_concat with rfl | ⟨after, last, rfl⟩
    · obtain ⟨rfl, hlast⟩ := List.append_inj' hsteps rfl
      cases hlast
      exact .inl ⟨hpurged, value, policy, hput, rfl⟩
    · rw [List.concat_eq_append] at hspares hsteps ⊢
      rw [← List.cons_append, ← List.append_assoc] at hsteps
      obtain ⟨rfl, hlast⟩ := List.append_inj' hsteps rfl
      cases hlast
      refine .inr ⟨_, ⟨before, put, after, value, policy, rfl, hput, hpurged, ?_, rfl⟩, ?_, ?_⟩
      · rintro between t rest rfl
        exact hspares between t (rest ++ [s]) (by simp)
      · exact hspares after s [] rfl
      · rw [readings_append, Record.touchedAt_append]
  · rintro (⟨hpurged, value, policy, hput, rfl⟩ |
      ⟨_, ⟨before, put, after, value, policy, rfl, hput, hpurged, hspares, rfl⟩, hlast, rfl⟩)
    · refine ⟨steps, s, [], value, policy, rfl, hput, hpurged, ?_, rfl⟩
      intro between t rest hnil
      simp at hnil
    · refine ⟨before, put, after ++ [s], value, policy, by simp, hput, hpurged, ?_, ?_⟩
      · intro between t rest hafter
        rcases rest.eq_nil_or_concat with rfl | ⟨rest, last, rfl⟩
        · obtain ⟨rfl, hone⟩ := List.append_inj' hafter rfl
          cases hone
          exact hlast
        · rw [List.concat_eq_append, ← List.cons_append, ← List.append_assoc] at hafter
          exact hspares between t rest (List.append_inj' hafter rfl).1
      · rw [readings_append, Record.touchedAt_append]

theorem leaves_of_putsIn (h : s.PutsIn key r) (found : Option (Record α)) :
    s.leaves key found = some r := by
  obtain ⟨hpurged, value, policy, hop, rfl⟩ := h
  simp [Step.leaves, hpurged, hop]

theorem leaves_of_spares (h : s.Spares r) :
    s.leaves r.key (some r) = some (r.touchedAt (readings r.key [s])) := by
  rw [Step.leaves, if_neg h.purged]
  cases hop : s.op with
  | insert k value policy =>
    have hk : k ≠ r.key := fun hk => h.latest value policy (by rw [hop, hk])
    rw [readings_singleton_of_ne (by simp [hop])]
    simp [hk]
  | get k =>
    by_cases hk : k = r.key
    · subst hk
      rw [readings_singleton hop]
      simp [h.unexpired hop, Record.touchedAt]
    · rw [readings_singleton_of_ne (by simp [hop, hk])]
      simp [hk]
  | remove k =>
    have hk : k ≠ r.key := fun hk => h.removed (by rw [hop, hk])
    rw [readings_singleton_of_ne (by simp [hop])]
    simp [hk]
  | peek | contains =>
    rw [readings_singleton_of_ne (by simp [hop])]
    rfl
  | clear => exact absurd hop h.cleared

/-- What is left was put in, or stood there and was spared. -/
theorem putsIn_or_spares {found : Option (Record α)} (hkey : ∀ r₀, found = some r₀ → r₀.key = key)
    (h : s.leaves key found = some r) : s.PutsIn key r ∨ ∃ r₀, found = some r₀ ∧ s.Spares r₀ := by
  have hpurged : s.purged? ≠ some key := by
    intro hpurged
    simp [Step.leaves, hpurged] at h
  rw [Step.leaves, if_neg hpurged] at h
  cases found with
  | none =>
    -- only an insertion leaves a record where there was none
    cases hop : s.op with
    | insert k value policy =>
      obtain ⟨rfl, rfl⟩ : k = key ∧ ⟨key, value, policy, s.now⟩ = r := by simpa [hop] using h
      exact .inl ⟨hpurged, value, policy, hop, rfl⟩
    | get | peek | contains | remove | clear => simp [hop] at h
  | some r₀ =>
    obtain rfl := hkey r₀ rfl
    by_cases hput : ∃ value policy, s.op = .insert r₀.key value policy
    · obtain ⟨value, policy, hop⟩ := hput
      obtain rfl : ⟨r₀.key, value, policy, s.now⟩ = r := by simpa [hop] using h
      exact .inl ⟨hpurged, value, policy, hop, rfl⟩
    · refine .inr ⟨r₀, rfl, fun value policy hop => hput ⟨value, policy, hop⟩, ?_, ?_, hpurged, ?_⟩
      · intro hop
        simp [hop] at h
      · intro hop
        simp [hop] at h
      · intro hop
        have hread : r₀.expired s.now = false ∧ { r₀ with touched := s.now } = r := by
          simpa [hop] using h
        exact hread.1

/-- What a step leaves was put in by it, or was found and spared. -/
theorem leaves_eq_some_iff {found : Option (Record α)}
    (hkey : ∀ r₀, found = some r₀ → r₀.key = key) :
    s.leaves key found = some r ↔ s.PutsIn key r ∨
      ∃ r₀, found = some r₀ ∧ s.Spares r₀ ∧ r = r₀.touchedAt (readings key [s]) := by
  constructor
  · intro h
    rcases putsIn_or_spares hkey h with hput | ⟨r₀, hfound, hspares⟩
    · exact .inl hput
    · obtain rfl := hkey r₀ hfound
      rw [hfound, leaves_of_spares hspares] at h
      exact .inr ⟨r₀, hfound, hspares, (Option.some.inj h).symm⟩
  · rintro (hput | ⟨r₀, rfl, hspares, rfl⟩)
    · exact leaves_of_putsIn hput found
    · obtain rfl := hkey r₀ rfl
      exact leaves_of_spares hspares

end

/-- The record under a key after a run is the one that the history tells. -/
theorem find?_run_iff (capacity : Nat) (ops : List (Nat × Op α)) (key : String) (r : Record α) :
    ((new capacity).run ops).1.find? key = some r ↔
      Stands ((new capacity).history ops) key r := by
  induction ops using List.reverseRecOn generalizing r with
  | nil =>
    refine iff_of_false nofun ?_
    rintro ⟨before, put, after, value, policy, hnil, -⟩
    simp [history] at hnil
  | append_singleton ops step ih =>
    obtain ⟨now, op⟩ := step
    rw [run_snoc, find?_perform, history_snoc, stands_snoc,
      leaves_eq_some_iff fun r₀ h => key_of_find? _ h]
    simp only [ih]

theorem leaves_of_ne {s : Step α} {key k : String} (h : s.op.key? = some k) (hk : k ≠ key)
    (found : Option (Record α)) :
    s.leaves key found = if s.purged? = some key then none else found := by
  rw [Step.leaves]
  split
  · rfl
  · cases hop : s.op with
    | insert | get | remove =>
      rw [hop] at h
      cases h
      exact if_neg hk
    | peek | contains => rfl
    | clear =>
      rw [hop] at h
      cases h

/-- **A cache holds what was put in last.**  Put values into an empty cache, read them and take them
out, in any order and at any moments, and look at one key.

* A value can be looked up, and read, exactly when it is the one that the latest insertion under the
  key has put in, no removal, no clearing, no reading that found it expired and no purge has taken
  it away since, and it is not expired now.  The key is in the cache exactly then.
* To remove the key gives the value exactly when it is the one that was put in last and nothing has
  taken it away since, be it expired or not.
* An operation that is about another key leaves the record under this one as it is, unless it is the
  record that is given up for want of room. -/
theorem holds_latest (capacity : Nat) (ops : List (Nat × Op α)) (key : String) :
    let c := ((new capacity : Cache α).run ops).1
    let steps := (new capacity : Cache α).history ops
    (∀ now,
      (∀ value, c.peek now key = some value ↔
        ∃ r, Stands steps key r ∧ r.expired now = false ∧ r.value = value) ∧
      (c.get now key).2.1 = c.peek now key ∧
      c.contains now key = (c.peek now key).isSome) ∧
    (∀ value, (c.remove key).2.1 = some value ↔ ∃ r, Stands steps key r ∧ r.value = value) ∧
    ∀ now (op : Op α) other, op.key? = some other → other ≠ key →
      (c.perform now op).1.find? key =
        if c.purged? now op = some key then none else c.find? key := by
  intro c steps
  have hstands (r : Record α) : c.find? key = some r ↔ Stands steps key r :=
    find?_run_iff capacity ops key r
  refine ⟨fun now => ⟨fun value => ?_, c.value_get now key, rfl⟩, fun value => ?_, ?_⟩
  · simp only [c.peek_eq now key, Option.bind_eq_some_iff, hstands, Option.ite_none_left_eq_some,
      Bool.not_eq_true, Option.some.injEq]
  · rw [value_remove, Option.map_eq_some_iff]
    simp only [hstands]
  · intro now op other hop hother
    rw [find?_perform]
    exact leaves_of_ne hop hother _

/-- Operations on two keys: the value under `a` is replaced, and a reading gives the new one more
time before it expires. -/
def replacedAndRead : List (Nat × Op Nat) :=
  [(0, .insert "a" 1 ⟨.low, none, none, true⟩), (1, .insert "a" 2 ⟨.low, none, some 5, false⟩),
    (2, .insert "b" 7 ⟨.high, none, none, true⟩), (4, .get "a"), (5, .remove "b"),
    (6, .insert "b" 8 ⟨.high, none, none, true⟩), (7, .contains "a")]

/-- The theorem applies to them: the new value can be seen until it expires and removed even then,
and a third value pushes it out. -/
theorem holds_latest_replacedAndRead :
    let c := ((new 2).run replacedAndRead).1
    let steps := (new 2).history replacedAndRead
    (∃ r, Stands steps "a" r ∧ r.expired 8 = false ∧ r.value = 2) ∧
      c.peek 9 "a" = none ∧ ¬ (∃ r, Stands steps "a" r ∧ r.expired 9 = false ∧ r.value = 2) ∧
      (c.remove "a").2.1 = some 2 ∧ (∃ r, Stands steps "a" r ∧ r.value = 2) ∧
      (Op.insert "c" 3 ⟨.normal, none, none, true⟩ : Op Nat).key? = some "c" ∧ "c" ≠ "a" ∧
      (c.perform 8 (.insert "c" 3 ⟨.normal, none, none, true⟩)).1.find? "a" = none := by
  intro c steps
  obtain ⟨hseen, hremoved, hother⟩ := holds_latest 2 replacedAndRead "a"
  have hexpired : c.peek 9 "a" = none := by decide
  refine ⟨((hseen 8).1 2).1 (by decide), hexpired, ?_, by decide, (hremoved 2).1 (by decide), rfl,
    by decide, ?_⟩
  · intro hstands
    have hvalue : c.peek 9 "a" = some 2 := ((hseen 9).1 2).2 hstands
    rw [hexpired] at hvalue
    cases hvalue
  · refine (hother 8 (.insert "c" 3 ⟨.normal, none, none, true⟩) "c" rfl (by decide)).trans ?_
    exact if_pos (by decide)

end Cache

end GraphStore
