import GraphStore.Cache.Basic
import Mathlib.Data.List.Basic

/-!
# A cache does not look at its values

What a cache does depends on keys, policies and moments, never on a value.  Exchange every value
by a function, and the same records stay and depart, at the same places and for the same causes,
with the exchanged values (`Cache.run_map`).

So values may be marked without a change of what happens.  `Cache.numbered` marks every value with
the place of its operation in the run, which makes every insertion one of a kind, also when the
same value comes twice under the same key.
-/

namespace GraphStore

variable {α β : Type} (f : α → β)

/-! ### Other values -/

/-- The record with another value. -/
def Record.map (r : Record α) : Record β := ⟨r.key, f r.value, r.policy, r.touched⟩

/-- The departure with another value. -/
def Departure.map (d : Departure α) : Departure β := ⟨d.key, d.cause, f d.value⟩

namespace Cache

/-- The cache with other values. -/
def map (c : Cache α) : Cache β := ⟨c.capacity, c.records.map (Record.map f), c.counters⟩

/-- The operation with another value. -/
def Op.map : Op α → Op β
  | .insert key value policy => .insert key (f value) policy
  | .get key => .get key
  | .peek key => .peek key
  | .contains key => .contains key
  | .remove key => .remove key
  | .clear => .clear

/-- The answer with another value. -/
def Answer.map : Answer α → Answer β
  | .done => .done
  | .value v => .value (v.map f)
  | .truth b => .truth b

/-! ### The parts of an operation -/

section

variable (c : Cache α) (now : Nat) (key : String) (r : Record α) (cause : Cause)

theorem expired_map : (r.map f).expired now = r.expired now := rfl

theorem depart_map : (r.map f).depart cause = (r.depart cause).map (Departure.map f) := by
  by_cases h : r.policy.observed = true <;> simp [Record.depart, Record.map, Departure.map, h]

theorem find?_map : (c.map f).find? key = (c.find? key).map (Record.map f) := by
  rw [find?, map, List.find?_map]
  rfl

theorem without_map : (c.map f).without key = (c.without key).map (Record.map f) := by
  rw [without, map, List.filter_map]
  rfl

theorem lowest_map (rs : List (Record α)) :
    lowest (rs.map (Record.map f)) = (lowest rs).map (Record.map f) := by
  induction rs with
  | nil => rfl
  | cons s rest ih =>
    simp only [List.map_cons, lowest, ih]
    cases lowest rest with
    | none => rfl
    | some t =>
      by_cases hlt : t.policy.priority.rank < s.policy.priority.rank <;> simp [Record.map, hlt]

theorem victim?_map (rs : List (Record α)) :
    victim? (rs.map (Record.map f)) now =
      (victim? rs now).map fun v => (v.1.map f, v.2) := by
  have hfind : (rs.map (Record.map f)).find? (fun r => r.expired now) =
      (rs.find? fun r => r.expired now).map (Record.map f) := by
    rw [List.find?_map]
    rfl
  simp only [victim?, hfind, lowest_map]
  cases rs.find? fun r => r.expired now with
  | some r => rfl
  | none => cases lowest rs <;> rfl

theorem evict_map : (c.map f).evict (r.map f) cause =
    ((c.evict r cause).1.map f, (c.evict r cause).2.map (Departure.map f)) := by
  have hwithout := c.without_map f r.key
  simp only [evict, depart_map]
  rw [show (r.map f).key = r.key from rfl, hwithout]
  rfl

theorem purge_map : (c.map f).purge now =
    ((c.purge now).1.map f, (c.purge now).2.map (Departure.map f)) := by
  have hsize : (c.map f).size = c.size := List.length_map _
  have hvictim := victim?_map f now c.records
  simp only [purge, hsize]
  rw [show (c.map f).capacity = c.capacity from rfl,
    show (c.map f).records = c.records.map (Record.map f) from rfl, hvictim]
  split
  · rfl
  · cases victim? c.records now with
    | none => rfl
    | some v => exact c.evict_map f v.1 v.2

theorem displace_map : (c.map f).displace key =
    ((c.displace key).1.map f, (c.displace key).2.map (Departure.map f)) := by
  simp only [displace, find?_map, without_map]
  cases c.find? key with
  | none => rfl
  | some r => simp only [Option.map_some, depart_map]; rfl

/-! ### Operations and runs -/

theorem insert_map (value : α) (policy : Policy) :
    (c.map f).insert now key (f value) policy =
      ((c.insert now key value policy).1.map f,
        (c.insert now key value policy).2.map (Departure.map f)) := by
  have hseat (d : Cache α) : { d.map f with
        records := (d.map f).records ++ [⟨key, f value, policy, now⟩]
        counters := { (d.map f).counters with inserts := (d.map f).counters.inserts + 1 } } =
      map f { d with
        records := d.records ++ [⟨key, value, policy, now⟩]
        counters := { d.counters with inserts := d.counters.inserts + 1 } } := by
    simp [map, Record.map]
  simp only [insert, displace_map, hseat, purge_map, List.map_append]

theorem get_map : (c.map f).get now key =
    ((c.get now key).1.map f, (c.get now key).2.1.map f,
      (c.get now key).2.2.map (Departure.map f)) := by
  simp only [get, find?_map, without_map]
  cases c.find? key with
  | none => rfl
  | some r =>
    simp only [Option.map_some, expired_map, evict_map]
    split
    · rfl
    · simp [map, Record.map]

theorem peek_map : (c.map f).peek now key = (c.peek now key).map f := by
  simp only [peek, find?_map]
  cases c.find? key with
  | none => rfl
  | some r =>
    simp only [Option.map_some, expired_map]
    by_cases he : r.expired now = true <;> simp [Record.map, he]

theorem remove_map : (c.map f).remove key =
    ((c.remove key).1.map f, (c.remove key).2.1.map f,
      (c.remove key).2.2.map (Departure.map f)) := by
  simp only [remove, find?_map, without_map]
  cases c.find? key with
  | none => rfl
  | some r => simp only [Option.map_some, depart_map]; rfl

theorem clear_map : (c.map f).clear =
    (c.clear.1.map f, c.clear.2.map (Departure.map f)) := by
  simp only [clear, map, List.flatMap_map, depart_map, List.map_flatMap, List.map_nil]

theorem perform_map (op : Op α) : (c.map f).perform now (op.map f) =
    ((c.perform now op).1.map f, (c.perform now op).2.1.map f,
      (c.perform now op).2.2.map (Departure.map f)) := by
  cases op with
  | insert key value policy => simp only [Op.map, perform, insert_map]; rfl
  | get key => simp only [Op.map, perform, get_map]; rfl
  | peek key => simp only [Op.map, perform, peek_map]; rfl
  | contains key => simp only [Op.map, perform, contains, peek_map, Option.isSome_map]; rfl
  | remove key => simp only [Op.map, perform, remove_map]; rfl
  | clear => simp only [Op.map, perform, clear_map]; rfl

/-- A run with other values does the same with these values. -/
theorem run_map (ops : List (Nat × Op α)) :
    (c.map f).run (ops.map fun step => (step.1, step.2.map f)) =
      ((c.run ops).1.map f,
        (c.run ops).2.map fun shown => (shown.1.map f, shown.2.map (Departure.map f))) := by
  induction ops generalizing c with
  | nil => rfl
  | cons step ops ih => simp only [List.map_cons, run, perform_map, ih]

end

/-! ### Marked values -/

/-- The operations, with every value marked by the place of its operation. -/
def numbered (ops : List (Nat × Op α)) : List (Nat × Op (Nat × α)) :=
  ops.zipIdx.map fun step => (step.1.1, step.1.2.map fun value => (step.2, value))

theorem map_snd_numbered (ops : List (Nat × Op α)) :
    ((numbered ops).map fun step => (step.1, step.2.map Prod.snd)) = ops := by
  have hmark (op : Op α) (place : Nat) :
      (op.map fun value => (place, value)).map Prod.snd = op := by
    cases op <;> rfl
  rw [numbered, List.map_map]
  simp only [Function.comp_def, hmark]
  exact List.zipIdx_map_fst 0 ops

/-- The marks change nothing. -/
theorem run_numbered (capacity : Nat) (ops : List (Nat × Op α)) :
    (new capacity).run ops =
      (((new capacity).run (numbered ops)).1.map Prod.snd,
        ((new capacity).run (numbered ops)).2.map fun shown =>
          (shown.1.map Prod.snd, shown.2.map (Departure.map Prod.snd))) := by
  rw [← run_map Prod.snd (new capacity) (numbered ops), map_snd_numbered]
  rfl

end Cache

end GraphStore
