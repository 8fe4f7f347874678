import GraphStore.Proofs.Store.Intake
import GraphStore.Proofs.Store.Operations

/-!
# What a command does to the entities held

For one workspace `w` and one kind `k`, a command of a `Desk` is described by the entities that
it offers to the cache of `w` and `k` (`Command.offered`): an operation that writes takes them in
one after another, and all others leave what is held as it is.

* `Batch.entitiesOf` : the entities of a kind that batches bring to the cache of the kind
  (`Store.takes_takeIn`).
* `Store.Takes` : the store has taken in entities and published the updates among them.  It is
  composed along a sequence of writes (`Store.Takes.trans`).
* `Desk.Drops` : a command makes the cache lose an entity that it holds.
* `Desk.held?_perform` : an entity that a command does not lose is held after it as the messages
  of the command list it last, or as before if they do not list it.
-/

namespace GraphStore

/-- The entities of a kind that a message lists. -/
def MainMessage.listed (k : Kind) : MainMessage → List (Entity k)
  | .storeObjectsUpdated update => update.listed k
  | _ => []

/-- The entities of a kind that the messages of an emission list, in order. -/
def Emission.listed (k : Kind) (e : Emission) : List (Entity k) :=
  e.messages.flatMap (MainMessage.listed k)

namespace ObjectsUpdated

theorem listed_ofKind_self (k : Kind) (es : List (Entity k)) : (ofKind k es).listed k = es := by
  cases k <;> rfl

theorem listed_ofKind_of_ne {k l : Kind} (es : List (Entity k)) (h : l ≠ k) :
    (ofKind k es).listed l = [] := by
  cases k <;> cases l <;> first | rfl | exact absurd rfl h

theorem listed_of_isEmpty {u : ObjectsUpdated} (h : u.isEmpty = true) (k : Kind) :
    u.listed k = [] := by
  simp only [isEmpty, size, beq_iff_eq] at h
  cases k <;> exact List.eq_nil_of_length_eq_zero (by omega)

end ObjectsUpdated

namespace Emission

@[simp] theorem messages_append (a b : Emission) :
    (a ++ b).messages = a.messages ++ b.messages := by
  simp [messages]

@[simp] theorem messages_ofMessages (ms : List MainMessage) : (ofMessages ms).messages = ms := by
  simp [messages, List.filterMap_map, Function.comp_def, Signal.ui?]

@[simp] theorem messages_ofDepartures {k : Kind} (ds : List (Departure (Entity k))) :
    (ofDepartures ds).messages = [] := rfl

variable (k : Kind)

@[simp] theorem listed_append (a b : Emission) :
    (a ++ b).listed k = a.listed k ++ b.listed k := by
  simp [listed]

end Emission

namespace Batch

/-- The entities of a kind that batches bring, in order. -/
def entitiesOf (k : Kind) (bs : List Batch) : List (Entity k) :=
  bs.flatMap fun b => (ObjectsUpdated.ofKind b.kind b.entities).listed k

variable (k : Kind) (bs cs : List Batch)

theorem entitiesOf_append : entitiesOf k (bs ++ cs) = entitiesOf k bs ++ entitiesOf k cs :=
  List.flatMap_append

theorem entitiesOf_singleton (batch : List (Entity k)) : entitiesOf k [⟨k, batch⟩] = batch := by
  simp [entitiesOf, ObjectsUpdated.listed_ofKind_self]

theorem entitiesOf_singleton_of_ne {l : Kind} (h : k ≠ l) (batch : List (Entity l)) :
    entitiesOf k [⟨l, batch⟩] = [] := by
  simp [entitiesOf, ObjectsUpdated.listed_ofKind_of_ne _ h]

theorem entitiesOf_map (batches : List (List (Entity k))) :
    entitiesOf k (batches.map (mk k)) = batches.flatten := by
  simp [entitiesOf, List.flatMap_map, ObjectsUpdated.listed_ofKind_self, List.flatMap_id']

theorem entitiesOf_map_of_ne {l : Kind} (h : k ≠ l) (batches : List (List (Entity l))) :
    entitiesOf k (batches.map (mk l)) = [] := by
  simp [entitiesOf, List.flatMap_map, ObjectsUpdated.listed_ofKind_of_ne _ h]

/-- A response brings the entities that are found in it. -/
theorem entitiesOf_ofResponse (response : Json) :
    entitiesOf k (ofResponse response) = ((Findings.of response).batches k).flatten := by
  rw [ofResponse, entitiesOf_append]
  cases k with
  | vertex =>
    rw [entitiesOf_map, entitiesOf_map_of_ne _ (by decide), List.append_nil]
  | edge =>
    rw [entitiesOf_map, entitiesOf_map_of_ne _ (by decide), List.nil_append]

end Batch

theorem Focus.listed_publish {f : Focus} {w : String} (hf : f.isOn w = true) (w' : String)
    (u : ObjectsUpdated) (k : Kind) :
    (Emission.ofMessages (f.publish w' u)).listed k = if w' = w then u.listed k else [] := by
  simp only [Emission.listed, Emission.messages_ofMessages, publish]
  by_cases hw : w' = w
  · subst hw
    cases he : u.isEmpty with
    | true => simp [ObjectsUpdated.listed_of_isEmpty he]
    | false => simp [hf, MainMessage.listed]
  · have hoff : f.isOn w' = false := by
      simp only [isOn, beq_iff_eq, beq_eq_false_iff_ne] at hf ⊢
      rw [hf]
      exact fun h => hw (Option.some.inj h).symm
    simp [hoff, hw]

namespace Store

/-- The copy of an entity that is held. -/
def held? (s : Store) (w : String) (k : Kind) (id : String) : Option (Entity k) :=
  ((s.partition w).cache k).peek moment id

/-! ### Partitions -/

theorem partition_withPartition (s : Store) (w w' : String) (p : Partition) :
    (s.withPartition w' p).partition w = if w = w' then p else s.partition w := by
  simp only [partition, partition?, withPartition, SortedMap.get?_insert]
  by_cases h : w = w' <;> simp [h]

theorem cache_withCache (s : Store) (w w' : String) (k : Kind) {k' : Kind}
    (c : Cache (Entity k')) (h : w ≠ w' ∨ k ≠ k') :
    ((s.withPartition w' ((s.partition w').withCache k' c)).partition w).cache k =
      (s.partition w).cache k := by
  rw [partition_withPartition]
  by_cases hw : w = w'
  · subst hw
    rw [if_pos rfl]
    exact Partition.cache_withCache_of_ne _ c (h.resolve_left fun h => h rfl)
  · rw [if_neg hw]

/-! ### Writing -/

/-- The store `s` has become `s'` by taking in entities of a workspace and a kind, perhaps among
others, and the messages list the updates. -/
structure Takes (focus : Focus) (w : String) (k : Kind) (s : Store) (es : List (Entity k))
    (s' : Store) (emission : Emission) : Prop where
  /-- The settings are the same. -/
  settings : s'.settings = s.settings
  /-- Departures are observed or not, as before. -/
  observed : s'.observed = s.observed
  /-- The entities have been taken in. -/
  cache : (s'.partition w).cache k =
    (Intake.takeAll s.settings s.policy ((s.partition w).cache k) es).cache
  /-- The updates are published. -/
  listed : focus.isOn w = true → emission.listed k =
    (Intake.takeAll s.settings s.policy ((s.partition w).cache k) es).updated

namespace Takes

variable {focus : Focus} {w : String} {k : Kind} {s s' s'' : Store} {es fs : List (Entity k)}
  {a b : Emission}

theorem refl (s : Store) : Takes focus w k s [] s .none := ⟨rfl, rfl, rfl, fun _ => rfl⟩

theorem policy (h : Takes focus w k s es s' a) : s'.policy = s.policy := by
  simp only [Store.policy, h.observed]

theorem trans (h : Takes focus w k s es s' a) (h' : Takes focus w k s' fs s'' b) :
    Takes focus w k s (es ++ fs) s'' (a ++ b) where
  settings := h'.settings.trans h.settings
  observed := h'.observed.trans h.observed
  cache := by rw [h'.cache, h.settings, h.policy, h.cache, Intake.cache_takeAll_append]
  listed := by
    intro hf
    rw [Emission.listed_append, h.listed hf, h'.listed hf, h.settings, h.policy, h.cache,
      Intake.updated_takeAll_append]

end Takes

section

variable (focus : Focus) (w : String) (k : Kind) (s : Store)

theorem takes_cacheBatch (b : Batch) :
    Takes focus w k s (Batch.entitiesOf k [b]) (s.cacheBatch focus w b.kind b.entities).1
      (s.cacheBatch focus w b.kind b.entities).2.2 := by
  obtain ⟨k', batch⟩ := b
  have hlisted (hf : focus.isOn w = true) : (s.cacheBatch focus w k' batch).2.2.listed k =
      (ObjectsUpdated.ofKind k' (Intake.takeAll s.settings s.policy
        ((s.partition w).cache k') batch).updated).listed k := by
    simp only [cacheBatch, Emission.listed_append, Focus.listed_publish hf, if_true]
    exact List.append_nil _
  by_cases hk : k = k'
  · subst hk
    rw [Batch.entitiesOf_singleton]
    refine ⟨rfl, rfl, ?_, fun hf => ?_⟩
    · simp only [cacheBatch, partition_withPartition, if_true, Partition.cache_withCache]
      rfl
    · rw [hlisted hf, ObjectsUpdated.listed_ofKind_self]
  · rw [Batch.entitiesOf_singleton_of_ne k hk]
    refine ⟨rfl, rfl, s.cache_withCache w w k _ (.inr hk), fun hf => ?_⟩
    rw [hlisted hf, ObjectsUpdated.listed_ofKind_of_ne _ hk]
    rfl

/-- Batches bring their entities to the caches of their workspace. -/
theorem takes_takeIn (bs : List Batch) :
    Takes focus w k s (Batch.entitiesOf k bs) (s.takeIn focus w bs).1
      (s.takeIn focus w bs).2.2 := by
  induction bs generalizing s with
  | nil => exact .refl s
  | cons b bs ih =>
    rw [← List.singleton_append, Batch.entitiesOf_append]
    exact (takes_cacheBatch focus w k s b).trans (ih _)

theorem takes_takeIn_of_ne {w' : String} (h : w ≠ w') (bs : List Batch) :
    Takes focus w k s [] (s.takeIn focus w' bs).1 (s.takeIn focus w' bs).2.2 := by
  induction bs generalizing s with
  | nil => exact .refl s
  | cons b bs ih =>
    have hbatch : Takes focus w k s [] (s.cacheBatch focus w' b.kind b.entities).1
        (s.cacheBatch focus w' b.kind b.entities).2.2 := by
      refine ⟨rfl, rfl, s.cache_withCache w w' k _ (.inl h), fun hf => ?_⟩
      simp only [cacheBatch, Emission.listed_append, Focus.listed_publish hf, if_neg h.symm]
      rfl
    exact hbatch.trans (ih _)

end

/-! ### Reading -/

variable (w : String) (k : Kind) (id : String)

theorem held?_setOnGraph (s : Store) (w' : String) (ids : List String) :
    (s.setOnGraph w' ids).held? w k id = s.held? w k id := by
  simp only [held?, setOnGraph, partition_withPartition]
  by_cases hw : w = w'
  · subst hw
    cases k <;> simp [Partition.cache]
  · simp [hw]

theorem held?_ensure (s : Store) (w' : String) :
    (s.ensure w').held? w k id = s.held? w k id := by
  simp only [held?, ensure, partition_withPartition]
  by_cases hw : w = w'
  · simp [hw]
  · simp [hw]

theorem held?_readOne (s : Store) (w' : String) (k' : Kind) (id' : String) :
    (s.readOne w' k' id').1.held? w k id = s.held? w k id ∧
      (s.readOne w' k' id').2.2.messages = [] := by
  rcases s.readOne_cases w' k' id' with hone | hone
  · rw [hone]
    exact ⟨rfl, rfl⟩
  · rw [hone]
    refine ⟨?_, rfl⟩
    by_cases h : w = w' ∧ k = k'
    · obtain ⟨rfl, rfl⟩ := h
      simp only [held?, partition_withPartition, if_true, Partition.cache_withCache]
      exact ((s.partition w).cache k).peek_get moment id' id
    · have h : w ≠ w' ∨ k ≠ k' := by rwa [← not_and_or]
      simp only [held?, s.cache_withCache w w' k _ h]

theorem held?_read (s : Store) (w' : String) (k' : Kind) (ids : List String) :
    (s.read w' k' ids).1.held? w k id = s.held? w k id ∧
      (s.read w' k' ids).2.2.messages = [] := by
  induction ids generalizing s with
  | nil => exact ⟨rfl, rfl⟩
  | cons id' rest ih =>
    obtain ⟨hheld, hmessages⟩ := held?_readOne w k id s w' k' id'
    obtain ⟨hheld', hmessages'⟩ := ih (s.readOne w' k' id').1
    refine ⟨hheld'.trans hheld, ?_⟩
    simp only [read, Emission.messages_append, hmessages, hmessages', List.append_nil]

/-! ### Operations -/

/-- The entities of kind `k` that the operation offers to workspace `w`, in order. -/
def Op.offered (w : String) (k : Kind) : Op → List (Entity k)
  | .write w' batches => if w' = w then Batch.entitiesOf k batches else []
  | .replay w' lines => if w' = w then Batch.entitiesOf k (Batch.ofLines lines) else []
  | _ => []

variable {focus : Focus} {w : String} {k : Kind} {id : String} {s : Store}

/-- What a write makes of an entity that it does not lose. -/
theorem Takes.held? {es : List (Entity k)} {s' : Store} {e : Emission}
    (h : Takes focus w k s es s' e) (hf : focus.isOn w = true) (hheld : (s.held? w k id).isSome)
    (hdrop : ¬ Intake.Drops s.settings s.policy ((s.partition w).cache k) es id) :
    (s'.held? w k id).isSome ∧
      s'.held? w k id = (Entity.lastOf? id (e.listed k)).or (s.held? w k id) := by
  rw [h.listed hf, Store.held?, h.cache]
  exact Intake.held_takeAll s.policy_lasting hheld hdrop

/-- An entity that an operation does not lose is held as the messages list it last. -/
theorem held?_perform {op : Op} (hf : focus.isOn w = true) (hheld : (s.held? w k id).isSome)
    (hdrop : ¬ Intake.Drops s.settings s.policy ((s.partition w).cache k) (op.offered w k) id) :
    ((s.perform focus op).1.held? w k id).isSome ∧ (s.perform focus op).1.held? w k id =
      (Entity.lastOf? id ((s.perform focus op).2.2.listed k)).or (s.held? w k id) := by
  have htakeIn (w' : String) (bs : List Batch)
      (h : ¬ Intake.Drops s.settings s.policy ((s.partition w).cache k)
        (if w' = w then Batch.entitiesOf k bs else []) id) :
      ((s.takeIn focus w' bs).1.held? w k id).isSome ∧ (s.takeIn focus w' bs).1.held? w k id =
        (Entity.lastOf? id ((s.takeIn focus w' bs).2.2.listed k)).or (s.held? w k id) := by
    by_cases hw : w' = w
    · subst hw
      rw [if_pos rfl] at h
      exact (takes_takeIn focus w' k s bs).held? hf hheld h
    · rw [if_neg hw] at h
      exact (takes_takeIn_of_ne focus w k s (Ne.symm hw) bs).held? hf hheld h
  -- an operation that keeps what is held and sends nothing
  have quiet {s' : Store} {e : Emission} (h : s'.held? w k id = s.held? w k id)
      (he : e.messages = []) : (s'.held? w k id).isSome ∧
        s'.held? w k id = (Entity.lastOf? id (e.listed k)).or (s.held? w k id) := by
    rw [Emission.listed, he, h]
    exact ⟨hheld, rfl⟩
  cases op with
  | write w' bs => exact htakeIn w' bs hdrop
  | replay w' lines => exact htakeIn w' _ hdrop
  | read w' k' ids reply =>
    obtain ⟨hs, he⟩ := held?_read w k id s w' k' ids
    exact quiet hs he
  | setOnGraph w' ids => exact quiet (held?_setOnGraph w k id s w' ids) rfl
  | ensure w' => exact quiet (held?_ensure w k id s w') rfl
  | look | size | settings => exact quiet rfl rfl

end Store

/-! ### Commands -/

namespace Command

/-- The command publishes an update that somebody else made. -/
def isPublish : Command → Bool
  | .publish _ _ => true
  | _ => false

/-- The entities of kind `k` that the command offers to workspace `w`, in order. -/
def offered (w : String) (k : Kind) (c : Command) : List (Entity k) :=
  c.op?.elim [] (Store.Op.offered w k)

end Command

namespace Desk

variable (d : Desk) (w : String) (k : Kind) (id : String)

/-- The copy of an entity that is held. -/
def held? : Option (Entity k) := d.store.held? w k id

/-- The command makes the cache lose an entity that it holds. -/
def Drops (c : Command) (w : String) (k : Kind) (id : String) : Prop :=
  Store.Intake.Drops d.store.settings d.store.policy ((d.store.partition w).cache k)
    (c.offered w k) id

variable {d w k id}

theorem not_drops_of_room {c : Command}
    (h : ((d.store.partition w).cache k).size + (c.offered w k).length ≤
      ((d.store.partition w).cache k).capacity) : ¬ d.Drops c w k id :=
  Store.Intake.not_drops_of_room d.store.policy_lasting h

/-- An entity that a command does not lose is held as the messages list it last. -/
theorem held?_perform {c : Command} (hc : c.isPublish = false) (hf : d.focus.isOn w = true)
    (hheld : (d.held? w k id).isSome) (hdrop : ¬ d.Drops c w k id) :
    ((d.perform c).1.held? w k id).isSome ∧
      (d.perform c).1.held? w k id =
        (Entity.lastOf? id ((d.perform c).2.2.listed k)).or (d.held? w k id) := by
  cases hop : c.op? with
  | some op =>
    rw [Drops, Command.offered, hop] at hdrop
    rw [d.perform_of_op? hop]
    exact Store.held?_perform hf hheld hdrop
  | none =>
    cases c with
    | publish => cases hc
    | setCurrent | clearCurrent | current | isCurrent | watch | look | stopListening =>
      exact ⟨hheld, rfl⟩
    | _ => cases hop

end Desk

end GraphStore
