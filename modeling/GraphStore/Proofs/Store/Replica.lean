import GraphStore.Proofs.Store.Held

/-!
# Replicas of a cache

A replica starts with the copies that a cache holds of some entities, and is overwritten entity by
entity with what the messages list.  As long as the workspace stays on display and the cache does
not lose one of these entities (`Desk.Steady`), the replica agrees with the cache on them after
every command (`Desk.replica_agrees`): the messages leave no change out.
-/

namespace GraphStore

/-- Overwrite the copies of the entities with these ids, a later copy over an earlier one. -/
def overwrite {k : Kind} (ids : List String) (replica : SortedMap (Entity k))
    (es : List (Entity k)) : SortedMap (Entity k) :=
  es.foldl (fun m e => if e.id ∈ ids then m.insert e.id e else m) replica

/-- Overwrite the copies of the entities with these ids as messages list them. -/
def follow {k : Kind} (ids : List String) (replica : SortedMap (Entity k))
    (messages : List MainMessage) : SortedMap (Entity k) :=
  messages.foldl (fun m message => overwrite ids m (message.listed k)) replica

section

variable {k : Kind} {ids : List String}

theorem get?_overwrite {id : String} (hid : id ∈ ids) (replica : SortedMap (Entity k))
    (es : List (Entity k)) :
    (overwrite ids replica es).get? id = (Entity.lastOf? id es).or (replica.get? id) := by
  induction es using List.reverseRecOn with
  | nil => rfl
  | append_singleton es e ih =>
    have hstep : overwrite ids replica (es ++ [e]) =
        if e.id ∈ ids then (overwrite ids replica es).insert e.id e
        else overwrite ids replica es := by
      simp [overwrite]
    rw [hstep, Entity.lastOf?_append, Entity.lastOf?_singleton, Option.or_assoc, ← ih]
    by_cases he : e.id = id
    · subst he
      simp [hid, SortedMap.get?_insert]
    · have hne : id ≠ e.id := fun h => he h.symm
      by_cases hmem : e.id ∈ ids <;> simp [hmem, he, hne, SortedMap.get?_insert]

theorem follow_append (replica : SortedMap (Entity k)) (ms ns : List MainMessage) :
    follow ids replica (ms ++ ns) = follow ids (follow ids replica ms) ns := List.foldl_append

theorem follow_eq (replica : SortedMap (Entity k)) (ms : List MainMessage) :
    follow ids replica ms = overwrite ids replica (ms.flatMap (MainMessage.listed k)) := by
  induction ms generalizing replica with
  | nil => rfl
  | cons m ms ih =>
    rw [List.flatMap_cons, overwrite, List.foldl_append]
    exact ih _

end

namespace Desk

/-- The desk after commands. -/
def reached (d : Desk) (cs : List Command) : Desk := (d.run cs).1

/-- The messages that commands send, in order. -/
def sent (d : Desk) (cs : List Command) : List MainMessage :=
  (d.run cs).2.flatMap fun step => step.2.messages

/-- Through all the commands the workspace is on display, only the store publishes updates, and
its cache of the kind loses no entity with one of the ids. -/
def Steady (w : String) (k : Kind) (ids : List String) : Desk → List Command → Prop
  | d, [] => d.focus.isOn w = true
  | d, c :: cs => d.focus.isOn w = true ∧ c.isPublish = false ∧
      (∀ id ∈ ids, ¬ d.Drops c w k id) ∧ Steady w k ids (d.perform c).1 cs

section

variable (d : Desk) (c : Command) (cs : List Command)

@[simp] theorem reached_nil : d.reached [] = d := rfl

theorem reached_cons : d.reached (c :: cs) = (d.perform c).1.reached cs := rfl

theorem sent_cons : d.sent (c :: cs) = (d.perform c).2.2.messages ++ (d.perform c).1.sent cs :=
  rfl

theorem sent_snoc :
    d.sent (cs ++ [c]) = d.sent cs ++ ((d.reached cs).perform c).2.2.messages := by
  induction cs generalizing d with
  | nil => exact List.append_nil _
  | cons c' cs ih => rw [List.cons_append, sent_cons, ih, sent_cons, List.append_assoc]; rfl

theorem reached_append (ds : List Command) :
    d.reached (cs ++ ds) = (d.reached cs).reached ds := by
  induction cs generalizing d with
  | nil => rfl
  | cons c' cs ih => exact ih (d.perform c').1

theorem reached_snoc : d.reached (cs ++ [c]) = ((d.reached cs).perform c).1 :=
  reached_append d cs [c]

end

variable {d : Desk} {w : String} {k : Kind} {ids : List String} {cs p q : List Command}
  {replica : SortedMap (Entity k)}

theorem Steady.current (h : Steady w k ids d cs) : d.focus.isOn w = true := by
  cases cs with
  | nil => exact h
  | cons => exact h.1

theorem Steady.of_append (h : Steady w k ids d (p ++ q)) : Steady w k ids d p := by
  induction p generalizing d with
  | nil => exact h.current
  | cons c p ih => exact ⟨h.1, h.2.1, h.2.2.1, ih h.2.2.2⟩

theorem Steady.rest (h : Steady w k ids d (p ++ q)) : Steady w k ids (d.reached p) q := by
  induction p generalizing d with
  | nil => exact h
  | cons c p ih => exact ih h.2.2.2

theorem Steady.isSome_held? (h : Steady w k ids d (p ++ q)) {id : String} (hid : id ∈ ids)
    (hheld : (d.held? w k id).isSome) : ((d.reached p).held? w k id).isSome := by
  induction p generalizing d with
  | nil => exact hheld
  | cons c p ih =>
    obtain ⟨hcurrent, hstore, hkept, hrest⟩ := h
    exact ih hrest (held?_perform hstore hcurrent hheld (hkept id hid)).1

/-- One command keeps a replica in agreement with the cache. -/
theorem get?_follow_perform {c : Command} (h : Steady w k ids d (c :: cs)) {id : String}
    (hid : id ∈ ids) (hheld : (d.held? w k id).isSome)
    (hreplica : replica.get? id = d.held? w k id) :
    (follow ids replica (d.perform c).2.2.messages).get? id =
      (d.perform c).1.held? w k id := by
  obtain ⟨hcurrent, hstore, hkept, -⟩ := h
  rw [follow_eq, get?_overwrite hid, hreplica,
    (held?_perform hstore hcurrent hheld (hkept id hid)).2]
  rfl

/-- A run keeps a replica in agreement with the cache. -/
theorem get?_follow_sent (h : Steady w k ids d (p ++ q)) {id : String} (hid : id ∈ ids)
    (hheld : (d.held? w k id).isSome) (hreplica : replica.get? id = d.held? w k id) :
    (follow ids replica (d.sent p)).get? id = (d.reached p).held? w k id := by
  induction p generalizing d replica with
  | nil => exact hreplica
  | cons c p ih =>
    rw [sent_cons, follow_append, reached_cons]
    exact ih h.2.2.2 (h.isSome_held? (p := [c]) hid hheld)
      (get?_follow_perform h hid hheld hreplica)

/-- A desk with one vertex of the workspace on display. -/
def oneVertex : Desk :=
  (Desk.new .default true).reached
    [.setCurrent "w1", .cache "w1" .vertex [.vertex "v1" .published]]

/-- Commands of several workspaces, with two versions of the vertex in one batch. -/
def twoVersions : List Command :=
  [.cache "w1" .vertex [.vertex "v1" .unpublished, .vertex "v2" .published,
      .vertex "v1" .publishedChanged],
    .readOne "w1" "vertex" "v1", .cache "w2" .vertex [.vertex "v1" .unpublished]]

theorem steady_twoVersions : Steady "w1" .vertex ["v1"] oneVertex twoVersions := by
  refine ⟨by decide +kernel, rfl, fun id _ => not_drops_of_room (by decide +kernel),
    by decide +kernel, rfl, fun id _ => not_drops_of_room (by decide +kernel),
    by decide +kernel, rfl, fun id _ => not_drops_of_room (by decide +kernel), ?_⟩
  unfold Steady
  decide +kernel

/-- **The messages leave no change out.**  A replica that agrees with the cache on some entities
goes on to agree with it on them after every command of a steady run; and when a command changes
the copy held of one of them, one of its messages lists the new copy. -/
theorem replica_agrees (h : Steady w k ids d cs) (hheld : ∀ id ∈ ids, (d.held? w k id).isSome)
    (hreplica : ∀ id ∈ ids, replica.get? id = d.held? w k id) :
    (∀ p, p <+: cs → ∀ id ∈ ids,
      (follow ids replica (d.sent p)).get? id = (d.reached p).held? w k id) ∧
    ∀ p c, p ++ [c] <+: cs → ∀ id ∈ ids,
      (d.reached (p ++ [c])).held? w k id ≠ (d.reached p).held? w k id →
      ∃ message ∈ ((d.reached p).perform c).2.2.messages, ∃ e ∈ message.listed k,
        e.id = id ∧ (d.reached (p ++ [c])).held? w k id = some e := by
  constructor
  · rintro p ⟨q, rfl⟩ id hid
    exact get?_follow_sent h hid (hheld id hid) (hreplica id hid)
  · rintro p c ⟨q, rfl⟩ id hid hchange
    rw [List.append_assoc] at h
    obtain ⟨hcurrent, hstore, hkept, -⟩ := h.rest
    have hsome := h.isSome_held? hid (hheld id hid)
    have hlast := (held?_perform hstore hcurrent hsome (hkept id hid)).2
    rw [reached_snoc] at hchange ⊢
    cases he : Entity.lastOf? id (((d.reached p).perform c).2.2.listed k) with
    | none =>
      rw [he] at hlast
      exact absurd hlast hchange
    | some e =>
      rw [he] at hlast
      obtain ⟨hmem, hid'⟩ := Entity.mem_of_lastOf? he
      obtain ⟨message, hmessage, hlisted⟩ := List.mem_flatMap.1 hmem
      exact ⟨message, hmessage, e, hlisted, hid', hlast⟩

/-- The theorem applies to a replica of one vertex. -/
theorem replica_agrees_twoVersions :
    (∀ id ∈ ["v1"], (oneVertex.held? "w1" .vertex id).isSome) ∧
      (∀ id ∈ ["v1"], (SortedMap.empty.insert "v1" (Entity.vertex "v1" .published)).get? id =
        oneVertex.held? "w1" .vertex id) ∧
      ∀ p, p <+: twoVersions → ∀ id ∈ ["v1"],
        (follow ["v1"] (SortedMap.empty.insert "v1" (Entity.vertex "v1" .published))
            (oneVertex.sent p)).get? id =
          (oneVertex.reached p).held? "w1" .vertex id := by
  have hheld : ∀ id ∈ ["v1"], (oneVertex.held? "w1" .vertex id).isSome := by decide +kernel
  have hreplica : ∀ id ∈ ["v1"],
      (SortedMap.empty.insert "v1" (Entity.vertex "v1" .published)).get? id =
        oneVertex.held? "w1" .vertex id := by decide +kernel
  exact ⟨hheld, hreplica, (replica_agrees steady_twoVersions hheld hreplica).1⟩

end Desk

end GraphStore
