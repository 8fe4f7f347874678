import GraphStore.Store.Desk

/-!
# The operations of a store

Commands come to a store in many forms.  For the store there are few: it takes in batches of
entities, it reads entities, it puts vertices on a canvas, it makes a partition, or it is looked
at.  `Store.Op` lists these operations, and `Command.op?` says which one a command is, so that
what holds of every operation holds of every command (`Desk.perform_of_op?`).

* `Store.takeIn` : take in batches one after another.  A response, the text of a response and the
  lines of a capture are all taken in like this (`Store.absorb_eq`, `Store.replayLines_eq`); which
  batches they carry does not depend on the store.
* `Store.takeIn_induction`, `Store.read_induction` : what one batch keeps, or another cache of the
  kind, is kept when entities are taken in or read.
* `Store.perform` : carry out an operation.
-/

namespace GraphStore

/-! ### Batches -/

/-- Entities of one kind that come together. -/
structure Batch where
  /-- The kind. -/
  kind : Kind
  /-- The entities. -/
  entities : List (Entity kind)

namespace Batch

/-- The batches that a response carries, in the order in which they are taken in. -/
def ofResponse (response : Json) : List Batch :=
  ((Findings.of response).batches .vertex).map (mk .vertex) ++
    ((Findings.of response).batches .edge).map (mk .edge)

/-- The batches that a text carries. -/
def ofText (text : List Char) : List Batch := (Json.parse? text).elim [] ofResponse

/-- The batches that a line of a capture carries. -/
def ofLine : CaptureLine → List Batch
  | .response a => ofResponse a
  | .blank | .unreadable => []

/-- The batches that lines of a capture carry, up to one that is not text. -/
def ofLines : List (List UInt8) → List Batch
  | [] => []
  | line :: rest =>
    match Text.Utf8.decode? line with
    | none => []
    | some text => ofLine (.of text) ++ ofLines rest

end Batch

namespace ReplayTotals

/-- What a line adds to the totals of a replay, next to the counts of its entities. -/
def ofLine : CaptureLine → ReplayTotals
  | .blank => .zero
  | .response _ => ⟨1, 0, .zero⟩
  | .unreadable => ⟨0, 1, .zero⟩

/-- The result of a replay that counted its entities like this. -/
def ofLines (tally : Tally) : List (List UInt8) → Except ReplayError ReplayTotals
  | [] => .ok ⟨0, 0, tally⟩
  | line :: rest =>
    match Text.Utf8.decode? line with
    | none => .error .notText
    | some text => (ofLines tally rest).map (ofLine (.of text)).merge

theorem merge_assoc (a b c : ReplayTotals) : (a.merge b).merge c = a.merge (b.merge c) := by
  simp [merge, Nat.add_assoc, Tally.merge_assoc]

theorem ofLines_merge (t t' : Tally) (lines : List (List UInt8)) :
    ofLines (t.merge t') lines = (ofLines t' lines).map (merge ⟨0, 0, t⟩) := by
  induction lines with
  | nil => simp [ofLines, Except.map, merge]
  | cons line rest ih =>
    unfold ofLines
    cases Text.Utf8.decode? line with
    | none => rfl
    | some text =>
      simp only [ih]
      cases ofLines t' rest with
      | error e => rfl
      | ok totals =>
        simp only [Except.map, ← merge_assoc]
        cases CaptureLine.of text <;> simp [ofLine, merge, zero, Tally.merge_zero, Tally.zero_merge]

end ReplayTotals

namespace Store

section

variable (s : Store) (focus : Focus) (w : String)

/-- Take in batches, one after another. -/
def takeIn (s : Store) (focus : Focus) (w : String) : List Batch → Store × Tally × Emission
  | [] => (s, .zero, .none)
  | b :: bs =>
    let (s, tally, emission) := s.cacheBatch focus w b.kind b.entities
    let (s, tally', emission') := takeIn s focus w bs
    (s, tally.merge tally', emission ++ emission')

@[simp] theorem takeIn_nil : s.takeIn focus w [] = (s, .zero, .none) := rfl

theorem takeIn_cons (b : Batch) (bs : List Batch) :
    s.takeIn focus w (b :: bs) =
      (((s.cacheBatch focus w b.kind b.entities).1.takeIn focus w bs).1,
        (s.cacheBatch focus w b.kind b.entities).2.1.merge
          ((s.cacheBatch focus w b.kind b.entities).1.takeIn focus w bs).2.1,
        (s.cacheBatch focus w b.kind b.entities).2.2 ++
          ((s.cacheBatch focus w b.kind b.entities).1.takeIn focus w bs).2.2) := rfl

theorem takeIn_append (bs cs : List Batch) :
    s.takeIn focus w (bs ++ cs) =
      (((s.takeIn focus w bs).1.takeIn focus w cs).1,
        (s.takeIn focus w bs).2.1.merge ((s.takeIn focus w bs).1.takeIn focus w cs).2.1,
        (s.takeIn focus w bs).2.2 ++ ((s.takeIn focus w bs).1.takeIn focus w cs).2.2) := by
  induction bs generalizing s with
  | nil => simp [Tally.zero_merge]
  | cons b bs ih =>
    rw [List.cons_append, takeIn_cons, ih, takeIn_cons]
    simp only [Tally.merge_assoc, Emission.append_assoc]

theorem cacheBatch_eq {k : Kind} (batch : List (Entity k)) :
    s.cacheBatch focus w k batch = s.takeIn focus w [⟨k, batch⟩] := by
  simp [takeIn_cons, Tally.merge_zero]

theorem cacheBatches_eq {k : Kind} (batches : List (List (Entity k))) :
    s.cacheBatches focus w k batches = s.takeIn focus w (batches.map (Batch.mk k)) := by
  induction batches generalizing s with
  | nil => rfl
  | cons batch rest ih =>
    rw [List.map_cons, takeIn_cons, ← ih]
    rfl

/-- A response is taken in batch by batch. -/
theorem absorb_eq (response : Json) :
    s.absorb focus w response = s.takeIn focus w (Batch.ofResponse response) := by
  rw [Batch.ofResponse, takeIn_append, ← cacheBatches_eq, ← cacheBatches_eq]
  rfl

theorem absorbText_eq (text : List Char) :
    s.absorbText focus w text = s.takeIn focus w (Batch.ofText text) := by
  unfold absorbText Batch.ofText
  cases Json.parse? text with
  | none => rfl
  | some a => exact s.absorb_eq focus w a

theorem replayLine_eq (text : List Char) :
    s.replayLine focus w text =
      ((s.takeIn focus w (Batch.ofLine (.of text))).1,
        (ReplayTotals.ofLine (.of text)).merge
          ⟨0, 0, (s.takeIn focus w (Batch.ofLine (.of text))).2.1⟩,
        (s.takeIn focus w (Batch.ofLine (.of text))).2.2) := by
  unfold replayLine
  cases CaptureLine.of text with
  | blank | unreadable => rfl
  | response a =>
    simp only [absorb_eq, Batch.ofLine, ReplayTotals.ofLine, ReplayTotals.merge,
      Tally.zero_merge]

/-- The lines of a capture are taken in batch by batch. -/
theorem replayLines_eq (lines : List (List UInt8)) :
    s.replayLines focus w lines =
      ((s.takeIn focus w (Batch.ofLines lines)).1,
        ReplayTotals.ofLines (s.takeIn focus w (Batch.ofLines lines)).2.1 lines,
        (s.takeIn focus w (Batch.ofLines lines)).2.2) := by
  induction lines generalizing s with
  | nil => rfl
  | cons line rest ih =>
    unfold replayLines Batch.ofLines ReplayTotals.ofLines
    cases Text.Utf8.decode? line with
    | none => rfl
    | some text =>
      simp only [ih, replayLine_eq, takeIn_append, ReplayTotals.ofLines_merge]
      refine Prod.ext rfl (Prod.ext ?_ rfl)
      -- the counts of the line come first, whether or not a later line is not text
      cases ReplayTotals.ofLines _ rest with
      | error e => rfl
      | ok totals => simp only [Except.map, ReplayTotals.merge_assoc]

/-- What every batch keeps is kept when batches are taken in. -/
theorem takeIn_induction {P : Store → Prop} {bs : List Batch} (h : P s)
    (hbatch : ∀ t, ∀ b ∈ bs, P t → P (t.cacheBatch focus w b.kind b.entities).1) :
    P (s.takeIn focus w bs).1 := by
  induction bs generalizing s with
  | nil => exact h
  | cons b bs ih =>
    refine ih _ (hbatch s b List.mem_cons_self h) ?_
    intro t b' hb'
    exact hbatch t b' (List.mem_cons_of_mem b hb')

/-! ### Reading -/

variable (k : Kind)

/-- Without a partition there is nothing to read; otherwise the cache of the kind is read. -/
theorem readOne_cases (id : String) :
    s.readOne w k id = (s, none, .none) ∨
      s.readOne w k id =
        (s.withPartition w
            ((s.partition w).withCache k (((s.partition w).cache k).get moment id).1),
          (((s.partition w).cache k).get moment id).2.1,
          .ofDepartures (((s.partition w).cache k).get moment id).2.2) := by
  unfold readOne
  cases hp : s.partition? w with
  | none => exact .inl rfl
  | some p =>
    obtain rfl : s.partition w = p := by rw [partition, hp, Option.getD_some]
    exact .inr rfl

theorem readOne_eq (id : String) :
    s.read w k [id] =
      ((s.readOne w k id).1, [(s.readOne w k id).2.1], (s.readOne w k id).2.2) := by
  simp [read]

theorem read_induction {P : Store → Prop} (h : P s)
    (hcache : ∀ (t : Store) (c : Cache (Entity k)),
      P t → P (t.withPartition w ((t.partition w).withCache k c))) (ids : List String) :
    P (s.read w k ids).1 := by
  induction ids generalizing s with
  | nil => exact h
  | cons id ids ih =>
    refine ih (s.readOne w k id).1 ?_
    rcases s.readOne_cases w k id with hone | hone
    · rw [hone]
      exact h
    · rw [hone]
      exact hcache s _ h

end

/-! ### Operations -/

/-- An operation on a store. -/
inductive Op where
  /-- Take in batches for a workspace. -/
  | write (workspaceId : String) (batches : List Batch)
  /-- Take in the lines of a capture for a workspace. -/
  | replay (workspaceId : String) (lines : List (List UInt8))
  /-- Read entities of a workspace, and answer with them. -/
  | read (workspaceId : String) (kind : Kind) (ids : List String)
      (reply : List (Option (Entity kind)) → Reply)
  /-- Put other vertices on the canvas of a workspace. -/
  | setOnGraph (workspaceId : String) (ids : List String)
  /-- Make a partition for a workspace. -/
  | ensure (workspaceId : String)
  /-- Look at what is held for a workspace. -/
  | look (workspaceId : String) (reply : Option Partition → Reply)
  /-- Count the partitions. -/
  | size
  /-- Look at the settings. -/
  | settings

/-- Carry out an operation: the store after it, the answer, and what is sent. -/
def perform (s : Store) (focus : Focus) : Op → Store × Reply × Emission
  | .write w batches =>
    let (s, tally, emission) := s.takeIn focus w batches
    (s, .tally tally, emission)
  | .replay w lines =>
    let (s, tally, emission) := s.takeIn focus w (Batch.ofLines lines)
    (s, .totals (ReplayTotals.ofLines tally lines), emission)
  | .read w k ids reply =>
    let (s, found, emission) := s.read w k ids
    (s, reply found, emission)
  | .setOnGraph w ids => (s.setOnGraph w ids, .done, .none)
  | .ensure w => (s.ensure w, .number (s.ensure w).size, .none)
  | .look w reply => (s, reply (s.partition? w), .none)
  | .size => (s, .number s.size, .none)
  | .settings => (s, .settings s.settings, .none)

end Store

/-- The operation that a command is; none if it does not concern the store. -/
def Command.op? : Command → Option Store.Op
  | .cache w k batch => some (.write w [⟨k, batch⟩])
  | .absorb w response => some (.write w (Batch.ofResponse response))
  | .absorbText w text => some (.write w (Batch.ofText text))
  | .replay w capture => some (.replay w (Text.lines capture))
  | .readOne w kind id => some <|
    match Kind.ofName kind with
    | .ok k => .read w k [id] fun found => .entity (found.head?.join.map .of)
    | .error e => .look w fun _ => .unknownKind e
  | .read request => some <|
    match Kind.ofName request.kind with
    | .ok k => .read request.workspaceId k request.ids fun found =>
      .entities (found.map (·.map .of))
    | .error e => .look request.workspaceId fun _ => .unknownKind e
  | .setOnGraph w ids => some (.setOnGraph w ids)
  | .onGraph w => some (.look w fun p => .names (p.map Partition.onGraph))
  | .isOnGraph w id => some <| .look w fun p =>
    .truth (((p.map Partition.onGraph).map fun ids => ids.contains id).getD false)
  | .ensure w => some (.ensure w)
  | .size => some .size
  | .partition w => some (.look w .partition)
  | .settings => some .settings
  | .setCurrent _ | .clearCurrent | .current | .isCurrent _ | .watch | .look | .publish _ _
  | .stopListening => none

namespace Desk

variable (d : Desk) {c : Command} {op : Store.Op}

/-- A command of the store does what its operation does. -/
theorem perform_of_op? (h : c.op? = some op) :
    d.perform c = ({ d with store := (d.store.perform d.focus op).1 },
      (d.store.perform d.focus op).2) := by
  cases c with
  | cache w k batch =>
    cases h
    simp only [perform, Store.cacheBatch_eq]
    rfl
  | absorb w response =>
    cases h
    simp only [perform, Store.absorb_eq]
    rfl
  | absorbText w text =>
    cases h
    simp only [perform, Store.absorbText_eq]
    rfl
  | replay w capture =>
    cases h
    simp only [perform, Store.replay, Store.replayLines_eq]
    rfl
  | readOne w kind id =>
    simp only [Command.op?, Option.some.injEq] at h
    subst h
    cases hk : Kind.ofName kind with
    | error e => simp only [perform, hk, Store.perform]
    | ok k =>
      simp only [perform, hk, Store.perform, Store.readOne_eq]
      rfl
  | read request =>
    simp only [Command.op?, Option.some.injEq] at h
    subst h
    cases hk : Kind.ofName request.kind with
    | error e => simp only [perform, hk, Store.serve, Store.perform, after]
    | ok k => simp only [perform, hk, Store.serve, Store.perform, after]
  | setOnGraph | onGraph | isOnGraph | ensure | size | partition | settings =>
    cases h
    rfl
  | setCurrent | clearCurrent | current | isCurrent | watch | look | publish | stopListening =>
    cases h

theorem perform_of_op?_eq_none (h : c.op? = none) :
    (d.perform c).1.store = d.store ∧ (d.perform c).2.2.departures = [] := by
  cases c with
  | setCurrent | clearCurrent | current | isCurrent | watch | look | publish | stopListening =>
    exact ⟨rfl, rfl⟩
  | _ => cases h

end Desk

end GraphStore
