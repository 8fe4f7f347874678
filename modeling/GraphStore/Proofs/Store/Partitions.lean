import GraphStore.Proofs.Store.Reading
import GraphStore.Proofs.Store.Replay

/-!
# Where partitions come from

A workspace has a partition from the first command on that writes to it, and no other command gives
it one.  So the partitions of a store and their number can be told from the commands that made it,
and a canvas from the last of them that put vertices there.

* `Command.writes` : the command writes to its workspace.  A batch is written even when it is empty,
  a response only when an entity is found in it.  One command gives its workspace a partition if it
  writes to it, and takes none away (`Desk.isSome_partition?_perform`).
* `PlacedLast` : the vertices that commands put on a canvas last.
* `Store.MadeBy` : the commands that made a store out of an empty one.
* `Store.MadeBy.partitions_from_writes` : which workspaces have a partition, how many they are, and
  which vertices are on the canvas of each.
-/

namespace GraphStore

/-! ### Commands that write -/

namespace Command

/-- The responses that a command brings. -/
def responses : Command → List Json
  | absorb _ response => [response]
  | absorbText _ text => (Json.parse? text).toList
  | replay _ capture => (Text.textsOf (Text.lines capture)).filterMap Json.parse?
  | _ => []

/-- The command writes to its workspace: it brings a batch, even an empty one, or a response in
which an entity is found, it puts vertices on the canvas, or it makes a partition. -/
def writes : Command → Bool
  | cache _ _ _ | setOnGraph _ _ | ensure _ => true
  | c => c.responses.any fun response => !(Findings.of response).isEmpty

end Command

/-- The operation writes to its workspace. -/
def Store.Op.writes : Store.Op → Bool
  | .write _ batches => !batches.isEmpty
  | .replay _ lines => !(Batch.ofLines lines).isEmpty
  | .setOnGraph _ _ | .ensure _ => true
  | .read _ _ _ _ | .look _ _ | .size | .settings => false

namespace Batch

theorem isEmpty_ofResponse (response : Json) :
    (ofResponse response).isEmpty = (Findings.of response).isEmpty := by
  rw [Bool.eq_iff_iff, List.isEmpty_iff]
  simp [ofResponse, Findings.batches, Findings.isEmpty, and_assoc]

theorem isEmpty_flatMap_ofResponse (responses : List Json) :
    (!(responses.flatMap ofResponse).isEmpty) =
      responses.any fun response => !(Findings.of response).isEmpty := by
  induction responses with
  | nil => rfl
  | cons response rest ih =>
    rw [List.flatMap_cons, List.any_cons, ← ih, ← isEmpty_ofResponse]
    cases ofResponse response <;> rfl

theorem ofText_eq (text : List Char) :
    ofText text = (Json.parse? text).toList.flatMap ofResponse := by
  unfold ofText
  cases Json.parse? text <;> simp

end Batch

namespace Command

variable {c : Command}

theorem writes_of_op? {op : Store.Op} (h : c.op? = some op) : op.writes = c.writes := by
  cases c with
  | absorb w response =>
    cases h
    rw [Store.Op.writes, Batch.isEmpty_ofResponse]
    exact (Bool.or_false _).symm
  | absorbText w text =>
    cases h
    rw [Store.Op.writes, Batch.ofText_eq, Batch.isEmpty_flatMap_ofResponse]
    rfl
  | replay w capture =>
    cases h
    rw [Store.Op.writes, Batch.ofLines_eq, Batch.isEmpty_flatMap_ofResponse]
    rfl
  | readOne w kind id =>
    simp only [op?, Option.some.injEq] at h
    subst h
    cases Kind.ofName kind <;> rfl
  | read request =>
    simp only [op?, Option.some.injEq] at h
    subst h
    cases Kind.ofName request.kind <;> rfl
  | setCurrent | clearCurrent | current | isCurrent | watch | look | publish | stopListening =>
    cases h
  | _ =>
    cases h
    rfl

theorem writes_of_op?_eq_none (h : c.op? = none) : c.writes = false := by
  cases c with
  | setCurrent | clearCurrent | current | isCurrent | watch | look | publish | stopListening => rfl
  | _ => cases h

theorem isSetOnGraph_iff : c.isSetOnGraph ↔ ∃ w ids, c = .setOnGraph w ids := by
  cases c with
  | readOne w kind id =>
    cases hk : Kind.ofName kind <;> simp [isSetOnGraph, op?, hk, Store.Op.isSetOnGraph]
  | read request =>
    cases hk : Kind.ofName request.kind <;> simp [isSetOnGraph, op?, hk, Store.Op.isSetOnGraph]
  | _ => simp [isSetOnGraph, op?, Store.Op.isSetOnGraph]

end Command

/-! ### One command -/

variable {settings : StoreSettings}

namespace Store

variable {s : Store} {w : String}

theorem partition?_perform_of_ne (focus : Focus) {op : Op} (h : op.workspace? ≠ some w) :
    (s.perform focus op).1.partition? w = s.partition? w := by
  cases hop : op.workspace? with
  | some w' =>
    have hne : w ≠ w' := by
      rintro rfl
      exact h hop
    exact (s.agreeOn_perform_of_ne focus hne hop).partition?
  | none =>
    cases op with
    | size | settings => rfl
    | _ => cases hop

/-- An operation gives a workspace a partition if it writes to it, and takes none away. -/
theorem Settled.isSome_partition?_perform (h : s.Settled settings) (focus : Focus) (op : Op) :
    ((s.perform focus op).1.partition? w).isSome ↔
      (s.partition? w).isSome ∨ op.workspace? = some w ∧ op.writes := by
  by_cases hop : op.workspace? = some w
  · cases op with
    | write v bs =>
      cases hop
      simp [Store.perform, isSome_partition?_takeIn, Op.workspace?, Op.writes]
    | replay v lines =>
      cases hop
      simp [Store.perform, isSome_partition?_takeIn, Op.workspace?, Op.writes]
    | read v k ids reply =>
      cases hop
      simp [Store.perform, h.isSome_partition?_read, Op.writes]
    | setOnGraph v ids =>
      cases hop
      simp [Store.perform, setOnGraph, partition?_withPartition, Op.workspace?, Op.writes]
    | ensure v =>
      cases hop
      simp [Store.perform, ensure, partition?_withPartition, Op.workspace?, Op.writes]
    | look v reply => simp [Store.perform, Op.writes]
    | size | settings => cases hop
  · simp [partition?_perform_of_ne focus hop, hop]

end Store

namespace Desk

variable {d : Desk}

/-- A command gives a workspace a partition if it writes to it, and takes none away. -/
theorem isSome_partition?_perform (h : d.store.Settled settings) (c : Command) (w : String) :
    ((d.perform c).1.store.partition? w).isSome ↔
      (d.store.partition? w).isSome ∨ c.workspace? = some w ∧ c.writes := by
  cases hop : c.op? with
  | some op =>
    rw [d.perform_of_op? hop, ← Command.workspace?_of_op? hop, ← Command.writes_of_op? hop]
    exact h.isSome_partition?_perform d.focus op
  | none => simp [(d.perform_of_op?_eq_none hop).1, Command.writes_of_op?_eq_none hop]

theorem isOnGraph_perform_of_ne (d : Desk) {c : Command} {w : String}
    (h : ∀ ids, c ≠ .setOnGraph w ids) (v : String) :
    (d.perform c).1.store.isOnGraph w v = d.store.isOnGraph w v := by
  rw [Store.isOnGraph_eq, Store.isOnGraph_eq]
  cases hset : c.isSetOnGraph with
  | false => rw [d.onGraph_perform hset]
  | true =>
    obtain ⟨w', ids, rfl⟩ := Command.isSetOnGraph_iff.1 hset
    have hne : w' ≠ w := by
      rintro rfl
      exact h ids rfl
    simp only [perform]
    rw [Store.onGraph_setOnGraph, if_neg hne]

theorem isOnGraph_perform_setOnGraph (d : Desk) (w : String) (ids : List String) (v : String) :
    (d.perform (.setOnGraph w ids)).1.store.isOnGraph w v = ids.contains v := by
  simp only [perform]
  rw [Store.isOnGraph_eq, Store.onGraph_setOnGraph, if_pos rfl, NameSet.contains_ofNames]

end Desk

/-! ### The last vertices put on a canvas -/

/-- The vertices with these ids were put on the canvas of a workspace, and none were put there by a
later command. -/
def PlacedLast (w : String) (cs : List Command) (ids : List String) : Prop :=
  ∃ before after, cs = before ++ .setOnGraph w ids :: after ∧ ∀ ids', .setOnGraph w ids' ∉ after

section

variable {w : String} {cs : List Command} {c : Command} {ids : List String}

theorem not_placedLast_nil : ¬ PlacedLast w [] ids := by
  rintro ⟨before, after, hcs, -⟩
  simp at hcs

/-- The last command puts vertices on the canvas, or what commands before it put there stays. -/
theorem placedLast_snoc_iff : PlacedLast w (cs ++ [c]) ids ↔
    c = .setOnGraph w ids ∨ (∀ ids', c ≠ .setOnGraph w ids') ∧ PlacedLast w cs ids := by
  constructor
  · rintro ⟨before, after, hcs, hafter⟩
    obtain rfl | ⟨after, last, rfl⟩ := List.eq_nil_or_concat' after
    · exact .inl (List.singleton_inj.1 (List.append_inj' hcs rfl).2)
    · have hsplit : cs ++ [c] = (before ++ .setOnGraph w ids :: after) ++ [last] := by
        simpa using hcs
      obtain ⟨rfl, hlast⟩ := List.append_inj' hsplit rfl
      obtain rfl := List.singleton_inj.1 hlast
      -- the last command is one of those that came after
      refine .inr ⟨fun ids' heq => hafter ids' (by simp [heq]), before, after, rfl, ?_⟩
      intro ids' hmem
      exact hafter ids' (List.mem_append_left _ hmem)
  · rintro (rfl | ⟨hne, before, after, rfl, hafter⟩)
    · exact ⟨cs, [], rfl, fun _ => List.not_mem_nil⟩
    · refine ⟨before, after ++ [c], by simp, ?_⟩
      intro ids' hmem
      rcases List.mem_append.1 hmem with hmem | hmem
      · exact hafter ids' hmem
      · exact hne ids' (List.mem_singleton.1 hmem).symm

end

/-! ### All commands -/

namespace Store

variable {s : Store}

/-- A store with these settings that these commands made, in this order, out of an empty one, at
desks that may show any workspace, while an observer may come at any time. -/
inductive MadeBy (settings : StoreSettings) : List Command → Store → Prop
  /-- An empty store. -/
  | new (observed : Bool) : MadeBy settings [] (.new settings observed)
  /-- An observer comes. -/
  | observe {cs : List Command} {s : Store} (h : MadeBy settings cs s) :
    MadeBy settings cs s.observe
  /-- A command is carried out. -/
  | perform {cs : List Command} {d : Desk} (h : MadeBy settings cs d.store) (c : Command) :
    MadeBy settings (cs ++ [c]) (d.perform c).1.store

theorem MadeBy.reachable {cs : List Command} (h : MadeBy settings cs s) : Reachable settings s := by
  induction h with
  | new observed => exact .new observed
  | observe _ ih => exact ih.observe
  | perform _ c ih => exact ih.perform c

namespace MadeBy

variable {cs : List Command}

theorem run {d : Desk} (h : MadeBy settings cs d.store) (more : List Command) :
    MadeBy settings (cs ++ more) (d.reached more).store := by
  induction more generalizing cs d with
  | nil => simpa using h
  | cons c more ih =>
    have hrest := ih (h.perform c)
    rwa [List.append_assoc] at hrest

/-- A workspace has a partition when a command has written to it. -/
theorem isSome_partition?_iff (h : MadeBy settings cs s) (w : String) :
    (s.partition? w).isSome ↔ ∃ c ∈ cs, c.workspace? = some w ∧ c.writes := by
  induction h with
  | new observed => simp [partition?, Store.new]
  | observe _ ih => exact ih
  | perform h c ih =>
    rw [Desk.isSome_partition?_perform h.reachable.settled, ih]
    simp [or_and_right, exists_or]

theorem isOnGraph_iff (h : MadeBy settings cs s) (w v : String) :
    s.isOnGraph w v ↔ ∃ ids, PlacedLast w cs ids ∧ v ∈ ids := by
  induction h with
  | new observed => simp [not_placedLast_nil, isOnGraph, onGraph?, partition?, Store.new]
  | observe _ ih => exact ih
  | @perform cs d _ c ih =>
    by_cases hc : ∃ ids, c = .setOnGraph w ids
    · obtain ⟨ids, rfl⟩ := hc
      simp [d.isOnGraph_perform_setOnGraph, placedLast_snoc_iff]
    · have hne : ∀ ids, c ≠ .setOnGraph w ids := not_exists.1 hc
      simp [d.isOnGraph_perform_of_ne hne, placedLast_snoc_iff, hne, ih]

/-- **Partitions come from writes.**  Whatever commands made a store, a workspace has a partition
exactly when one of them wrote to it: with a batch, even an empty one, with a response in which an
entity is found, with vertices for the canvas, or by asking for a partition.  There are as many
partitions as workspaces that were written to, and further commands never make them fewer.  And a
vertex is on the canvas of a workspace exactly when it is among the ones that were put there by the
latest command to put any there. -/
theorem partitions_from_writes (h : MadeBy settings cs s) :
    (∀ w, (s.partition? w).isSome ↔ ∃ c ∈ cs, c.workspace? = some w ∧ c.writes) ∧
      s.size = ((cs.filter Command.writes).filterMap Command.workspace?).dedup.length ∧
      (∀ d : Desk, d.store = s → ∀ more, s.size ≤ (d.reached more).store.size) ∧
      ∀ w v, s.isOnGraph w v ↔ ∃ ids, PlacedLast w cs ids ∧ v ∈ ids := by
  refine ⟨h.isSome_partition?_iff, ?_, ?_, h.isOnGraph_iff⟩
  · refine SortedMap.size_eq_length (List.nodup_dedup _) fun w => ?_
    rw [← partition?, h.isSome_partition?_iff]
    simp only [List.mem_dedup, List.mem_filterMap, List.mem_filter]
    grind
  · rintro d rfl more
    refine SortedMap.size_le_size fun w hw => ?_
    rw [← partition?, (h.run more).isSome_partition?_iff]
    obtain ⟨c, hc, hwrites⟩ := (h.isSome_partition?_iff w).1 hw
    exact ⟨c, List.mem_append_left more hc, hwrites⟩

/-- A response with a list of vertices that begins with something else, so that none is found. -/
def misled : Json :=
  .obj [("vertices", .arr [.null, (Entity.vertex "v1" .published).write])]

/-- A response with an edge in it. -/
def connected : Json :=
  .obj [("edges", .arr [(Entity.edge "e1" "knows" "v1" "v2").write])]

/-- Commands that read without success, bring a response without and one with an entity, an empty
batch, and vertices for a canvas, twice. -/
def scattered : List Command :=
  [.readOne "w1" "vertex" "v1", .read ⟨"w1", "node", ["v1"]⟩, .absorb "w1" misled,
    .setOnGraph "w2" ["v1"], .absorb "w3" connected, .cache "w4" .edge [],
    .setOnGraph "w2" ["v2"], .isOnGraph "w2" "v1"]

/-- The theorem applies to commands of which some write and others do not. -/
theorem partitions_from_writes_scattered :
    let d := (Desk.new ⟨2, ["score"]⟩ true).reached scattered
    MadeBy ⟨2, ["score"]⟩ scattered d.store ∧
      d.store.partition? "w1" = none ∧ (d.store.partition? "w3").isSome ∧
      (d.store.partition? "w4").isSome ∧ d.store.size = 3 ∧
      d.store.size ≤ (d.reached [.ensure "w1", .ensure "w2"]).store.size ∧
      d.store.isOnGraph "w2" "v1" = false ∧ d.store.isOnGraph "w2" "v2" := by
  intro d
  have hmade : MadeBy ⟨2, ["score"]⟩ scattered d.store :=
    run (d := Desk.new ⟨2, ["score"]⟩ true) (.new true) scattered
  obtain ⟨hpartition, hsize, hgrows, hcanvas⟩ := partitions_from_writes hmade
  have hlast : PlacedLast "w2" scattered ["v2"] :=
    ⟨scattered.take 6, [.isOnGraph "w2" "v1"], rfl, by simp⟩
  refine ⟨hmade, ?_, (hpartition "w3").2 (by decide +kernel),
    (hpartition "w4").2 (by decide +kernel), hsize.trans (by decide +kernel), hgrows d rfl _,
    by decide +kernel, (hcanvas "w2" "v2").2 ⟨["v2"], hlast, by simp⟩⟩
  exact Option.not_isSome_iff_eq_none.1 (mt (hpartition "w1").1 (by decide +kernel))

end MadeBy

end Store

end GraphStore
