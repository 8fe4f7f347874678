import GraphStore.Proofs.Store.Canvas
import GraphStore.Proofs.Store.TwoRuns

/-!
# Workspaces and kinds stand apart

Nothing that is done for other workspaces shows in what is done for a workspace: leave out of a
run every command for another workspace, and all other commands answer and show the same, and the
same is held for the workspace in the end (`Desk.workspaces_apart`).  Within a workspace, a command
that does not deal with a kind leaves its cache as it is, and only a command that puts vertices on
the canvas changes the canvas.

* `Store.AgreeOn` : two stores hold the same for one workspace.  An operation for the workspace
  does the same to both of them (`Store.AgreeOn.perform`), and an operation for another workspace
  leaves each of them as it is, as far as the workspace is concerned
  (`Store.agreeOn_perform_of_ne`).
* `Command.dealsWith` : the kinds that a command deals with.
-/

namespace GraphStore

/-! ### What a command is about -/

/-- The workspace that an operation is about; none if it is about all of them. -/
def Store.Op.workspace? : Store.Op → Option String
  | .write w _ | .replay w _ | .read w _ _ _ | .setOnGraph w _ | .ensure w | .look w _ => some w
  | .size | .settings => none

/-- The operation takes in or reads entities of a kind. -/
def Store.Op.dealsWith (k : Kind) : Store.Op → Bool
  | .write _ batches => batches.any fun b => b.kind == k
  | .replay _ lines => (Batch.ofLines lines).any fun b => b.kind == k
  | .read _ l _ _ => l == k
  | .setOnGraph _ _ | .ensure _ | .look _ _ | .size | .settings => false

/-- The operation puts other vertices on a canvas. -/
def Store.Op.isSetOnGraph : Store.Op → Bool
  | .setOnGraph _ _ => true
  | _ => false

namespace Command

/-- The workspace that a command is about.  What is put on display, the settings and the number of
partitions are not matters of one workspace. -/
def workspace? : Command → Option String
  | cache w _ _ | absorb w _ | absorbText w _ | replay w _ | readOne w _ _ | setOnGraph w _
  | onGraph w | isOnGraph w _ | ensure w | partition w | publish w _ => some w
  | read request => some request.workspaceId
  | setCurrent _ | clearCurrent | current | isCurrent _ | watch | look | size | settings
  | stopListening => none

/-- The command is not about a workspace other than `w`. -/
def isFor (w : String) (c : Command) : Bool := c.workspace?.all fun w' => w' == w

/-- The command takes in or reads entities of a kind. -/
def dealsWith (k : Kind) (c : Command) : Bool := c.op?.any (Store.Op.dealsWith k)

/-- The command puts other vertices on a canvas. -/
def isSetOnGraph (c : Command) : Bool := c.op?.any Store.Op.isSetOnGraph

theorem workspace?_of_op? {c : Command} {op : Store.Op} (h : c.op? = some op) :
    op.workspace? = c.workspace? := by
  cases c with
  | readOne w kind id =>
    simp only [op?, Option.some.injEq] at h
    subst h
    cases Kind.ofName kind <;> rfl
  | read request =>
    simp only [op?, Option.some.injEq] at h
    subst h
    cases Kind.ofName request.kind <;> rfl
  | setCurrent | clearCurrent | current | isCurrent | watch | look | publish | stopListening =>
    cases h
  | _ =>
    cases h
    rfl

end Command

/-- The answer, without the number of partitions. -/
def Reply.uncounted : Reply → Reply
  | .number _ => .done
  | reply => reply

namespace Store

/-! ### Other workspaces -/

/-- The stores hold the same for a workspace, and take in entities by the same rules. -/
structure AgreeOn (w : String) (s t : Store) : Prop where
  /-- The settings are the same. -/
  settings : s.settings = t.settings
  /-- Departures are observed in both stores or in none. -/
  observed : s.observed = t.observed
  /-- The same is held for the workspace, or nothing. -/
  partition? : s.partition? w = t.partition? w

theorem partition?_withPartition (s : Store) (w w' : String) (p : Partition) :
    (s.withPartition w' p).partition? w = if w = w' then some p else s.partition? w := by
  rw [partition?, withPartition, SortedMap.get?_insert]
  rfl

namespace AgreeOn

variable {w : String} {s t u : Store}

@[refl] theorem refl (w : String) (s : Store) : AgreeOn w s s := ⟨rfl, rfl, rfl⟩

theorem symm (h : AgreeOn w s t) : AgreeOn w t s :=
  ⟨h.settings.symm, h.observed.symm, h.partition?.symm⟩

theorem trans (h : AgreeOn w s t) (h' : AgreeOn w t u) : AgreeOn w s u :=
  ⟨h.settings.trans h'.settings, h.observed.trans h'.observed, h.partition?.trans h'.partition?⟩

theorem partition (h : AgreeOn w s t) : s.partition w = t.partition w := by
  simp only [Store.partition, h.partition?, h.settings]

theorem policy (h : AgreeOn w s t) : s.policy = t.policy := by
  simp only [Store.policy, h.observed]

theorem withPartition (h : AgreeOn w s t) (p : Partition) :
    AgreeOn w (s.withPartition w p) (t.withPartition w p) := by
  refine ⟨h.settings, h.observed, ?_⟩
  rw [partition?_withPartition, partition?_withPartition, if_pos rfl, if_pos rfl]

variable (focus : Focus)

theorem takeIn (h : AgreeOn w s t) (bs : List Batch) :
    AgreeOn w (s.takeIn focus w bs).1 (t.takeIn focus w bs).1 ∧
      (s.takeIn focus w bs).2 = (t.takeIn focus w bs).2 := by
  induction bs generalizing s t with
  | nil => exact ⟨h, rfl⟩
  | cons b bs ih =>
    have hbatch : AgreeOn w (s.cacheBatch focus w b.kind b.entities).1
          (t.cacheBatch focus w b.kind b.entities).1 ∧
        (s.cacheBatch focus w b.kind b.entities).2 =
          (t.cacheBatch focus w b.kind b.entities).2 := by
      simp only [Store.cacheBatch, h.settings, h.policy, h.partition, and_true]
      exact h.withPartition _
    obtain ⟨hstore, hshown⟩ := hbatch
    obtain ⟨hstore', hshown'⟩ := ih hstore
    refine ⟨hstore', ?_⟩
    simp only [takeIn_cons, hshown, hshown']

theorem read (h : AgreeOn w s t) {k : Kind} (ids : List String) :
    AgreeOn w (s.read w k ids).1 (t.read w k ids).1 ∧
      (s.read w k ids).2 = (t.read w k ids).2 := by
  induction ids generalizing s t with
  | nil => exact ⟨h, rfl⟩
  | cons id rest ih =>
    have hone : AgreeOn w (s.readOne w k id).1 (t.readOne w k id).1 ∧
        (s.readOne w k id).2 = (t.readOne w k id).2 := by
      simp only [readOne, h.partition?]
      cases t.partition? w with
      | none => exact ⟨h, rfl⟩
      | some p => exact ⟨h.withPartition _, rfl⟩
    obtain ⟨hstore, hshown⟩ := hone
    obtain ⟨hstore', hshown'⟩ := ih hstore
    refine ⟨hstore', ?_⟩
    simp only [Store.read, hshown, hshown']

/-- An operation that is not about another workspace does the same to both stores, apart from the
number of partitions. -/
theorem perform (h : AgreeOn w s t) {op : Op} (hop : ∀ w', op.workspace? = some w' → w' = w) :
    AgreeOn w (s.perform focus op).1 (t.perform focus op).1 ∧
      (s.perform focus op).2.1.uncounted = (t.perform focus op).2.1.uncounted ∧
      (s.perform focus op).2.2 = (t.perform focus op).2.2 := by
  cases op with
  | write w' bs =>
    obtain rfl := hop w' rfl
    obtain ⟨hstore, hshown⟩ := h.takeIn focus bs
    simp only [Store.perform, hshown, and_true]
    exact hstore
  | replay w' lines =>
    obtain rfl := hop w' rfl
    obtain ⟨hstore, hshown⟩ := h.takeIn focus (Batch.ofLines lines)
    simp only [Store.perform, hshown, and_true]
    exact hstore
  | read w' k ids reply =>
    obtain rfl := hop w' rfl
    obtain ⟨hstore, hshown⟩ := h.read (k := k) ids
    simp only [Store.perform, hshown, and_true]
    exact hstore
  | setOnGraph w' ids =>
    obtain rfl := hop w' rfl
    simp only [Store.perform, setOnGraph, h.partition, and_true]
    exact h.withPartition _
  | ensure w' =>
    obtain rfl := hop w' rfl
    simp only [Store.perform, ensure, h.partition, Reply.uncounted, and_true]
    exact h.withPartition _
  | look w' reply =>
    obtain rfl := hop w' rfl
    simp only [Store.perform, h.partition?, and_true]
    exact h
  -- the answers may differ, but a number of partitions is left out of them
  | size => exact ⟨h, rfl, rfl⟩
  | settings =>
    simp only [Store.perform, h.settings, and_true]
    exact h

end AgreeOn

variable (s : Store) (focus : Focus) {w w' : String}

theorem agreeOn_withPartition (h : w ≠ w') (p : Partition) :
    AgreeOn w (s.withPartition w' p) s := by
  refine ⟨rfl, rfl, ?_⟩
  rw [partition?_withPartition, if_neg h]

theorem agreeOn_takeIn (h : w ≠ w') (bs : List Batch) :
    AgreeOn w (s.takeIn focus w' bs).1 s := by
  refine s.takeIn_induction focus w' (P := fun t => AgreeOn w t s) (.refl w s) fun t b _ ht => ?_
  exact (t.agreeOn_withPartition h _).trans ht

theorem agreeOn_read (h : w ≠ w') (k : Kind) (ids : List String) :
    AgreeOn w (s.read w' k ids).1 s := by
  refine s.read_induction w' k (P := fun t => AgreeOn w t s) (.refl w s) (fun t c ht => ?_) ids
  exact (t.agreeOn_withPartition h _).trans ht

/-- An operation for another workspace leaves a store as it is, as far as the workspace is
concerned. -/
theorem agreeOn_perform_of_ne (h : w ≠ w') {op : Op} (hop : op.workspace? = some w') :
    AgreeOn w (s.perform focus op).1 s := by
  cases op with
  | write v bs =>
    cases hop
    exact s.agreeOn_takeIn focus h bs
  | replay v lines =>
    cases hop
    exact s.agreeOn_takeIn focus h _
  | read v k ids reply =>
    cases hop
    exact s.agreeOn_read h k ids
  | setOnGraph v ids =>
    cases hop
    exact s.agreeOn_withPartition h _
  | ensure v =>
    cases hop
    exact s.agreeOn_withPartition h _
  | look => exact .refl w s
  | size | settings => cases hop

/-! ### Other kinds -/

variable {k l : Kind}

theorem cache_takeIn_of_ne {bs : List Batch} (h : ∀ b ∈ bs, b.kind ≠ k) :
    ((s.takeIn focus w' bs).1.partition w).cache k = (s.partition w).cache k := by
  refine s.takeIn_induction focus w'
    (P := fun t => (t.partition w).cache k = (s.partition w).cache k) rfl fun t b hb ht => ?_
  exact (t.cache_withCache w w' k _ (.inr (h b hb).symm)).trans ht

theorem cache_read_of_ne (h : l ≠ k) (ids : List String) :
    ((s.read w' l ids).1.partition w).cache k = (s.partition w).cache k := by
  refine s.read_induction w' l
    (P := fun t => (t.partition w).cache k = (s.partition w).cache k) rfl (fun t c ht => ?_) ids
  exact (t.cache_withCache w w' k c (.inr h.symm)).trans ht

theorem cache_setOnGraph (ids : List String) :
    ((s.setOnGraph w' ids).partition w).cache k = (s.partition w).cache k :=
  ((SameCaches.refl s).setOnGraph w' ids).cache w k

theorem partition_ensure : (s.ensure w').partition w = s.partition w := by
  rw [ensure, partition_withPartition]
  by_cases h : w = w'
  · rw [if_pos h, h]
  · rw [if_neg h]

theorem cache_perform {op : Op} (h : op.dealsWith k = false) :
    ((s.perform focus op).1.partition w).cache k = (s.partition w).cache k := by
  -- none of the batches is of the kind
  have hbatches {bs : List Batch} (hbs : (bs.any fun b => b.kind == k) = false) :
      ∀ b ∈ bs, b.kind ≠ k := by
    intro b hb
    simpa using List.any_eq_false.1 hbs b hb
  cases op with
  | write v bs => exact s.cache_takeIn_of_ne focus (hbatches h)
  | replay v lines => exact s.cache_takeIn_of_ne focus (hbatches h)
  | read v l ids reply => exact s.cache_read_of_ne (by simpa [Op.dealsWith] using h) ids
  | setOnGraph v ids => exact s.cache_setOnGraph ids
  | ensure v => exact congrArg (·.cache k) s.partition_ensure
  | look | size | settings => rfl

/-! ### The canvas -/

theorem onGraph_read (ids : List String) :
    ((s.read w' k ids).1.partition w).onGraph = (s.partition w).onGraph := by
  refine s.read_induction w' k
    (P := fun t => (t.partition w).onGraph = (s.partition w).onGraph) rfl (fun t c ht => ?_) ids
  exact (t.onGraph_withCache w' w c).trans ht

/-- An operation leaves every canvas as it is, unless it puts vertices on it. -/
theorem onGraph_perform {op : Op} (h : op.isSetOnGraph = false) :
    ((s.perform focus op).1.partition w).onGraph = (s.partition w).onGraph := by
  cases op with
  | write v bs => exact s.onGraph_takeIn focus bs
  | replay v lines => exact s.onGraph_takeIn focus _
  | read v l ids reply => exact s.onGraph_read ids
  | setOnGraph => cases h
  | ensure v => exact congrArg Partition.onGraph s.partition_ensure
  | look | size | settings => rfl

end Store

/-! ### Commands -/

namespace Desk

/-- What a command answers and shows, without the number of partitions. -/
def uncounted (shown : Reply × Emission) : Reply × Emission := (shown.1.uncounted, shown.2)

/-- The desks hold the same for a workspace, and have the same on display. -/
structure AgreeOn (w : String) (d e : Desk) : Prop where
  /-- The stores hold the same for the workspace. -/
  store : Store.AgreeOn w d.store e.store
  /-- The same is on display. -/
  focus : d.focus = e.focus
  /-- The watchers have seen the same. -/
  seen : d.seen = e.seen

theorem AgreeOn.symm {w : String} {d e : Desk} (h : AgreeOn w d e) : AgreeOn w e d :=
  ⟨h.store.symm, h.focus.symm, h.seen.symm⟩

/-- A command for another workspace leaves a desk as it is, as far as the workspace is
concerned. -/
theorem AgreeOn.perform_left {w : String} {d e : Desk} (h : AgreeOn w d e) {c : Command}
    (hc : c.isFor w = false) : AgreeOn w (d.perform c).1 e := by
  obtain ⟨w', hw', hne⟩ : ∃ w', c.workspace? = some w' ∧ w ≠ w' := by
    cases hw' : c.workspace? with
    | none => simp [Command.isFor, hw'] at hc
    | some w' =>
      refine ⟨w', rfl, ?_⟩
      rintro rfl
      simp [Command.isFor, hw'] at hc
  cases hop : c.op? with
  | some op =>
    have hop' : op.workspace? = some w' := (Command.workspace?_of_op? hop).trans hw'
    rw [d.perform_of_op? hop]
    exact ⟨(d.store.agreeOn_perform_of_ne d.focus hne hop').trans h.store, h.focus, h.seen⟩
  | none =>
    cases c with
    | publish => exact h
    | setCurrent | clearCurrent | current | isCurrent | watch | look | stopListening => cases hw'
    -- all the others are operations of the store
    | _ => cases hop

/-- A command that is not for another workspace does the same to both desks. -/
theorem AgreeOn.perform {w : String} {d e : Desk} (h : AgreeOn w d e) {c : Command}
    (hc : c.isFor w = true) :
    AgreeOn w (d.perform c).1 (e.perform c).1 ∧
      uncounted (d.perform c).2 = uncounted (e.perform c).2 := by
  cases hop : c.op? with
  | some op =>
    have hop' : ∀ w', op.workspace? = some w' → w' = w := by
      intro w' hw'
      rw [Command.workspace?_of_op? hop] at hw'
      simpa [Command.isFor, hw'] using hc
    obtain ⟨hstore, hreply, hemission⟩ := h.store.perform e.focus hop'
    rw [d.perform_of_op? hop, e.perform_of_op? hop, h.focus]
    exact ⟨⟨hstore, rfl, h.seen⟩, Prod.ext hreply hemission⟩
  | none =>
    obtain ⟨hstore, hfocus, hseen⟩ := h
    cases c with
    | setCurrent | clearCurrent =>
      exact ⟨⟨hstore, by simp only [Desk.perform, hfocus], hseen⟩, rfl⟩
    | current | isCurrent | publish =>
      exact ⟨⟨hstore, hfocus, hseen⟩, by simp only [Desk.perform, hfocus]⟩
    | watch => exact ⟨⟨hstore, hfocus, by simp only [Desk.perform, hfocus]⟩, rfl⟩
    | look =>
      refine ⟨⟨hstore, hfocus, ?_⟩, ?_⟩
      · simp only [Desk.perform, hfocus, hseen]
      · simp only [Desk.perform, hfocus, hseen]
    | stopListening => exact ⟨⟨hstore, hfocus, hseen⟩, rfl⟩
    | _ => cases hop

theorem unwinding_isolation (w : String) :
    Unwinding (Command.isFor w) (AgreeOn w) (fun a b => uncounted a = uncounted b) where
  left := fun h hc => h.perform_left hc
  right := fun h hc => (h.symm.perform_left hc).symm
  both := fun h hc => h.perform hc

/-- A command leaves the caches of a kind as they are that it does not deal with. -/
theorem cache_perform (d : Desk) {c : Command} {k : Kind} (h : c.dealsWith k = false)
    (w : String) :
    ((d.perform c).1.store.partition w).cache k = (d.store.partition w).cache k := by
  cases hop : c.op? with
  | none => rw [(d.perform_of_op?_eq_none hop).1]
  | some op =>
    rw [d.perform_of_op? hop]
    exact d.store.cache_perform d.focus (by simpa [Command.dealsWith, hop] using h)

theorem onGraph_perform (d : Desk) {c : Command}
    (h : c.isSetOnGraph = false) (w : String) :
    ((d.perform c).1.store.partition w).onGraph = (d.store.partition w).onGraph := by
  cases hop : c.op? with
  | none => rw [(d.perform_of_op?_eq_none hop).1]
  | some op =>
    rw [d.perform_of_op? hop]
    exact d.store.onGraph_perform d.focus (by simpa [Command.isSetOnGraph, hop] using h)

/-- **Workspaces and kinds stand apart.**  Leave out of a run every command for another workspace
than `w`: the remaining commands answer and show the same, but for the number of partitions, and
in the end the same is held for `w`, its caches and its canvas.  And no command changes the cache
of a kind that it does not deal with, or a canvas unless it puts vertices on it. -/
theorem workspaces_apart (d : Desk) (cs : List Command) (w : String) :
    ((d.reached (cs.filter (Command.isFor w))).store.partition? w =
        (d.reached cs).store.partition? w ∧
      (d.run (cs.filter (Command.isFor w))).2.map uncounted =
        (d.outcomes (Command.isFor w) cs).map uncounted) ∧
    (∀ (e : Desk) (c : Command) (k : Kind), c.dealsWith k = false →
      ((e.perform c).1.store.partition w).cache k = (e.store.partition w).cache k) ∧
    ∀ (e : Desk) (c : Command), c.isSetOnGraph = false →
      ((e.perform c).1.store.partition w).onGraph = (e.store.partition w).onGraph := by
  refine ⟨?_, fun e c k hc => e.cache_perform hc w,
    fun e c hc => e.onGraph_perform hc w⟩
  have hstart : AgreeOn w d d := ⟨.refl w d.store, rfl, rfl⟩
  have hfilter : (cs.filter (Command.isFor w)).filter (Command.isFor w) =
      cs.filter (Command.isFor w) := by
    simp
  obtain ⟨hend, halike⟩ := (unwinding_isolation w).run hstart hfilter
  refine ⟨hend.store.partition?, ?_⟩
  rw [outcomes_eq_run _ d fun c hc => (List.mem_filter.1 hc).2] at halike
  rwa [← List.forall₂_eq_eq_eq, List.forall₂_map_left_iff, List.forall₂_map_right_iff]

/-- Commands for two workspaces, which share an id between them and between the kinds. -/
def sharedIds : List Command :=
  [.setCurrent "w1", .cache "w1" .vertex [.vertex "x" .published],
    .cache "w2" .vertex [.vertex "x" .unpublished],
    .cache "w1" .edge [.edge "x" "knows" "x" "y"], .setOnGraph "w2" ["x"],
    .cache "w1" .vertex [.vertex "x" .publishedChanged], .readOne "w1" "edge" "x", .size]

/-- The theorem applies to ids that are shared between workspaces and kinds. -/
theorem workspaces_apart_sharedIds :
    ((new ⟨1, []⟩ true).run (sharedIds.filter (Command.isFor "w1"))).2.map uncounted =
        ((new ⟨1, []⟩ true).outcomes (Command.isFor "w1") sharedIds).map uncounted ∧
      (sharedIds.filter (Command.isFor "w1")).length = 6 ∧
      (Command.cache "w1" .vertex [.vertex "x" .unpublished]).dealsWith .edge = false ∧
      (Command.cache "w1" .vertex [.vertex "x" .unpublished]).isSetOnGraph = false ∧
      ((((new ⟨1, []⟩ true).reached sharedIds).perform
          (.cache "w1" .vertex [.vertex "x" .unpublished])).1.store.partition "w1").cache .edge =
        (((new ⟨1, []⟩ true).reached sharedIds).store.partition "w1").cache .edge ∧
      ((((new ⟨1, []⟩ true).reached sharedIds).perform
          (.cache "w1" .vertex [.vertex "x" .unpublished])).1.store.partition "w1").onGraph =
        (((new ⟨1, []⟩ true).reached sharedIds).store.partition "w1").onGraph := by
  obtain ⟨⟨-, hshown⟩, hkind, hcanvas⟩ := workspaces_apart (new ⟨1, []⟩ true) sharedIds "w1"
  have hdeals : (Command.cache "w1" .vertex [.vertex "x" .unpublished]).dealsWith .edge = false :=
    rfl
  have hset : (Command.cache "w1" .vertex [.vertex "x" .unpublished]).isSetOnGraph = false := rfl
  exact ⟨hshown, by decide +kernel, hdeals, hset, hkind _ _ _ hdeals, hcanvas _ _ hset⟩

end Desk

end GraphStore
