import GraphStore.Proofs.Store.Operations
import GraphStore.Proofs.Store.TwoRuns

/-!
# The display does not interfere

Which workspace is on display decides who is told about an update, and nothing else.  Two desks
with the same store that carry out the same commands on it, and put whatever they like on display
in between, end with the same store.  They answer alike and let the same records depart; all that
may differ are the messages that update the user interface and the flags that say whether there
was one (`Desk.display_noninterference`).

* `Store.takeIn_of_isOn` : for the entities that are taken in, the display counts only in so far
  as it shows their workspace or not.
* `Store.takeIn_none` : while nothing is on display, a batch shows what it shows in any case, less
  the messages and the flag.
-/

namespace GraphStore

/-! ### Without updates and flags -/

/-- The counts, as if the user interface was not told. -/
def Tally.hush (t : Tally) : Tally := { t with notified := false }

/-- The totals, as if the user interface was not told. -/
def ReplayTotals.hush (t : ReplayTotals) : ReplayTotals := { t with tally := t.tally.hush }

/-- The answer, as if the user interface was not told. -/
def Reply.hush : Reply → Reply
  | .tally t => .tally t.hush
  | .totals result => .totals (result.map ReplayTotals.hush)
  | reply => reply

/-- The signal is an update of entities. -/
def Signal.isUpdate : Signal → Bool
  | .ui (.storeObjectsUpdated _) => true
  | _ => false

/-- The emission without updates of entities. -/
def Emission.hush (e : Emission) : Emission :=
  ⟨e.sent.filter fun signal => !signal.isUpdate, e.departures⟩

/-- What a command answers and shows, without updates of entities and without the flags that say
whether there was one. -/
def Desk.hush (shown : Reply × Emission) : Reply × Emission := (shown.1.hush, shown.2.hush)

theorem Tally.hush_merge (s t : Tally) : (s.merge t).hush = s.hush.merge t.hush := rfl

@[simp] theorem Emission.hush_append (a b : Emission) : (a ++ b).hush = a.hush ++ b.hush := by
  ext1 <;> simp [Emission.hush]

theorem Emission.hush_publish (f : Focus) (w : String) (u : ObjectsUpdated) :
    (ofMessages (f.publish w u)).hush = none := by
  unfold Focus.publish
  split <;> rfl

theorem ReplayTotals.ofLines_hush (tally : Tally) (lines : List (List UInt8)) :
    ofLines tally.hush lines = (ofLines tally lines).map hush := by
  induction lines with
  | nil => rfl
  | cons line rest ih =>
    unfold ofLines
    cases Text.Utf8.decode? line with
    | none => rfl
    | some text =>
      simp only [ih]
      cases ofLines tally rest with
      | error e => rfl
      | ok totals => cases CaptureLine.of text <;> rfl

/-! ### Taking in under a display -/

namespace Store

variable (s : Store) {focus focus' : Focus} {w : String}

/-- Of the display, it only counts whether it shows the workspace. -/
theorem takeIn_of_isOn (h : focus.isOn w = focus'.isOn w) (bs : List Batch) :
    s.takeIn focus w bs = s.takeIn focus' w bs := by
  induction bs generalizing s with
  | nil => rfl
  | cons b bs ih =>
    have hbatch : s.cacheBatch focus w b.kind b.entities =
        s.cacheBatch focus' w b.kind b.entities := by
      simp only [cacheBatch, Focus.publish, h]
    rw [takeIn_cons, takeIn_cons, hbatch, ih]

/-- While nothing is on display, all is as it is in any case, but nobody is told. -/
theorem takeIn_none (focus : Focus) (bs : List Batch) :
    s.takeIn .none w bs =
      ((s.takeIn focus w bs).1, (s.takeIn focus w bs).2.1.hush,
        (s.takeIn focus w bs).2.2.hush) := by
  induction bs generalizing s with
  | nil => rfl
  | cons b bs ih =>
    have hnone (u : ObjectsUpdated) : Focus.none.publish w u = [] := by
      simp [Focus.publish, Focus.none, Focus.isOn]
    have hbatch : s.cacheBatch .none w b.kind b.entities =
        ((s.cacheBatch focus w b.kind b.entities).1,
          (s.cacheBatch focus w b.kind b.entities).2.1.hush,
          (s.cacheBatch focus w b.kind b.entities).2.2.hush) := by
      simp only [cacheBatch, hnone, Emission.hush_append, Emission.hush_publish]
      rfl
    rw [takeIn_cons, hbatch, ih, takeIn_cons, Tally.hush_merge, Emission.hush_append]

variable (focus focus' w) in
/-- Under two displays the same batches do the same to the store and let the same records depart.
They show the same, or one display is told nothing. -/
theorem takeIn_alike (bs : List Batch) :
    (s.takeIn focus w bs).1 = (s.takeIn focus' w bs).1 ∧
      ((s.takeIn focus w bs).2 = (s.takeIn focus' w bs).2 ∨
        (s.takeIn focus w bs).2 =
          ((s.takeIn focus' w bs).2.1.hush, (s.takeIn focus' w bs).2.2.hush) ∨
        ((s.takeIn focus w bs).2.1.hush, (s.takeIn focus w bs).2.2.hush) =
          (s.takeIn focus' w bs).2) := by
  cases h : focus.isOn w with
  | true =>
    cases h' : focus'.isOn w with
    | true =>
      have hsame : s.takeIn focus w bs = s.takeIn focus' w bs :=
        s.takeIn_of_isOn (h.trans h'.symm) bs
      rw [hsame]
      exact ⟨rfl, .inl rfl⟩
    | false =>
      have hquiet : s.takeIn focus' w bs = s.takeIn Focus.none w bs := s.takeIn_of_isOn h' bs
      rw [hquiet, s.takeIn_none focus bs]
      exact ⟨rfl, .inr (.inr rfl)⟩
  | false =>
    have hquiet : s.takeIn focus w bs = s.takeIn Focus.none w bs := s.takeIn_of_isOn h bs
    rw [hquiet, s.takeIn_none focus' bs]
    exact ⟨rfl, .inr (.inl rfl)⟩

end Store

namespace Desk

/-- Two desks show alike: they show the same, or one of them shows what the other one shows without
updates and flags. -/
def Alike (a b : Reply × Emission) : Prop := a = b ∨ a = hush b ∨ hush a = b

theorem hush_hush (a : Reply × Emission) : hush (hush a) = hush a := by
  obtain ⟨reply, emission⟩ := a
  have hreply : reply.hush.hush = reply.hush := by
    cases reply with
    | totals result => cases result <;> rfl
    | _ => rfl
  have hemission : emission.hush.hush = emission.hush := by
    simp [Emission.hush]
  simp only [hush, hreply, hemission]

theorem Alike.hush_eq {a b : Reply × Emission} (h : Alike a b) : hush a = hush b := by
  rcases h with rfl | rfl | rfl
  · rfl
  · exact hush_hush b
  · exact (hush_hush a).symm

theorem Alike.report {report : Tally → Reply} (hreport : ∀ t, (report t).hush = report t.hush)
    {a b : Tally × Emission}
    (h : a = b ∨ a = (b.1.hush, b.2.hush) ∨ (a.1.hush, a.2.hush) = b) :
    Alike (report a.1, a.2) (report b.1, b.2) := by
  rcases h with rfl | rfl | rfl
  · exact .inl rfl
  · exact .inr (.inl (by rw [hush, hreport]))
  · exact .inr (.inr (by rw [hush, hreport]))

/-- Under two displays an operation does the same to the store and shows alike. -/
theorem alike_perform (s : Store) (focus focus' : Focus) (op : Store.Op) :
    (s.perform focus op).1 = (s.perform focus' op).1 ∧
      Alike (s.perform focus op).2 (s.perform focus' op).2 := by
  cases op with
  | write w bs =>
    obtain ⟨hstore, hshown⟩ := s.takeIn_alike focus focus' w bs
    exact ⟨hstore, .report (fun _ => rfl) hshown⟩
  | replay w lines =>
    obtain ⟨hstore, hshown⟩ := s.takeIn_alike focus focus' w (Batch.ofLines lines)
    have hreport (t : Tally) : (Reply.totals (ReplayTotals.ofLines t lines)).hush =
        .totals (ReplayTotals.ofLines t.hush lines) := by
      rw [ReplayTotals.ofLines_hush, Reply.hush]
    exact ⟨hstore, .report hreport hshown⟩
  | read | setOnGraph | ensure | look | size | settings => exact ⟨rfl, .inl rfl⟩

end Desk

/-- The command is an operation of the store. -/
def Command.isForStore (c : Command) : Bool := c.op?.isSome

namespace Desk

theorem unwinding_display :
    Unwinding Command.isForStore (fun d e => d.store = e.store) Alike where
  left := by
    intro d e c h hc
    rw [(d.perform_of_op?_eq_none (by simpa [Command.isForStore] using hc)).1, h]
  right := by
    intro d e c h hc
    rw [(e.perform_of_op?_eq_none (by simpa [Command.isForStore] using hc)).1, h]
  both := by
    intro d e c h hc
    obtain ⟨op, hop⟩ := Option.isSome_iff_exists.1 hc
    rw [d.perform_of_op? hop, e.perform_of_op? hop, h]
    exact alike_perform e.store d.focus e.focus op

/-- **The display does not interfere.**  Two desks with the same store carry out the same commands
on it, while anything is put on display, published or asked about the display in between.  Then
they end with the same store: the same entities in the same order of recency, the same counters,
the same vertices on every canvas.  And for every command on the store they answer and show the
same, apart from updates of entities and the flags that say whether there was one; one of the two
may just have been told nothing. -/
theorem display_noninterference {d e : Desk} {cs ds : List Command} (hstore : d.store = e.store)
    (hcs : cs.filter Command.isForStore = ds.filter Command.isForStore) :
    (d.reached cs).store = (e.reached ds).store ∧
      (d.outcomes Command.isForStore cs).map hush = (e.outcomes Command.isForStore ds).map hush ∧
      List.Forall₂ Alike (d.outcomes Command.isForStore cs)
        (e.outcomes Command.isForStore ds) := by
  obtain ⟨hend, halike⟩ := unwinding_display.run hstore hcs
  refine ⟨hend, ?_, halike⟩
  have hhush := halike.imp fun _ _ h => h.hush_eq
  rwa [← List.forall₂_eq_eq_eq, List.forall₂_map_left_iff, List.forall₂_map_right_iff]

/-- Two versions of a vertex come while their workspace is on display. -/
def watchedUpdate : List Command :=
  [.setCurrent "w1", .cache "w1" .vertex [.vertex "v1" .published],
    .cache "w1" .vertex [.vertex "v1" .unpublished], .readOne "w1" "vertex" "v1"]

/-- The same versions come while another workspace is on display. -/
def unwatchedUpdate : List Command :=
  [.cache "w1" .vertex [.vertex "v1" .published], .setCurrent "w2",
    .cache "w1" .vertex [.vertex "v1" .unpublished], .clearCurrent,
    .readOne "w1" "vertex" "v1"]

/-- The theorem applies to runs of which only one sends an update. -/
theorem display_noninterference_oneUpdate :
    watchedUpdate.filter Command.isForStore = unwatchedUpdate.filter Command.isForStore ∧
      ((new .default true).reached watchedUpdate).store =
        ((new .default true).reached unwatchedUpdate).store ∧
      ((new .default true).outcomes Command.isForStore watchedUpdate).map hush =
        ((new .default true).outcomes Command.isForStore unwatchedUpdate).map hush ∧
      (new .default true).sent watchedUpdate =
        [.storeObjectsUpdated (.ofKind .vertex [.vertex "v1" .unpublished])] ∧
      (new .default true).sent unwatchedUpdate = [] := by
  have hcs : watchedUpdate.filter Command.isForStore =
      unwatchedUpdate.filter Command.isForStore := rfl
  obtain ⟨hstore, hhush, -⟩ :=
    display_noninterference (d := new .default true) (e := new .default true) rfl hcs
  exact ⟨hcs, hstore, hhush, by decide +kernel, by decide +kernel⟩

end Desk

end GraphStore
