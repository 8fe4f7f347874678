import GraphStore.Proofs.Store.Bookkeeping

/-!
# Where a batch ends

What is taken in goes through the cache one entity after another, whatever batch it belongs to; the
batch matters only in the end, when the updates in it are published together.

* `Store.Intake.followedBy` : two intakes, one after the other.  To take in a list is to take in its
  first part and then the rest (`Store.Intake.takeAll_split`).
* `Store.boundaries_only_group` : a batch does the same as two batches into which it is cut, but for
  the grouping of the updates into messages.
-/

namespace GraphStore

variable {k : Kind}

namespace Tally

theorem merge_count (s t : Tally) (v : Verdict) : (s.merge t).count v = s.merge (t.count v) := by
  cases v <;> simp [count, merge, Nat.add_assoc]

end Tally

namespace Store

namespace Intake

/-- What was taken in, and then more, by an intake that began with the cache as it was left. -/
def followedBy (i j : Intake k) : Intake k :=
  ⟨j.cache, i.tally.merge j.tally, i.updated ++ j.updated, i.departures ++ j.departures⟩

section

variable (settings : StoreSettings) (policy : Policy)

theorem followedBy_take (i j : Intake k) (e : Entity k) :
    (i.followedBy j).take settings policy e = i.followedBy (j.take settings policy e) := by
  simp only [take, followedBy]
  split <;> simp [Tally.merge_count]

/-- To go on from an intake is to begin anew with its cache. -/
theorem foldl_take (i : Intake k) (es : List (Entity k)) :
    es.foldl (take settings policy) i = i.followedBy (takeAll settings policy i.cache es) := by
  induction es using List.reverseRecOn with
  | nil => simp [takeAll, start, followedBy, Tally.merge_zero]
  | append_singleton es e ih =>
    rw [List.foldl_append, ih, takeAll_snoc, ← followedBy_take]
    rfl

theorem takeAll_split (cache : Cache (Entity k)) (es fs : List (Entity k)) :
    takeAll settings policy cache (es ++ fs) =
      (takeAll settings policy cache es).followedBy
        (takeAll settings policy (takeAll settings policy cache es).cache fs) := by
  rw [takeAll_append, foldl_take]

end

end Intake

variable (s : Store) (focus : Focus) (w : String)

theorem withPartition_withPartition (p q : Partition) :
    (s.withPartition w p).withPartition w q = s.withPartition w q := by
  have hmap : (s.partitions.insert w p).insert w q = s.partitions.insert w q := by
    refine SortedMap.ext_get? fun v => ?_
    simp only [SortedMap.get?_insert]
    split
    · rfl
    · rfl
  simp only [withPartition, hmap]

theorem partition_withPartition_self (p : Partition) : (s.withPartition w p).partition w = p := by
  rw [partition_withPartition, if_pos rfl]

theorem withCache_withCache (p : Partition) (c d : Cache (Entity k)) :
    (p.withCache k c).withCache k d = p.withCache k d := by
  cases k <;> rfl

/-- What becomes of a store by an intake for a workspace, and what it tells. -/
def book (i : Intake k) : Store × Tally × Emission :=
  (s.withPartition w ((s.partition w).withCache k i.cache),
    { i.tally with notified := !(focus.publish w (.ofKind k i.updated)).isEmpty },
    .ofMessages (focus.publish w (.ofKind k i.updated)) ++ .ofDepartures i.departures)

theorem cacheBatch_eq_book (batch : List (Entity k)) :
    s.cacheBatch focus w k batch =
      s.book focus w (Intake.takeAll s.settings s.policy ((s.partition w).cache k) batch) := rfl

section

variable (i : Intake k)

theorem departures_book : (s.book focus w i).2.2.departures =
    i.departures.map (Departure.map .of) := rfl

theorem messages_book : (s.book focus w i).2.2.messages =
    focus.publish w (.ofKind k i.updated) := by
  simp [book]

theorem listed_book (l : Kind) : (s.book focus w i).2.2.listed l =
    (Emission.ofMessages (focus.publish w (.ofKind k i.updated))).listed l := by
  rw [Emission.listed, messages_book, Emission.listed, Emission.messages_ofMessages]

end

/-! ### Messages for more updates -/

theorem isEmpty_publish_append (us vs : List (Entity k)) :
    (focus.publish w (.ofKind k (us ++ vs))).isEmpty =
      ((focus.publish w (.ofKind k us)).isEmpty && (focus.publish w (.ofKind k vs)).isEmpty) := by
  simp only [publish_ofKind]
  cases us <;> cases vs <;> cases focus.isOn w <;> rfl

theorem listed_publish_append (us vs : List (Entity k)) (l : Kind) :
    (Emission.ofMessages (focus.publish w (.ofKind k (us ++ vs)))).listed l =
      (Emission.ofMessages (focus.publish w (.ofKind k us))).listed l ++
        (Emission.ofMessages (focus.publish w (.ofKind k vs))).listed l := by
  cases hf : focus.isOn w with
  | true =>
    simp only [Focus.listed_publish hf, if_true]
    cases k <;> cases l <;> rfl
  | false => simp [Focus.publish, hf, Emission.listed]

/-! ### One batch or two -/

/-- **Batch boundaries only group messages.**  Take in entities as one batch or as two, one right
after the other: the same store is left, the same records depart in the same order, and the counts
of the two batches add up to those of the one, with the word on whether anything was sent.  What the
messages list is the same in the same order; the one batch sends in one message what the two send
in a message each. -/
theorem boundaries_only_group (xs ys : List (Entity k)) :
    let whole := s.cacheBatch focus w k (xs ++ ys)
    let first := s.cacheBatch focus w k xs
    let second := first.1.cacheBatch focus w k ys
    whole.1 = second.1 ∧
    whole.2.1 = first.2.1.merge second.2.1 ∧
    whole.2.2.departures = first.2.2.departures ++ second.2.2.departures ∧
    (∀ l, whole.2.2.listed l = first.2.2.listed l ++ second.2.2.listed l) ∧
    ∃ us vs : List (Entity k), whole.2.2.messages = focus.publish w (.ofKind k (us ++ vs)) ∧
      first.2.2.messages = focus.publish w (.ofKind k us) ∧
      second.2.2.messages = focus.publish w (.ofKind k vs) := by
  intro whole first second
  let i := Intake.takeAll s.settings s.policy ((s.partition w).cache k) xs
  let j := Intake.takeAll s.settings s.policy i.cache ys
  have hpartition : first.1.partition w = (s.partition w).withCache k i.cache :=
    s.partition_withPartition_self w _
  have hfirst : first = s.book focus w i := s.cacheBatch_eq_book focus w xs
  have hwhole : whole = s.book focus w (i.followedBy j) := by
    rw [← Intake.takeAll_split]
    exact s.cacheBatch_eq_book focus w (xs ++ ys)
  -- the second batch finds the cache that the first one leaves
  have hsecond : second = first.1.book focus w j := by
    have hcache : (first.1.partition w).cache k = i.cache := by
      rw [hpartition, Partition.cache_withCache]
    have hbook := first.1.cacheBatch_eq_book focus w ys
    rwa [hcache] at hbook
  rw [hwhole, hsecond]
  refine ⟨?_, ?_, ?_, fun l => ?_, i.updated, j.updated, ?_, ?_, ?_⟩
  · show s.withPartition w ((s.partition w).withCache k j.cache) =
      first.1.withPartition w ((first.1.partition w).withCache k j.cache)
    rw [hpartition, withCache_withCache]
    exact (s.withPartition_withPartition w _ _).symm
  · have hempty := isEmpty_publish_append focus w i.updated j.updated
    simp only [book, Intake.followedBy, hempty, Bool.not_and]
    rfl
  · rw [hfirst, departures_book, departures_book, departures_book, ← List.map_append]
    rfl
  · rw [hfirst, listed_book, listed_book, listed_book]
    exact listed_publish_append focus w i.updated j.updated l
  · exact s.messages_book focus w (i.followedBy j)
  · rw [hfirst, messages_book]
  · exact first.1.messages_book focus w j

end Store

end GraphStore
