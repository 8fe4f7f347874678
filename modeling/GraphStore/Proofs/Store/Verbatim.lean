import GraphStore.Proofs.Graph.Description
import GraphStore.Proofs.Store.Contents
import GraphStore.Proofs.Store.Display

/-!
# The store and the objects it was sent

The store compares and holds decoded entities without their volatile fields.  Seen from outside it
compares and holds the objects that were sent, without the volatile fields that their kind does not
declare.

* `Turn.Leads.exists_same` : an entity that is taken in is held afterwards, or an older copy that is
  equal to it.
* `Store.Settled.hush_cacheBatch_snoc` : how the last entity of a batch is counted.
* `Store.Reachable.verdict_iff_alike` : an object that comes after another one under its id is
  unchanged when the two are equal, and an update otherwise.
* `Store.Reachable.reads_back` : what is read back is what was sent.
-/

namespace GraphStore

variable {settings : StoreSettings} {policy : Policy} {k : Kind}

/-! ### The entity that was taken in last -/

/-- After its turn an entity is held, or an equal one is. -/
theorem Turn.Leads.exists_same {c c' : Cache (Entity k)} {e : Entity k}
    {departures : List (Departure (Entity k))}
    (h : (Turn.of settings c e).Leads policy c (c', departures)) (hkept : c.Kept settings) :
    ∃ r, c'.find? e.id = some r ∧ r.value.same (e.strip settings.volatileFields) = true := by
  by_cases hv : (Turn.of settings c e).verdict = .unchanged
  · cases h.of_unchanged hv
    obtain ⟨r, hr⟩ := Turn.exists_found (t := Turn.of settings c e) (by simp [hv])
    refine ⟨r, hr, ?_⟩
    rw [Turn.verdict_of_some hr] at hv
    split at hv
    next hsame => exact hsame
    next => cases hv
  · -- it stands at the end, and there is room for one record at least
    have hin : e.id ∈ c'.keys := by
      obtain ⟨room, hroom⟩ : ∃ room, c.capacity = room + 1 :=
        ⟨max settings.entityCapacity 1 - 1, by rw [hkept.capacity]; omega⟩
      have hkeys : c'.keys = (toEnd c.keys e.id).rtake c.capacity := h.keys hkept.tidy hv
      rw [hkeys, hroom, toEnd, List.rtake_concat_succ]
      exact List.mem_append_right _ (List.mem_singleton_self _)
    have hvalue : (c'.find? e.id).map Record.value = some (e.strip settings.volatileFields) :=
      (h.values hv hin).trans (if_pos rfl)
    obtain ⟨r, hr, hr'⟩ := Option.map_eq_some_iff.1 hvalue
    exact ⟨r, hr, hr' ▸ Entity.same_refl _⟩

namespace Tally

theorem hush_count (t : Tally) (v : Verdict) : (t.count v).hush = t.hush.count v := by
  cases v <;> rfl

end Tally

namespace Store

variable {s : Store}

namespace Settled

/-- The last entity of a batch meets the cache that the others have left, and is counted by the
verdict on it. -/
theorem hush_cacheBatch_snoc (h : s.Settled settings) (focus : Focus) (w : String)
    (es : List (Entity k)) (e : Entity k) :
    (s.cacheBatch focus w k (es ++ [e])).2.1.hush = (s.cacheBatch focus w k es).2.1.hush.count
      (Turn.of settings (((s.cacheBatch focus w k es).1.partition w).cache k) e).verdict := by
  have htally (batch : List (Entity k)) : (s.cacheBatch focus w k batch).2.1.hush =
      (Intake.takeAll s.settings s.policy ((s.partition w).cache k) batch).tally.hush := rfl
  have hkept : (Intake.takeAll s.settings s.policy ((s.partition w).cache k) es).cache.Kept
      s.settings := Intake.kept_takeAll (h.kept_self w k) s.policy_priority s.policy_lasting es
  obtain ⟨_, _, -, htake⟩ := Intake.take_leads hkept s.policy_priority s.policy_lasting e
  rw [htally, htally, Intake.takeAll_snoc, htake, Tally.hush_count, s.cache_cacheBatch,
    ← h.settings_eq]

theorem hush_cacheBatch_singleton (h : s.Settled settings) (focus : Focus) (w : String)
    (e : Entity k) : (s.cacheBatch focus w k [e]).2.1.hush =
      Tally.zero.count (Turn.of settings ((s.partition w).cache k) e).verdict := by
  have hlast := h.hush_cacheBatch_snoc focus w [] e
  rwa [s.cache_cacheBatch focus w []] at hlast

theorem exists_same (h : s.Settled settings) (focus : Focus) (w : String) (es : List (Entity k))
    (e : Entity k) :
    ∃ r, (((s.cacheBatch focus w k (es ++ [e])).1.partition w).cache k).find? e.id = some r ∧
      r.value.same (e.strip settings.volatileFields) = true := by
  have hkept := Intake.kept_takeAll (h.kept_self w k) s.policy_priority s.policy_lasting es
  obtain ⟨c', departures, hleads, htake⟩ :=
    Intake.take_leads hkept s.policy_priority s.policy_lasting e
  rw [s.cache_cacheBatch, Intake.takeAll_snoc, htake, ← h.settings_eq]
  exact hleads.exists_same hkept

end Settled

namespace Reachable

open Json

/-- **Changes are told by the objects that are sent.**  Two objects with one id are recognised, and
taken in one after the other, in one batch or in two.  Then the second one is unchanged if the
objects are equal by their structure, but for the fields that are volatile and not declared by the
kind; otherwise it is an update. -/
theorem verdict_iff_alike (h : Reachable settings s) (focus focus' : Focus) (w : String)
    {a b : Json} (ha : a.Canonical) (hb : b.Canonical) {x y : Entity k}
    (hx : Recognition.entity? k a = some x) (hy : Recognition.entity? k b = some y)
    (hid : a.field? "id" = b.field? "id") :
    let names := Entity.droppable k settings.volatileFields
    let first := s.cacheBatch focus w k [x]
    let second := first.1.cacheBatch focus' w k [y]
    let both := s.cacheBatch focus w k [x, y]
    ∃ v : Verdict, second.2.1.hush = Tally.zero.count v ∧
      both.2.1.hush = first.2.1.hush.count v ∧
      (Alike (a.without names) (b.without names) → v = .unchanged) ∧
      (¬ Alike (a.without names) (b.without names) → v = .updated) := by
  intro names first second both
  have hsettled := h.settled
  have hids : y.id = x.id := by
    have := (Recognition.id_of_entity? hb hy).symm.trans
      (hid.symm.trans (Recognition.id_of_entity? ha hx))
    simpa using this
  -- the copy that is held when the second entity comes is equal to the first one
  obtain ⟨r, hr, hsame⟩ := hsettled.exists_same focus w [] x
  rw [← hids] at hr
  let v := (Turn.of settings ((first.1.partition w).cache k) y).verdict
  have hv : v = if (x.strip settings.volatileFields).same (y.strip settings.volatileFields) then
      .unchanged else .updated := by
    rw [← Entity.same_congr_left hsame]
    exact Turn.verdict_of_some hr
  have hsecond : second.2.1.hush = Tally.zero.count v :=
    (hsettled.cacheBatch focus w [x]).1.hush_cacheBatch_singleton focus' w y
  have hboth : both.2.1.hush = first.2.1.hush.count v :=
    hsettled.hush_cacheBatch_snoc focus w [x] y
  have halike := Recognition.same_strip_iff ha hb hx hy settings.volatileFields
  refine ⟨v, hsecond, hboth, fun hab => ?_, fun hab => ?_⟩
  · rw [hv, if_pos (halike.2 hab)]
  · rw [hv, if_neg (mt halike.1 hab)]

/-- A vertex with a score, and with a zero of either sign for a property. -/
def scored (negative : Bool) (score : Int) : Json :=
  canonical (.obj [("id", .str "v1"), ("properties", .arr [.num (.double ⟨negative, 0⟩)]),
    ("sandboxStatus", .str "PUBLIC"), ("score", int score)])

/-- The vertex that it is. -/
def scoredVertex (negative : Bool) (score : Int) : Vertex :=
  ((Entity.vertex "v1" .published).withProperty ⟨.num (.double ⟨negative, 0⟩)⟩).withField "score"
    (int score)

/-- The theorem applies to two versions that differ in the sign of the zero and in the score, where
the settings also name a declared field. -/
theorem verdict_iff_alike_scored :
    Reachable ⟨0, ["score", "id"]⟩ (.new ⟨0, ["score", "id"]⟩ true) ∧
      (scored false 1).Canonical ∧ (scored true 2).Canonical ∧
      Recognition.entity? .vertex (scored false 1) = some (scoredVertex false 1) ∧
      Recognition.entity? .vertex (scored true 2) = some (scoredVertex true 2) ∧
      (scored false 1).field? "id" = (scored true 2).field? "id" ∧
      Alike ((scored false 1).without ["score"]) ((scored true 2).without ["score"]) ∧
      ((Store.new ⟨0, ["score", "id"]⟩ true).cacheBatch .none "w1" .vertex
        [scoredVertex false 1, scoredVertex true 2]).2.1.hush = ⟨1, 1, 0, false⟩ := by
  have hreachable : Reachable ⟨0, ["score", "id"]⟩ (.new ⟨0, ["score", "id"]⟩ true) := .new true
  have hx : Recognition.entity? .vertex (scored false 1) = some (scoredVertex false 1) := by
    decide +kernel
  have hy : Recognition.entity? .vertex (scored true 2) = some (scoredVertex true 2) := by
    decide +kernel
  have hid : (scored false 1).field? "id" = (scored true 2).field? "id" := by decide +kernel
  have halike : Alike ((scored false 1).without ["score"]) ((scored true 2).without ["score"]) :=
    alike_of_same (by decide +kernel)
  obtain ⟨v, -, hboth, hunchanged, -⟩ := verdict_iff_alike hreachable .none .none "w1"
    (canonical_canonical _) (canonical_canonical _) hx hy hid
  refine ⟨hreachable, canonical_canonical _, canonical_canonical _, hx, hy, hid, halike, ?_⟩
  rw [hboth, hunchanged halike]
  decide +kernel

/-- **What is read back is what was sent.**  An object that is recognised is written as it was sent
again.  Once it is taken in, at the end of a batch perhaps, what is read under its id is equal to it
by structure, without the fields that are volatile and not declared by the kind. -/
theorem reads_back {v : Json} (hv : v.Canonical) {e : Entity k}
    (he : Recognition.entity? k v = some e) :
    Wire.value e = v ∧
    ∀ (settings : StoreSettings) (s : Store), Reachable settings s →
      ∀ (focus : Focus) (w : String) (before : List (Entity k)),
        let s' := (s.cacheBatch focus w k (before ++ [e])).1
        ∃ held, (s'.readOne w k e.id).2.1 = some held ∧
          Alike (Wire.value held) (v.without (Entity.droppable k settings.volatileFields)) := by
  refine ⟨Recognition.value_of_entity? hv he, ?_⟩
  intro settings s h focus w before s'
  have hkept : ((s'.partition w).cache k).Kept settings :=
    (h.settled.cacheBatch focus w (before ++ [e])).1.kept w k
  obtain ⟨r, hr, hsame⟩ := h.settled.exists_same focus w before e
  have hheld : s'.held? w k e.id = some r.value :=
    (hkept.peek_eq moment e.id).trans (congrArg (Option.map Record.value) hr)
  have hvalue := Entity.same_value hsame
  rw [Recognition.value_strip hv he] at hvalue
  exact ⟨r.value, (s'.value_readOne w k e.id).trans hheld, alike_of_same hvalue⟩

/-- A vertex with a status that is not known, a property that is none, a null and a score. -/
def draft (score : Int) : Json :=
  canonical (.obj [("id", .str "v1"), ("note", .null),
    ("properties", .arr [.obj [("name", .str "title"), ("value", .arr [.null, int 1])], .null]),
    ("sandboxStatus", .str "DRAFT"), ("score", int score)])

/-- The theorem applies to a vertex of which an older copy with another score is held. -/
theorem reads_back_draft :
    let s := ((Desk.new ⟨1, ["score"]⟩ true).run [.absorb "w1" (draft 7)]).1.store
    ∃ e held : Vertex, (draft 3).Canonical ∧
      Recognition.entity? .vertex (draft 3) = some e ∧ Wire.value e = draft 3 ∧
      Reachable ⟨1, ["score"]⟩ s ∧
      ((s.cacheBatch .none "w1" .vertex [e]).1.readOne "w1" .vertex "v1").2.1 = some held ∧
      Alike (Wire.value held) ((draft 3).without ["score"]) := by
  intro s
  have hcanonical : (draft 3).Canonical := canonical_canonical _
  have hreachable : Reachable ⟨1, ["score"]⟩ s :=
    run (d := Desk.new ⟨1, ["score"]⟩ true) (.new true) [.absorb "w1" (draft 7)]
  obtain ⟨e, he⟩ : ∃ e, Recognition.entity? .vertex (draft 3) = some e :=
    Option.isSome_iff_exists.1 (by decide +kernel)
  have hid : e.id = "v1" := by
    have hfield : (draft 3).field? "id" = some (.str "v1") := by decide +kernel
    simpa using (Recognition.id_of_entity? hcanonical he).symm.trans hfield
  obtain ⟨hvalue, hread⟩ := reads_back hcanonical he
  obtain ⟨held, hheld, halike⟩ := hread ⟨1, ["score"]⟩ s hreachable .none "w1" []
  rw [hid] at hheld
  exact ⟨e, held, hcanonical, he, hvalue, hreachable, hheld, halike⟩

end Reachable

end Store

end GraphStore
