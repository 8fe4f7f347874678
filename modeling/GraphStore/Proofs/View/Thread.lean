import Mathlib.Data.List.Sort
import GraphStore.View.Basic

/-!
# Threads of comments

A thread holds the comments among some properties in order of date.  The order leaves open how
comments of one date stand, and comments without a date; a thread has these in the order of the
properties, and is the only list of the comments that does.

* `Comment.Before` : the order of comments, dated ones before undated ones and by date.
* `Comment.byDate_eq` : the comments are sorted by insertion.
* `Comment.eq_of_before` : lists in order are equal when they have the same comments of each date,
  in the same order.
* `Comment.thread_chronological` : the thread of a list of properties.
-/

namespace GraphStore

namespace Comment

/-! ### The order of comments -/

/-- The first comment is not younger than the second: if the second has a date, the first one has
none that is later. -/
def Before (a b : Comment) : Prop :=
  ∀ d', b.created = some d' → ∃ d, a.created = some d ∧ d ≤ d'

variable {a b c : Comment}

theorem notAfter_iff : a.notAfter b = true ↔ a.Before b := by
  unfold notAfter Before
  cases a.created <;> cases b.created <;> simp

instance : DecidableRel Before := fun _ _ => decidable_of_iff _ notAfter_iff

theorem before_of_eq (h : a.created = b.created) : a.Before b :=
  fun d hd => ⟨d, h.trans hd, le_refl d⟩

theorem Before.trans (hab : a.Before b) (hbc : b.Before c) : a.Before c := by
  intro d'' hc
  obtain ⟨d', hb, hle'⟩ := hbc d'' hc
  obtain ⟨d, ha, hle⟩ := hab d' hb
  exact ⟨d, ha, hle.trans hle'⟩

theorem before_total (a b : Comment) : a.Before b ∨ b.Before a := by
  rw [← notAfter_iff, ← notAfter_iff]
  unfold notAfter
  cases a.created <;> cases b.created <;> simp [le_total]

theorem Before.created_eq (hab : a.Before b) (hba : b.Before a) : a.created = b.created := by
  cases ha : a.created with
  | some d =>
    obtain ⟨d', hb, hle'⟩ := hba d ha
    obtain ⟨e, he, hle⟩ := hab d' hb
    obtain rfl : d = e := Option.some.inj (ha.symm.trans he)
    rw [hb, le_antisymm hle hle']
  | none =>
    cases hb : b.created with
    | some d' =>
      obtain ⟨d, hd, -⟩ := hab d' hb
      rw [ha] at hd
      cases hd
    | none => rfl

instance : Std.Total Before := ⟨before_total⟩

instance : IsTrans Comment Before := ⟨fun _ _ _ => .trans⟩

/-! ### Sorting -/

theorem place_eq (c : Comment) (cs : List Comment) : place c cs = cs.orderedInsert Before c := by
  induction cs with
  | nil => rfl
  | cons d cs ih => simp only [place, List.orderedInsert_cons, notAfter_iff, ih]

/-- The comments are sorted by insertion. -/
theorem byDate_eq (cs : List Comment) : byDate cs = cs.insertionSort Before := by
  induction cs with
  | nil => rfl
  | cons c cs ih => rw [byDate, ih, place_eq, List.insertionSort_cons]

/-- The comments of a date, in their order. -/
def dated (d : Option Int) (cs : List Comment) : List Comment :=
  cs.filter fun c => c.created = d

/-- A comment is put in front of the others of its date. -/
theorem dated_place (d : Option Int) (c : Comment) (cs : List Comment) :
    dated d (place c cs) = dated d (c :: cs) := by
  induction cs with
  | nil => rfl
  | cons e cs ih =>
    by_cases hce : c.notAfter e = true
    · rw [place, if_pos hce]
    · -- it is put behind comments of other dates only
      have hne : c.created ≠ e.created := fun h => hce (notAfter_iff.2 (before_of_eq h))
      rw [place, if_neg hce]
      simp only [dated, List.filter_cons] at ih ⊢
      rw [ih]
      by_cases hc : c.created = d
      · subst hc
        simp [hne.symm]
      · simp [hc]

theorem dated_byDate (d : Option Int) (cs : List Comment) : dated d (byDate cs) = dated d cs := by
  induction cs with
  | nil => rfl
  | cons c cs ih =>
    rw [byDate, dated_place]
    simp only [dated, List.filter_cons] at ih ⊢
    rw [ih]

theorem mem_dated {d : Option Int} {cs : List Comment} :
    c ∈ dated d cs ↔ c ∈ cs ∧ c.created = d := by
  simp [dated]

/-- The first of comments in order is before each comment of another list with the same dates. -/
theorem before_of_mem {as bs : List Comment} (h : (a :: as).Pairwise Before)
    (hdated : ∀ d, dated d (a :: as) = dated d bs) (hb : b ∈ bs) : a.Before b := by
  have hmem : b ∈ dated b.created (a :: as) := hdated b.created ▸ mem_dated.2 ⟨hb, rfl⟩
  rcases List.mem_cons.1 (mem_dated.1 hmem).1 with rfl | hmem
  · exact before_of_eq rfl
  · exact List.rel_of_pairwise_cons h hmem

/-- Comments in order are given by the comments of each date. -/
theorem eq_of_before {as bs : List Comment} (ha : as.Pairwise Before) (hb : bs.Pairwise Before)
    (h : ∀ d, dated d as = dated d bs) : as = bs := by
  induction as generalizing bs with
  | nil =>
    cases bs with
    | nil => rfl
    | cons b bs => simpa [dated] using h b.created
  | cons a as ih =>
    cases bs with
    | nil => simpa [dated] using h a.created
    | cons b bs =>
      -- each head is in the other list, so they may stand in either order and have one date
      have hab : a.Before b := before_of_mem ha h List.mem_cons_self
      have hba : b.Before a := before_of_mem hb (fun d => (h d).symm) List.mem_cons_self
      have hcreated : a.created = b.created := hab.created_eq hba
      have hhead : a :: dated a.created as = b :: dated a.created bs := by
        simpa [dated, hcreated] using h a.created
      obtain ⟨rfl, -⟩ := List.cons.inj hhead
      refine congrArg (a :: ·) (ih ha.of_cons hb.of_cons fun d => ?_)
      by_cases hd : a.created = d
      · simpa [dated, hd] using h d
      · simpa [dated, hd] using h d

/-! ### Threads -/

theorem isComment_iff {p : Property} : isComment p = true ↔
    p.raw.field? "name" = some (.str "http://lumify.io/comment#entry") := by
  unfold isComment Property.name? Property.field?
  cases p.raw.field? "name" with
  | none => simp
  | some a => cases a <;> simp [Json.string?, propertyName]

theorem int64?_eq_some_iff {a : Json} {d : Int} :
    a.int64? = some d ↔ a = .int d ∧ fitsSigned d = true := by
  unfold Json.int64?
  split
  next n =>
    rw [Option.ite_none_right_eq_some, Option.some.injEq]
    constructor
    · rintro ⟨hn, rfl⟩
      exact ⟨rfl, hn⟩
    · rintro ⟨hn, hd⟩
      cases hn
      exact ⟨hd, rfl⟩
  next hne =>
    constructor
    · nofun
    · rintro ⟨rfl, -⟩
      exact absurd rfl (hne d)

theorem created_ofProperty_iff {p : Property} {d : Int} :
    (ofProperty p).created = some d ↔
      (-9223372036854775808 ≤ d ∧ d ≤ 9223372036854775807) ∧
        ∃ metadata, p.raw.field? "metadata" = some metadata ∧
          metadata.field? "http://lumify.io#createDate" = some (.int d) := by
  have hfits : fitsSigned d = true ↔ -9223372036854775808 ≤ d ∧ d ≤ 9223372036854775807 := by
    simp only [fitsSigned, Bool.and_eq_true, decide_eq_true_eq]
  rw [← hfits]
  constructor
  · intro h
    obtain ⟨a, hentry, ha⟩ := Option.bind_eq_some_iff.1 h
    obtain ⟨metadata, hmetadata, hentry⟩ := Option.bind_eq_some_iff.1 hentry
    obtain ⟨rfl, hd⟩ := int64?_eq_some_iff.1 ha
    exact ⟨hd, metadata, hmetadata, hentry⟩
  · rintro ⟨hd, metadata, hmetadata, hentry⟩
    refine Option.bind_eq_some_iff.2 ⟨.int d, ?_, int64?_eq_some_iff.2 ⟨rfl, hd⟩⟩
    exact Option.bind_eq_some_iff.2 ⟨metadata, hmetadata, hentry⟩

theorem thread_append_cons {p : Property} (h : isComment p = false) (ps qs : List Property) :
    thread (ps ++ p :: qs) = thread (ps ++ qs) := by
  simp [thread, h]

/-- The thread of some properties is the one order of their comments in which dated comments come
before undated ones and by date, and comments of one date, or without one, stand like the
properties.  Other properties do not matter, and neither does whether a vertex or an edge has the
properties. -/
theorem thread_chronological (properties : List Property) :
    let comments := (properties.filter isComment).map ofProperty
    (∀ p, isComment p = true ↔
        p.raw.field? "name" = some (.str "http://lumify.io/comment#entry")) ∧
      (∀ p d, (ofProperty p).created = some d ↔
        (-9223372036854775808 ≤ d ∧ d ≤ 9223372036854775807) ∧
          ∃ metadata, p.raw.field? "metadata" = some metadata ∧
            metadata.field? "http://lumify.io#createDate" = some (.int d)) ∧
      (thread properties).Perm comments ∧ (thread properties).Pairwise Before ∧
      (∀ d, dated d (thread properties) = dated d comments) ∧
      (∀ cs : List Comment, cs.Pairwise Before → (∀ d, dated d cs = dated d comments) →
        cs = thread properties) ∧
      (∀ ps p qs, properties = ps ++ p :: qs → isComment p = false →
        thread (ps ++ qs) = thread properties) ∧
      ∀ (e : Edge) (v : Vertex) (items : List Json) (status : SandboxStatus),
        e.extra.get? "properties" = some (.arr items) →
        v.body = .vertex status (items.map Property.mk) →
        View.comments ⟨.of e⟩ = View.comments ⟨.of v⟩ := by
  intro comments
  have hsorted : (thread properties).Pairwise Before := by
    rw [thread, byDate_eq]
    exact List.pairwise_insertionSort Before _
  have hdated (d : Option Int) : dated d (thread properties) = dated d comments :=
    dated_byDate d comments
  refine ⟨fun _ => isComment_iff, fun _ _ => created_ofProperty_iff, ?_, hsorted, hdated,
    fun cs hcs h => ?_, fun ps p qs hps hp => ?_, fun e v items status he hv => ?_⟩
  · rw [thread, byDate_eq]
    exact List.perm_insertionSort Before comments
  · exact eq_of_before hcs hsorted fun d => (h d).trans (hdated d).symm
  · rw [hps, thread_append_cons hp]
  · obtain ⟨id, body, extra⟩ := v
    obtain rfl : body = .vertex status (items.map Property.mk) := hv
    simp [View.comments, View.properties, AnyEntity.of, he]

/-- A comment with a text and, in its metadata, a date. -/
def entry (text : String) (date : Json) : Property :=
  (Property.ofNameValue propertyName (.str text)).withMetadata createdEntry date

/-- Comments with dates that come twice, are no integers or are too large. -/
def entries : List Property :=
  [entry "a" (.int 5), entry "b" (.str "1"), entry "c" (.int 9223372036854775808),
    entry "d" (.int (-3)), entry "e" (.int 5)]

/-- The theorem applies to comments among which another property is put, and to an edge. -/
theorem thread_chronological_entries :
    let title := Property.ofNameValue "title" (.str "t")
    let e := (Entity.edge "e1" "knows" "v1" "v2").withField "properties"
      (.arr (entries.map Property.raw))
    (thread entries).map text = ["d", "a", "e", "b", "c"] ∧ (thread entries).Pairwise Before ∧
      thread (entries.take 2 ++ title :: entries.drop 2) = thread entries ∧
      View.comments ⟨.of e⟩ =
        View.comments ⟨.of (Entity.mk "v1" (.vertex .published entries) .empty)⟩ := by
  intro title e
  obtain ⟨-, -, -, -, -, -, hother, -⟩ :=
    thread_chronological (entries.take 2 ++ title :: entries.drop 2)
  obtain ⟨-, -, -, hsorted, -, -, -, hview⟩ := thread_chronological entries
  refine ⟨by decide +kernel, hsorted, ?_, ?_⟩
  · exact (hother (entries.take 2) title (entries.drop 2) rfl (by decide)).symm
  · exact hview e ⟨"v1", .vertex .published entries, .empty⟩ (entries.map Property.raw) .published
      (by decide +kernel) (by decide +kernel)

end Comment

end GraphStore
