import GraphStore.Proofs.Store.Boundaries
import GraphStore.Proofs.Store.Isolation

/-!
# Room for what comes in

An entity that is put into a full cache costs another one its place, and so what becomes of one
entity can depend on all others.  As long as there is room for what comes in, each entity meets only
the record of its own id, and leaves all others alone.

* `Turn.Fits` : a turn that costs no other entity its place.  Every turn fits, or some record
  departs for want of room (`Turn.Leads.fits_or_departs`).
* `Store.Intake.find?_takeAll_of_not_mem`, `Store.Intake.takeAll_congr` : where there is room, the
  records of other ids stay, and what is told depends on the records of the own ids only.
* `Store.Overflows` : batches cost some entity its place.  When all departures are told, this is to
  say that one for want of room is (`Store.Watched.overflows_iff`).
-/

namespace GraphStore

variable {settings : StoreSettings} {policy : Policy} {k : Kind}

/-! ### A turn that fits -/

namespace Turn

/-- What departs for the entity of a turn when there is room: the version whose place it takes. -/
def displaced (t : Turn k) : List (Departure (Entity k)) :=
  if t.verdict = .updated then t.found.toList.flatMap fun r => r.depart .replaced else []

/-- What a turn leaves under an id when there is room for its entity. -/
def leaves (policy : Policy) (t : Turn k) (id : String) (found : Option (Record (Entity k))) :
    Option (Record (Entity k)) :=
  if t.verdict ≠ .unchanged ∧ id = t.entity.id then
    some ⟨id, t.entity, policy, Store.moment⟩
  else found

/-- The turn costs no other entity its place. -/
structure Fits (policy : Policy) (c : Cache (Entity k)) (t : Turn k) (c' : Cache (Entity k))
    (departures : List (Departure (Entity k))) : Prop where
  /-- Only an older version departs. -/
  departures : departures = t.displaced
  /-- Only what is under the id of the entity changes. -/
  find? : ∀ id, c'.find? id = t.leaves policy id (c.find? id)

theorem isSome_leaves {t : Turn k} {id : String} {found : Option (Record (Entity k))}
    (h : found.isSome) : (t.leaves policy id found).isSome := by
  unfold leaves
  split
  · rfl
  · exact h

variable {c c' : Cache (Entity k)} {e : Entity k} {departures : List (Departure (Entity k))}

theorem fits_seat {t : Turn k} (hv : t.verdict ≠ .unchanged) (hd : departures = t.displaced) :
    t.Fits policy c (c.seat Store.moment t.entity.id t.entity policy) departures := by
  refine ⟨hd, fun id => ?_⟩
  rw [Cache.find?_seat, leaves]
  by_cases hid : id = t.entity.id
  · rw [if_pos hid, if_pos ⟨hv, hid⟩, hid]
  · rw [if_neg hid, if_neg fun h => hid h.2]

/-- A turn fits, or a record departs for want of room that stood in the cache. -/
theorem Leads.fits_or_departs (h : (Turn.of settings c e).Leads policy c (c', departures))
    (hkept : c.Kept settings) : (Turn.of settings c e).Fits policy c c' departures ∨
      ∃ r ∈ c.records, c'.find? r.key = none ∧ departures = r.depart .capacity := by
  cases h with
  | unchanged hv => exact .inl ⟨by simp [displaced, hv], fun id => by simp [leaves, hv]⟩
  | @updated r hv hf =>
    have hfound : (Turn.of settings c e).found = some r := hf
    exact .inl (fits_seat (by simp [hv]) (by simp [displaced, hv, hfound]))
  | added hv => exact .inl (fits_seat (by simp [hv]) (by simp [displaced, hv]))
  | @crowded r rest hv hf hfull hr =>
    refine .inr ⟨r, ?_, ?_, rfl⟩
    · -- the cache may hold one record at least, so the entity itself is not the first one
      have hne : c.records ≠ [] := by
        intro hnil
        have hcap := hkept.capacity
        rw [← hfull, Cache.size, hnil, List.length_nil] at hcap
        omega
      rw [Cache.records_seat, c.without_of_not_mem ((c.find?_eq_none_iff).1 hf)] at hr
      obtain ⟨s, rest', hs⟩ := List.exists_cons_of_ne_nil hne
      rw [hs, List.cons_append] at hr
      rw [hs, (List.cons.inj hr).1]
      exact List.mem_cons_self
    · exact ((Cache.find?_evict _ r .capacity r.key)).trans (if_pos rfl)

end Turn

namespace Store

namespace Intake

/-! ### Losses of an intake -/

section

variable {cache : Cache (Entity k)} {es fs : List (Entity k)} {id : String} {e : Entity k}

theorem drops_append_iff : Drops settings policy cache (es ++ fs) id ↔
    Drops settings policy cache es id ∨
      Drops settings policy (takeAll settings policy cache es).cache fs id := by
  have hheld (before : List (Entity k)) :
      (takeAll settings policy cache (es ++ before)).held id =
        (takeAll settings policy (takeAll settings policy cache es).cache before).held id :=
    congrArg (·.peek moment id) (cache_takeAll_append settings policy cache es before)
  constructor
  · rintro ⟨before, e, after, heq, hbefore, hafter⟩
    -- the entity at whose turn `id` is lost is one of `fs` or one of `es`
    rcases List.append_eq_append_iff.1 heq with ⟨rest, rfl, rfl⟩ | ⟨rest, rfl, hrest⟩
    · rw [hheld] at hbefore
      rw [List.append_assoc, hheld] at hafter
      exact .inr ⟨rest, e, after, rfl, hbefore, hafter⟩
    · cases rest with
      | nil =>
        obtain rfl := hrest
        rw [List.append_nil] at hheld ⊢
        have hstart := hheld []
        rw [List.append_nil] at hstart
        rw [hstart] at hbefore
        rw [hheld] at hafter
        exact .inr ⟨[], e, after, rfl, hbefore, hafter⟩
      | cons e' rest =>
        obtain ⟨rfl, rfl⟩ := List.cons.inj hrest
        exact .inl ⟨before, e, rest, rfl, hbefore, hafter⟩
  · rintro (h | ⟨before, e, after, rfl, hbefore, hafter⟩)
    · exact h.append_right fs
    · refine ⟨es ++ before, e, after, by simp, ?_, ?_⟩
      · rw [hheld]
        exact hbefore
      · rw [List.append_assoc, hheld]
        exact hafter

theorem drops_singleton_iff : Drops settings policy cache [e] id ↔
    (cache.peek moment id).isSome ∧
      (takeAll settings policy cache [e]).cache.peek moment id = none := by
  constructor
  · rintro ⟨before, e', after, heq, hbefore, hafter⟩
    obtain ⟨rfl, hsingle⟩ | ⟨rest, rfl, hrest⟩ := List.cons_eq_append_iff.1 heq
    · obtain ⟨rfl, -⟩ := List.cons.inj hsingle
      exact ⟨hbefore, hafter⟩
    · simp at hrest
  · rintro ⟨hbefore, hafter⟩
    exact ⟨[], e, [], rfl, hbefore, hafter⟩

end

/-- Some entity loses its place while entities are taken in. -/
def Overflows (settings : StoreSettings) (policy : Policy) (cache : Cache (Entity k))
    (es : List (Entity k)) : Prop := ∃ id, Drops settings policy cache es id

section

variable {cache : Cache (Entity k)} {es fs : List (Entity k)} {e : Entity k}

theorem not_overflows_nil : ¬ Overflows settings policy cache [] := by
  rintro ⟨id, before, e, after, heq, -⟩
  simp at heq

theorem overflows_append_iff : Overflows settings policy cache (es ++ fs) ↔
    Overflows settings policy cache es ∨
      Overflows settings policy (takeAll settings policy cache es).cache fs := by
  simp only [Overflows, drops_append_iff, exists_or]

end

/-! ### Where there is room -/

section

variable {c d : Cache (Entity k)} {es : List (Entity k)} {e : Entity k}

/-- One entity has its turn. -/
theorem takeAll_singleton (h : c.Kept settings) (hhigh : policy.priority = .high)
    (hp : policy.Lasting) (e : Entity k) :
    ∃ c' departures, (Turn.of settings c e).Leads policy c (c', departures) ∧
      takeAll settings policy c [e] = ⟨c', Tally.zero.count (Turn.of settings c e).verdict,
        (Turn.judged .updated [Turn.of settings c e]).map Turn.entity, departures⟩ :=
  take_leads (i := start c) h hhigh hp e

/-- An entity costs another one its place exactly when its turn does not fit; then a record departs
for want of room. -/
theorem overflows_singleton (h : c.Kept settings) (hhigh : policy.priority = .high)
    (hp : policy.Lasting) (e : Entity k) :
    ¬ Overflows settings policy c [e] ∧
        (Turn.of settings c e).Fits policy c (takeAll settings policy c [e]).cache
          (takeAll settings policy c [e]).departures ∨
      Overflows settings policy c [e] ∧
        ∃ r ∈ c.records, (takeAll settings policy c [e]).departures = r.depart .capacity := by
  have hkept := kept_takeAll h hhigh hp [e]
  obtain ⟨c', departures, hleads, htake⟩ := takeAll_singleton h hhigh hp e
  have hpeek (id : String) := h.peek_eq moment id
  have hpeek' (id : String) := hkept.peek_eq moment id
  simp only [Overflows, drops_singleton_iff, hpeek, hpeek', Option.isSome_map,
    Option.map_eq_none_iff]
  rw [htake]
  rcases hleads.fits_or_departs h with hfits | ⟨r, hr, hgone, hdepart⟩
  · refine .inl ⟨?_, hfits⟩
    rintro ⟨id, hbefore, hafter⟩
    have hstays : ((Turn.of settings c e).leaves policy id (c.find? id)).isSome :=
      Turn.isSome_leaves hbefore
    rw [← hfits.find? id, hafter] at hstays
    cases hstays
  · refine .inr ⟨⟨r.key, ?_, hgone⟩, r, hr, hdepart⟩
    rw [c.find?_of_mem h.tidy.nodup hr]
    rfl

theorem fits_of_not_overflows (h : c.Kept settings) (hhigh : policy.priority = .high)
    (hp : policy.Lasting) (hroom : ¬ Overflows settings policy c [e]) :
    (Turn.of settings c e).Fits policy c (takeAll settings policy c [e]).cache
      (takeAll settings policy c [e]).departures := by
  rcases overflows_singleton h hhigh hp e with ⟨-, hfits⟩ | ⟨hover, -⟩
  · exact hfits
  · exact absurd hover hroom

theorem not_overflows_cons (h : ¬ Overflows settings policy c (e :: es)) :
    ¬ Overflows settings policy c [e] ∧
      ¬ Overflows settings policy (takeAll settings policy c [e]).cache es := by
  rw [← List.singleton_append, overflows_append_iff] at h
  exact not_or.1 h

theorem takeAll_cons (c : Cache (Entity k)) (e : Entity k) (es : List (Entity k)) :
    takeAll settings policy c (e :: es) = (takeAll settings policy c [e]).followedBy
      (takeAll settings policy (takeAll settings policy c [e]).cache es) :=
  takeAll_split settings policy c [e] es

/-- Where there is room, the records of other ids stay. -/
theorem find?_takeAll_of_not_mem (h : c.Kept settings) (hhigh : policy.priority = .high)
    (hp : policy.Lasting) (hroom : ¬ Overflows settings policy c es) {id : String}
    (hid : id ∉ es.map Entity.id) : (takeAll settings policy c es).cache.find? id = c.find? id := by
  induction es generalizing c with
  | nil => rfl
  | cons e es ih =>
    obtain ⟨hone, hrest⟩ := not_overflows_cons hroom
    rw [List.map_cons, List.mem_cons, not_or] at hid
    have hfits := fits_of_not_overflows h hhigh hp hone
    have hkept := kept_takeAll h hhigh hp [e]
    rw [takeAll_cons c e es, followedBy, ih hkept hrest hid.2, hfits.find? id]
    exact if_neg fun hown => hid.1 hown.2

/-- Where there is room, what is told depends on the records of the own ids only, and what is equal
under an id stays equal. -/
theorem takeAll_congr (hc : c.Kept settings) (hd : d.Kept settings)
    (hhigh : policy.priority = .high) (hp : policy.Lasting)
    (hroom : ¬ Overflows settings policy c es) (hroom' : ¬ Overflows settings policy d es)
    (hsame : ∀ e ∈ es, c.find? e.id = d.find? e.id) :
    ((takeAll settings policy c es).tally = (takeAll settings policy d es).tally ∧
      (takeAll settings policy c es).updated = (takeAll settings policy d es).updated ∧
      (takeAll settings policy c es).departures = (takeAll settings policy d es).departures) ∧
    ∀ id, c.find? id = d.find? id → (takeAll settings policy c es).cache.find? id =
      (takeAll settings policy d es).cache.find? id := by
  induction es generalizing c d with
  | nil => exact ⟨⟨rfl, rfl, rfl⟩, fun id h => h⟩
  | cons e es ih =>
    obtain ⟨hone, hrest⟩ := not_overflows_cons hroom
    obtain ⟨hone', hrest'⟩ := not_overflows_cons hroom'
    obtain ⟨hown, hothers⟩ := List.forall_mem_cons.1 hsame
    -- the entity has the same turn with both caches
    have hturn : Turn.of settings c e = Turn.of settings d e := by simp only [Turn.of, hown]
    have hfits := fits_of_not_overflows hc hhigh hp hone
    have hfits' := fits_of_not_overflows hd hhigh hp hone'
    have hfind (id : String) (h : c.find? id = d.find? id) :
        (takeAll settings policy c [e]).cache.find? id =
          (takeAll settings policy d [e]).cache.find? id := by
      rw [hfits.find? id, hfits'.find? id, hturn, h]
    have htold : (takeAll settings policy c [e]).tally = (takeAll settings policy d [e]).tally ∧
        (takeAll settings policy c [e]).updated = (takeAll settings policy d [e]).updated := by
      obtain ⟨_, _, -, htake⟩ := takeAll_singleton hc hhigh hp e
      obtain ⟨_, _, -, htake'⟩ := takeAll_singleton hd hhigh hp e
      rw [htake, htake', hturn]
      exact ⟨rfl, rfl⟩
    obtain ⟨⟨htally, hupdated, hdepartures⟩, hafter⟩ :=
      ih (kept_takeAll hc hhigh hp [e]) (kept_takeAll hd hhigh hp [e]) hrest hrest'
        fun f hf => hfind f.id (hothers f hf)
    rw [takeAll_cons c e es, takeAll_cons d e es]
    refine ⟨⟨?_, ?_, ?_⟩, fun id h => hafter id (hfind id h)⟩
    · simp only [followedBy, htold.1, htally]
    · simp only [followedBy, htold.2, hupdated]
    · simp only [followedBy, hfits.departures, hfits'.departures, hturn, hdepartures]

/-- When all departures are told, entities lose their places exactly when a departure for want of
room is told. -/
theorem overflows_iff_departed (h : c.Kept settings) (hhigh : policy.priority = .high)
    (hp : policy.Lasting) (hc : ∀ r ∈ c.records, r.policy.observed = true)
    (ho : policy.observed = true) : Overflows settings policy c es ↔
      ∃ dep ∈ (takeAll settings policy c es).departures, dep.cause = .capacity := by
  induction es generalizing c with
  | nil => exact iff_of_false not_overflows_nil (by simp [takeAll, start])
  | cons e es ih =>
    have hkept := kept_takeAll h hhigh hp [e]
    have hobserved : ∀ r ∈ (takeAll settings policy c [e]).cache.records,
        r.policy.observed = true :=
      fun r hr => ((books h hhigh hp [e]).2.2.stored r hr).observed hc ho
    have hone : Overflows settings policy c [e] ↔
        ∃ dep ∈ (takeAll settings policy c [e]).departures, dep.cause = .capacity := by
      rcases overflows_singleton h hhigh hp e with ⟨hroom, hfits⟩ | ⟨hover, r, hr, hdepart⟩
      · -- an entity that fits lets only the copy depart that it replaces
        refine iff_of_false hroom ?_
        rintro ⟨dep, hdep, hcause⟩
        rw [hfits.departures, Turn.displaced] at hdep
        split at hdep
        · obtain ⟨r, -, hdep⟩ := List.mem_flatMap.1 hdep
          rw [Record.cause_of_mem_depart hdep] at hcause
          cases hcause
        · cases hdep
      · refine iff_of_true hover ?_
        rw [hdepart, Record.depart_of_observed (hc r hr)]
        exact ⟨_, List.mem_singleton_self _, rfl⟩
    rw [takeAll_cons c e es, ← List.singleton_append, overflows_append_iff, hone,
      ih hkept hobserved]
    simp only [followedBy, List.mem_append, or_and_right, exists_or]

end

end Intake

end Store

/-! ### Batches for a workspace -/

namespace Store

/-- Batches that are taken in for a workspace cost some entity its place. -/
def Overflows (s : Store) (w : String) (bs : List Batch) : Prop :=
  ∃ k, Intake.Overflows s.settings s.policy ((s.partition w).cache k) (Batch.entitiesOf k bs)

section

variable (s : Store) (focus : Focus) (w : String) (bs cs : List Batch)

theorem isSome_partition?_cacheBatch (batch : List (Entity k)) :
    ((s.cacheBatch focus w k batch).1.partition? w).isSome := by
  rw [cacheBatch, partition?_withPartition, if_pos rfl]
  rfl

theorem isSome_partition?_takeIn : ((s.takeIn focus w bs).1.partition? w).isSome =
    ((s.partition? w).isSome || !bs.isEmpty) := by
  induction bs generalizing s with
  | nil => simp
  | cons b bs ih =>
    rw [takeIn_cons, ih, s.isSome_partition?_cacheBatch focus w b.entities]
    simp

theorem not_overflows_nil : ¬ s.Overflows w [] := by
  rintro ⟨k, hover⟩
  exact Intake.not_overflows_nil hover

theorem overflows_append : s.Overflows w (bs ++ cs) ↔
    s.Overflows w bs ∨ (s.takeIn focus w bs).1.Overflows w cs := by
  have hkind (k : Kind) :
      Intake.Overflows s.settings s.policy ((s.partition w).cache k)
          (Batch.entitiesOf k (bs ++ cs)) ↔
        Intake.Overflows s.settings s.policy ((s.partition w).cache k) (Batch.entitiesOf k bs) ∨
          Intake.Overflows (s.takeIn focus w bs).1.settings (s.takeIn focus w bs).1.policy
            (((s.takeIn focus w bs).1.partition w).cache k) (Batch.entitiesOf k cs) := by
    have htakes := s.takes_takeIn focus w k bs
    rw [Batch.entitiesOf_append, Intake.overflows_append_iff, htakes.settings, htakes.policy,
      htakes.cache]
  simp only [Overflows, hkind, exists_or]

theorem overflows_cons (b : Batch) : s.Overflows w (b :: bs) ↔
    s.Overflows w [b] ∨ (s.cacheBatch focus w b.kind b.entities).1.Overflows w bs := by
  rw [cacheBatch_eq]
  exact s.overflows_append focus w [b] bs

theorem overflows_batch (batch : List (Entity k)) : s.Overflows w [⟨k, batch⟩] ↔
    Intake.Overflows s.settings s.policy ((s.partition w).cache k) batch := by
  constructor
  · rintro ⟨l, hover⟩
    by_cases h : l = k
    · subst h
      rwa [Batch.entitiesOf_singleton] at hover
    · rw [Batch.entitiesOf_singleton_of_ne l h] at hover
      exact absurd hover Intake.not_overflows_nil
  · intro hover
    refine ⟨k, ?_⟩
    rwa [Batch.entitiesOf_singleton]

end

/-- When all departures are told, batches cost an entity its place exactly when a departure for
want of room is told. -/
theorem Watched.overflows_iff {s : Store} (hw : s.Watched) (hs : s.Settled settings)
    (focus : Focus) (w : String) (bs : List Batch) : s.Overflows w bs ↔
      ∃ dep ∈ (s.takeIn focus w bs).2.2.departures, dep.cause = .capacity := by
  induction bs generalizing s with
  | nil => exact iff_of_false (s.not_overflows_nil w) (by simp)
  | cons b bs ih =>
    have hone : s.Overflows w [b] ↔
        ∃ dep ∈ (s.cacheBatch focus w b.kind b.entities).2.2.departures,
          dep.cause = .capacity := by
      rw [s.overflows_batch w b.entities,
        Intake.overflows_iff_departed (hs.kept_self w b.kind) s.policy_priority s.policy_lasting
          (hw.held w b.kind) hw.coming]
      simp only [cacheBatch_eq_book, departures_book, List.mem_map, exists_exists_and_eq_and]
      rfl
    rw [s.overflows_cons focus w bs b, hone,
      ih (hw.cacheBatch hs focus w b.entities) (hs.cacheBatch focus w b.entities).1]
    simp only [takeIn_cons, Emission.departures_append, List.mem_append, or_and_right, exists_or]

end Store

end GraphStore
