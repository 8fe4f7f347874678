import GraphStore.Proofs.Graph.Equality
import GraphStore.Proofs.Store.Replica
import GraphStore.View.Basic

/-!
# Views and the store

A view is to show the copy of an entity that the store holds.  But when a message lists an entity
more than once, the view takes the first copy and the store keeps the last one.  So a view agrees
with the store after every command exactly when, for every command, the last message that lists
the entity lists equal copies first and last (`Emission.Converges`); this is
`View.follow_same_iff`.

A batch with two different versions of an entity breaks this: `View.stale_after_two_versions`.
-/

namespace GraphStore

/-- The first copy of an entity in a list. -/
def Entity.firstOf? {k : Kind} (id : String) (es : List (Entity k)) : Option (Entity k) :=
  es.find? fun e => e.id == id

namespace Emission

variable (k : Kind) (id : String)

/-- What the messages list of a kind, message by message. -/
def lists (e : Emission) : List (List (Entity k)) := e.messages.map (MainMessage.listed k)

/-- The last message that lists the entity, if one does, lists equal copies first and last. -/
def Converges (e : Emission) : Prop :=
  ∀ l, (e.lists k).reverse.find? (fun l => (Entity.firstOf? id l).isSome) = some l →
    ∀ a b, Entity.firstOf? id l = some a → Entity.lastOf? id l = some b → a.same b = true

theorem flatten_lists (e : Emission) : (e.lists k).flatten = e.listed k := rfl

end Emission

namespace Entity

variable {k : Kind} {id : String}

theorem id_of_firstOf? {es : List (Entity k)} {a : Entity k} (h : firstOf? id es = some a) :
    a.id = id := by
  simpa using List.find?_some (p := fun e : Entity k => e.id == id) h

theorem isSome_lastOf? (id : String) (es : List (Entity k)) :
    (lastOf? id es).isSome = (firstOf? id es).isSome := by
  rw [Bool.eq_iff_iff]
  simp only [lastOf?, firstOf?, List.find?_isSome, List.mem_reverse]

/-- The copy that a view of the entity shows after a list: the first one in the list, unless it
is equal to the one on show. -/
def refresh (e : Entity k) (es : List (Entity k)) : Entity k :=
  match firstOf? e.id es with
  | some a => if a.same e then e else a
  | none => e

theorem id_refresh (e : Entity k) (es : List (Entity k)) : (e.refresh es).id = e.id := by
  unfold refresh
  split
  next a ha =>
    split
    · rfl
    · exact id_of_firstOf? ha
  next => rfl

/-- After a list that has a copy of the entity, the first one is on show. -/
theorem refresh_same {e a : Entity k} {es : List (Entity k)} (h : firstOf? e.id es = some a)
    (b : Entity k) : (e.refresh es).same b = a.same b := by
  simp only [refresh, h]
  split
  next hs => exact same_congr_left (same_symm hs)
  next => rfl

theorem refresh_of_none {e : Entity k} {es : List (Entity k)} (h : firstOf? e.id es = none) :
    e.refresh es = e := by
  simp only [refresh, h]

theorem id_foldl_refresh (e : Entity k) (ls : List (List (Entity k))) :
    (ls.foldl refresh e).id = e.id := by
  induction ls generalizing e with
  | nil => rfl
  | cons l ls ih => exact (ih (e.refresh l)).trans (e.id_refresh l)

/-- What is on show after several lists, and what they list last: both come from the last list
that has a copy of the entity, if there is one. -/
inductive Refreshed (e : Entity k) (ls : List (List (Entity k))) : Prop
  /-- No list has a copy. -/
  | untouched (h : ls.reverse.find? (fun l => (firstOf? e.id l).isSome) = none)
    (hshown : ls.foldl refresh e = e) (hlast : lastOf? e.id ls.flatten = none)
  /-- The last list that has a copy has `a` as the first one and `b` as the last one. -/
  | touched {l a b} (h : ls.reverse.find? (fun l => (firstOf? e.id l).isSome) = some l)
    (ha : firstOf? e.id l = some a) (hb : lastOf? e.id l = some b)
    (hshown : ∀ c, (ls.foldl refresh e).same c = a.same c)
    (hlast : lastOf? e.id ls.flatten = some b)

theorem refreshed (e : Entity k) (ls : List (List (Entity k))) : Refreshed e ls := by
  induction ls using List.reverseRecOn with
  | nil => exact .untouched rfl rfl rfl
  | append_singleton ls l ih =>
    have hfold : (ls ++ [l]).foldl refresh e = (ls.foldl refresh e).refresh l := by simp
    have hflat : lastOf? e.id (ls ++ [l]).flatten =
        (lastOf? e.id l).or (lastOf? e.id ls.flatten) := by simp
    cases ha : firstOf? e.id l with
    -- the list has a copy, so what came before it does not matter
    | some a =>
      obtain ⟨b, hb⟩ := Option.isSome_iff_exists.1 ((isSome_lastOf? e.id l).trans (by rw [ha]; rfl))
      refine .touched (l := l) (by simp [ha]) ha hb (fun c => ?_) (by rw [hflat, hb]; rfl)
      rw [hfold]
      exact refresh_same ((id_foldl_refresh e ls).symm ▸ ha) c
    | none =>
      have hb : lastOf? e.id l = none := by
        have := isSome_lastOf? e.id l
        rw [ha] at this
        simpa using this
      have hkeep : (ls.foldl refresh e).refresh l = ls.foldl refresh e :=
        refresh_of_none ((id_foldl_refresh e ls).symm ▸ ha)
      cases ih with
      | untouched h hshown hlast =>
        exact .untouched (by simpa [ha] using h) (by rw [hfold, hkeep, hshown])
          (by rw [hflat, hb, hlast]; rfl)
      | touched h ha' hb' hshown hlast =>
        exact .touched (by simpa [ha] using h) ha' hb' (by rw [hfold, hkeep]; exact hshown)
          (by rw [hflat, hb, hlast]; rfl)

end Entity

/-- A view and the store agree after messages exactly when the messages converge. -/
theorem Emission.same_foldl_refresh_iff {k : Kind} {e h : Entity k} (hsame : e.same h = true)
    (emission : Emission) :
    ((emission.lists k).foldl Entity.refresh e).same
        ((Entity.lastOf? e.id (emission.listed k)).getD h) = true ↔
      emission.Converges k e.id := by
  rw [← flatten_lists]
  cases Entity.refreshed e (emission.lists k) with
  | untouched hfind hshown hlast =>
    rw [hshown, hlast]
    refine ⟨fun _ l hl => ?_, fun _ => hsame⟩
    rw [hfind] at hl
    cases hl
  | touched hfind ha hb hshown hlast =>
    rw [hlast, Option.getD_some, hshown]
    constructor
    · intro hab l hl a' b' ha' hb'
      rw [hfind] at hl
      cases hl
      rw [ha] at ha'
      rw [hb] at hb'
      cases ha'
      cases hb'
      exact hab
    · intro hconverges
      exact hconverges _ hfind _ _ ha hb

namespace View

variable {k : Kind}

/-- The view after messages. -/
def follow (v : View) (messages : List MainMessage) : View :=
  messages.foldl (fun v message => (v.receive message).1) v

theorem same_of (a b : Entity k) : (AnyEntity.of a).same (.of b) = a.same b := by
  cases k <;> rfl

/-- A view of an entity shows another copy of it after a message. -/
theorem receive_of (e : Entity k) (message : MainMessage) :
    ((⟨.of e⟩ : View).receive message).1 = ⟨.of (e.refresh (message.listed k))⟩ := by
  cases message with
  | workspaceLoaded | edgesLoaded => rfl
  | storeObjectsUpdated update =>
    have hcopy : (⟨.of e⟩ : View).copyIn? update =
        (Entity.firstOf? e.id (update.listed k)).map .of := rfl
    simp only [receive, apply, hcopy, MainMessage.listed, Entity.refresh]
    cases Entity.firstOf? e.id (update.listed k) with
    | none => rfl
    | some a =>
      simp only [Option.map_some, same_of]
      split <;> rfl

theorem follow_of (e : Entity k) (messages : List MainMessage) :
    (⟨.of e⟩ : View).follow messages =
      ⟨.of ((messages.map (MainMessage.listed k)).foldl Entity.refresh e)⟩ := by
  induction messages generalizing e with
  | nil => rfl
  | cons message rest ih =>
    rw [follow, List.foldl_cons, receive_of]
    exact ih _

variable {d : Desk} {w : String} {h : Entity k} {cs : List Command}

theorem exists_follow_sent (d : Desk) (h : Entity k) (cs : List Command) :
    ∃ e : Entity k, e.id = h.id ∧ (⟨.of h⟩ : View).follow (d.sent cs) = ⟨.of e⟩ :=
  ⟨_, Entity.id_foldl_refresh h _, follow_of h _⟩

/-- A command after which a view agrees with the store, when it agreed before. -/
theorem same_perform_iff {c : Command} {p : List Command}
    (hs : Desk.Steady w k [h.id] d (p ++ [c])) {a : Entity k}
    (ha : (d.reached p).held? w k h.id = some a)
    (hsame : ((⟨.of h⟩ : View).follow (d.sent p)).entity.same (.of a) = true) :
    (∃ b, (d.reached (p ++ [c])).held? w k h.id = some b ∧
      ((⟨.of h⟩ : View).follow (d.sent (p ++ [c]))).entity.same (.of b) = true) ↔
    ((d.reached p).perform c).2.2.Converges k h.id := by
  obtain ⟨e, hid, he⟩ := exists_follow_sent d h p
  obtain ⟨hcurrent, hstore, hkept, -⟩ := hs.rest
  have hheld' := (Desk.held?_perform hstore hcurrent (by rw [ha]; rfl)
    (hkept h.id (List.mem_singleton_self _))).2
  have hview : (⟨.of h⟩ : View).follow (d.sent (p ++ [c])) =
      (⟨.of e⟩ : View).follow ((d.reached p).perform c).2.2.messages := by
    rw [Desk.sent_snoc, follow, List.foldl_append]
    exact congrArg (View.follow · _) he
  rw [he, same_of] at hsame
  rw [Desk.reached_snoc, hheld', ha, hview, follow_of, ← hid,
    ← Emission.same_foldl_refresh_iff hsame, Option.or_some]
  constructor
  · rintro ⟨b, hb, hshown⟩
    cases hb
    exact (same_of _ _).symm.trans hshown
  · intro hshown
    exact ⟨_, rfl, (same_of _ _).trans hshown⟩

/-- **When views converge.**  Along a steady run, a view that starts with the copy held and takes
every message agrees with the store after every command exactly when the messages of every command
converge. -/
theorem follow_same_iff (hs : Desk.Steady w k [h.id] d cs)
    (hheld : d.held? w k h.id = some h) :
    (∀ p, p <+: cs → ∃ a, (d.reached p).held? w k h.id = some a ∧
      ((⟨.of h⟩ : View).follow (d.sent p)).entity.same (.of a) = true) ↔
    ∀ p c, p ++ [c] <+: cs → ((d.reached p).perform c).2.2.Converges k h.id := by
  constructor
  · rintro hall p c ⟨q, rfl⟩
    obtain ⟨a, ha, hsame⟩ := hall p ⟨[c] ++ q, by simp⟩
    exact (same_perform_iff hs.of_append ha hsame).1 (hall (p ++ [c]) ⟨q, rfl⟩)
  · intro hconverges p hp
    induction p using List.reverseRecOn with
    | nil => exact ⟨h, hheld, (same_of h h).trans h.same_refl⟩
    | append_singleton p c ih =>
      obtain ⟨a, ha, hsame⟩ := ih ((List.prefix_append p [c]).trans hp)
      have hs' : Desk.Steady w k [h.id] d (p ++ [c]) := by
        obtain ⟨q, rfl⟩ := hp
        exact hs.of_append
      exact (same_perform_iff hs' ha hsame).2 (hconverges p c hp)

/-- The theorem applies to a batch with two versions of a vertex. -/
theorem follow_same_iff_twoVersions :
    Desk.oneVertex.held? "w1" .vertex "v1" = some (.vertex "v1" .published) ∧
      ((∀ p, p <+: Desk.twoVersions → ∃ a, (Desk.oneVertex.reached p).held? "w1" .vertex "v1" =
          some a ∧ ((⟨.of (Entity.vertex "v1" .published)⟩ : View).follow
            (Desk.oneVertex.sent p)).entity.same (.of a) = true) ↔
        ∀ p c, p ++ [c] <+: Desk.twoVersions →
          ((Desk.oneVertex.reached p).perform c).2.2.Converges .vertex "v1") := by
  have hheld : Desk.oneVertex.held? "w1" .vertex "v1" = some (.vertex "v1" .published) := by
    decide +kernel
  exact ⟨hheld, follow_same_iff (h := .vertex "v1" .published) Desk.steady_twoVersions hheld⟩

/-- A view that shows the first of two versions in a batch, while the store holds the second. -/
theorem stale_after_two_versions :
    Desk.Steady "w1" .vertex ["v1"] Desk.oneVertex Desk.twoVersions ∧
      Desk.oneVertex.held? "w1" .vertex "v1" = some (.vertex "v1" .published) ∧
      (Desk.oneVertex.reached Desk.twoVersions).held? "w1" .vertex "v1" =
        some (.vertex "v1" .publishedChanged) ∧
      ((⟨.of (Entity.vertex "v1" .published)⟩ : View).follow
        (Desk.oneVertex.sent Desk.twoVersions)).entity =
          .of (Entity.vertex "v1" .unpublished) ∧
      (AnyEntity.of (Entity.vertex "v1" .unpublished)).same
        (.of (Entity.vertex "v1" .publishedChanged)) = false :=
  ⟨Desk.steady_twoVersions, by decide +kernel, by decide +kernel, by decide +kernel, by decide⟩

end View

end GraphStore
