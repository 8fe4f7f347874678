import GraphStore.Json.Parser
import GraphStore.Proofs.SortedMap
import Mathlib.Logic.Basic
import Mathlib.Tactic.SplitIfs

/-!
# Canonical values

The fields of a canonical object stand by strictly increasing name.  So a canonical object is given
by what is under each name, and `Json.canonical` leaves it as it is.

* `Json.memberInduction` : induction over a value through its members.
* `Json.Canonical.canonical_eq`, `Json.canonical_canonical` : `Json.canonical` ends in the canonical
  values and changes none of them.
* `Json.canonical_of_parse?` : every value that is read from a text is canonical.  The parser keeps
  the containers that are still open canonical (`Json.Builder.Canonical`), and so does every token.
-/

namespace GraphStore.Json

/-! ### Members -/

/-- What holds of every value of which it holds for all members holds of every value. -/
@[elab_as_elim]
theorem memberInduction {motive : Json → Prop} (null : motive null)
    (bool : ∀ value, motive (bool value)) (num : ∀ value, motive (num value))
    (str : ∀ value, motive (str value))
    (arr : ∀ items, (∀ a ∈ items, motive a) → motive (arr items))
    (obj : ∀ fields, (∀ f ∈ fields, motive f.2) → motive (obj fields)) (a : Json) : motive a :=
  @Json.rec motive (fun items => ∀ a ∈ items, motive a) (fun fields => ∀ f ∈ fields, motive f.2)
    (fun f => motive f.2) null bool num str arr obj
    nofun (fun _ _ ha hitems => List.forall_mem_cons.2 ⟨ha, hitems⟩)
    nofun (fun _ _ hf hfields => List.forall_mem_cons.2 ⟨hf, hfields⟩)
    (fun _ _ ha => ha) a

theorem canonicalItems_iff {items : List Json} :
    CanonicalItems items ↔ ∀ a ∈ items, a.Canonical := by
  induction items with
  | nil => simp [CanonicalItems]
  | cons a items ih => simp [CanonicalItems, ih]

theorem canonicalFields_iff {fields : List (String × Json)} :
    CanonicalFields fields ↔ ∀ f ∈ fields, f.2.Canonical := by
  induction fields with
  | nil => simp [CanonicalFields]
  | cons f fields ih =>
    obtain ⟨name, a⟩ := f
    simp [CanonicalFields, CanonicalField, ih]

theorem canonicalItems_eq (items : List Json) : canonicalItems items = items.map canonical := by
  induction items with
  | nil => rfl
  | cons a items ih => simp [canonicalItems, ih]

theorem canonicalFields_eq (fields : List (String × Json)) :
    canonicalFields fields = fields.map fun f => (f.1, f.2.canonical) := by
  induction fields with
  | nil => rfl
  | cons f fields ih =>
    obtain ⟨name, a⟩ := f
    simp [canonicalFields, canonicalField, ih]

/-! ### The canonical form -/

theorem Canonical.of_get? {fields : List (String × Json)} {name : String} {a : Json}
    (h : (obj fields).Canonical) (ha : Assoc.get? name fields = some a) : a.Canonical :=
  canonicalFields_iff.1 h.2 _ (Assoc.mem_of_get? ha)

theorem Canonical.of_field? {a b : Json} {name : String} (h : a.Canonical)
    (hb : a.field? name = some b) : b.Canonical := by
  cases a with
  | obj fields => exact h.of_get? hb
  | _ => cases hb

theorem get?_canonicalFields (fields : List (String × Json)) (name : String) :
    (SortedMap.ofList (canonicalFields fields)).get? name =
      (Assoc.get? name fields.reverse).map canonical := by
  rw [SortedMap.get?_ofList, canonicalFields_eq, ← List.map_reverse, Assoc.get?_map]

/-- A canonical value is in canonical form already. -/
theorem Canonical.canonical_eq {a : Json} (h : a.Canonical) : a.canonical = a := by
  induction a using memberInduction with
  | null | bool | num | str => rfl
  | arr items ih =>
    have hitems : items.map canonical = items.map id :=
      List.map_congr_left fun a ha => ih a ha (canonicalItems_iff.1 h a ha)
    rw [canonical, canonicalItems_eq, hitems, List.map_id]
  | obj fields ih =>
    have hfields : (fields.map fun f => (f.1, f.2.canonical)) = fields.map id :=
      List.map_congr_left fun f hf =>
        congrArg (Prod.mk f.1) (ih f hf (canonicalFields_iff.1 h.2 f hf))
    rw [canonical, canonicalFields_eq, hfields, List.map_id, SortedMap.entries_ofList h.1]

theorem canonical_canonical (a : Json) : a.canonical.Canonical := by
  induction a using memberInduction with
  | null | bool | num | str => trivial
  | arr items ih =>
    rw [canonical, canonicalItems_eq]
    refine canonicalItems_iff.2 fun a ha => ?_
    obtain ⟨b, hb, rfl⟩ := List.mem_map.1 ha
    exact ih b hb
  | obj fields ih =>
    refine ⟨(SortedMap.ofList (canonicalFields fields)).sorted, canonicalFields_iff.2 ?_⟩
    rintro ⟨name, a⟩ ha
    have hlast : (SortedMap.ofList (canonicalFields fields)).get? name = some a :=
      Assoc.get?_of_mem (SortedMap.sorted _) ha
    rw [get?_canonicalFields, Option.map_eq_some_iff] at hlast
    obtain ⟨b, hb, rfl⟩ := hlast
    exact ih (name, b) (List.mem_reverse.1 (Assoc.mem_of_get? hb))

/-! ### What is read is canonical -/

/-- The value that a token holds is canonical. -/
def Token.Canonical (t : Token) : Prop := ∀ a, t = .scalar a → a.Canonical

theorem canonical_of_wordValue? {cs : List Char} {a : Json} (h : wordValue? cs = some a) :
    a.Canonical := by
  unfold wordValue? at h
  split_ifs at h
  · cases h; trivial
  · cases h; trivial
  · cases h; trivial
  · simp only [Option.bind_eq_bind, Option.bind_eq_some_iff] at h
    obtain ⟨_, -, _, -, h⟩ := h
    cases h
    trivial

theorem canonical_of_stepBetween {c : Char} {scan : Scan} {t : Token}
    (h : stepBetween c = some (scan, some t)) : t.Canonical := by
  unfold stepBetween at h
  split_ifs at h <;> try cases h
  obtain ⟨t', ht, h⟩ := Option.map_eq_some_iff.1 h
  cases h
  unfold punctuation? at ht
  split at ht <;> cases ht <;> intro a ha <;> cases ha

theorem canonical_of_step {scan scan' : Scan} {c : Char} {ts : List Token}
    (h : step scan c = some (scan', ts)) : ∀ t ∈ ts, t.Canonical := by
  -- the token that a character between tokens is
  have hbetween {scan} {token : Option Token} (h : stepBetween c = some (scan, token)) :
      ∀ t ∈ token.toList, t.Canonical := by
    intro t ht
    obtain rfl := Option.mem_toList.1 ht
    exact canonical_of_stepBetween h
  cases scan with
  | between =>
    obtain ⟨_, hc, h⟩ := Option.bind_eq_some_iff.1 h
    cases h
    exact hbetween hc
  | word read =>
    simp only [step] at h
    split_ifs at h
    · cases h
      simp
    · obtain ⟨a, ha, h⟩ := Option.bind_eq_some_iff.1 h
      obtain ⟨_, hc, h⟩ := Option.bind_eq_some_iff.1 h
      cases h
      rintro t (_ | ⟨_, ht⟩)
      · rintro _ ⟨⟩
        exact canonical_of_wordValue? ha
      · exact hbetween hc t ht
  | inside read =>
    simp only [step] at h
    split_ifs at h <;> cases h <;> simp [Token.Canonical, Json.Canonical]
  | escape read =>
    simp only [step] at h
    split_ifs at h
    · cases h
      simp
    · obtain ⟨_, -, h⟩ := Option.map_eq_some_iff.1 h
      cases h
      simp
  | unit read high digits =>
    obtain ⟨_, -, h⟩ := Option.bind_eq_some_iff.1 h
    dsimp only at h
    split_ifs at h
    · cases h
      simp
    · obtain ⟨_, -, h⟩ := Option.bind_eq_some_iff.1 h
      cases h
      simp
  | paired | pairedEscape =>
    simp only [step] at h
    split_ifs at h
    cases h
    simp

theorem canonical_of_tokensFrom {scan : Scan} {cs : List Char} {ts : List Token}
    (h : tokensFrom scan cs = some ts) : ∀ t ∈ ts, t.Canonical := by
  induction cs generalizing scan ts with
  | nil =>
    cases scan <;> simp only [tokensFrom] at h <;> try cases h
    · simp
    · obtain ⟨a, ha, h⟩ := Option.bind_eq_some_iff.1 h
      cases h
      rintro t (_ | ⟨_, ⟨⟩⟩)
      rintro _ ⟨⟩
      exact canonical_of_wordValue? ha
  | cons c cs ih =>
    simp only [tokensFrom] at h
    obtain ⟨⟨scan', here⟩, hstep, h⟩ := Option.bind_eq_some_iff.1 h
    obtain ⟨rest, hrest, h⟩ := Option.bind_eq_some_iff.1 h
    cases h
    intro t ht
    rcases List.mem_append.1 ht with ht | ht
    · exact canonical_of_step hstep t ht
    · exact ih hrest t ht

/-- The values in an open container are canonical. -/
def Container.Canonical : Container → Prop
  | .array items => CanonicalItems items
  | .object fields _ => CanonicalFields fields.entries

namespace Builder

/-- Every value that is complete is canonical. -/
structure Canonical (b : Builder) : Prop where
  /-- In the open containers. -/
  containers : ∀ c ∈ b.openContainers, c.Canonical
  /-- At the end. -/
  stage : ∀ a, b.stage = .complete a → a.Canonical

variable {containers : List Container} {t : Token} {b b' : Builder} {limit : Nat}

theorem Canonical.put {a : Json} (ha : a.Canonical) (h : ∀ c ∈ containers, c.Canonical) :
    (put a containers).Canonical := by
  match containers, h with
  | [], h => exact ⟨h, fun b hb => Stage.complete.inj hb ▸ ha⟩
  | .array items :: rest, h =>
    obtain ⟨hitems, hrest⟩ := List.forall_mem_cons.1 h
    have hall : (Container.array (a :: items)).Canonical := ⟨ha, hitems⟩
    exact ⟨List.forall_mem_cons.2 ⟨hall, hrest⟩, nofun⟩
  | .object fields name :: rest, h =>
    obtain ⟨hfields, hrest⟩ := List.forall_mem_cons.1 h
    have hall : (Container.object (fields.insert name a) name).Canonical := by
      refine canonicalFields_iff.2 fun f hf => ?_
      rcases Assoc.mem_insert hf with rfl | hf
      · exact ha
      · exact canonicalFields_iff.1 hfields f hf
    exact ⟨List.forall_mem_cons.2 ⟨hall, hrest⟩, nofun⟩

theorem Canonical.enter {c : Container} {stage : Stage} (hc : c.Canonical)
    (h : ∀ c ∈ containers, c.Canonical) (hb : enter limit c stage containers = some b)
    (hstage : ∀ a, stage ≠ .complete a) : b.Canonical := by
  unfold Builder.enter at hb
  split_ifs at hb
  cases hb
  exact ⟨List.forall_mem_cons.2 ⟨hc, h⟩, fun a ha => absurd ha (hstage a)⟩

theorem Canonical.beginValue (h : ∀ c ∈ containers, c.Canonical) (ht : t.Canonical)
    (hb : beginValue limit containers t = some b) : b.Canonical := by
  cases t with
  | scalar a =>
    cases hb
    exact .put (ht a rfl) h
  | openArray =>
    have hempty : (Container.array []).Canonical := trivial
    exact .enter hempty h hb nofun
  | openObject =>
    have hempty : (Container.object .empty "").Canonical := trivial
    exact .enter hempty h hb nofun
  | closeArray | closeObject | comma | colon => cases hb

theorem Canonical.beginField (h : ∀ c ∈ containers, c.Canonical)
    (hb : beginField containers t = some b) : b.Canonical := by
  unfold Builder.beginField at hb
  split at hb
  · split at hb
    · cases hb
      obtain ⟨hfields, hrest⟩ := List.forall_mem_cons.1 h
      have hnamed : ∀ name, (Container.object _ name).Canonical := fun _ => hfields
      exact ⟨List.forall_mem_cons.2 ⟨hnamed _, hrest⟩, nofun⟩
    · cases hb
  · cases hb

theorem Canonical.close (h : ∀ c ∈ containers, c.Canonical)
    (hb : close containers t = some b) : b.Canonical := by
  match containers, t, h, hb with
  | .array items :: rest, .closeArray, h, hb =>
    cases hb
    obtain ⟨hitems, hrest⟩ := List.forall_mem_cons.1 h
    refine .put (canonicalItems_iff.2 fun a ha => ?_) hrest
    exact canonicalItems_iff.1 hitems a (List.mem_reverse.1 ha)
  | .object fields name :: rest, .closeObject, h, hb =>
    cases hb
    obtain ⟨hfields, hrest⟩ := List.forall_mem_cons.1 h
    exact .put ⟨fields.sorted, hfields⟩ hrest

theorem Canonical.step (h : b.Canonical) (ht : t.Canonical)
    (hb : Builder.step limit b t = some b') : b'.Canonical := by
  unfold Builder.step at hb
  split at hb
  · exact .beginValue h.containers ht hb
  · exact .close h.containers hb
  · exact .beginValue h.containers ht hb
  · exact .close h.containers hb
  · exact .beginField h.containers hb
  · exact .beginField h.containers hb
  · cases hb
    exact ⟨h.containers, nofun⟩
  · split at hb <;> cases hb
    · exact ⟨h.containers, nofun⟩
    · exact ⟨h.containers, nofun⟩
  · exact .close h.containers hb
  · cases hb

theorem Canonical.run (h : b.Canonical) {ts : List Token} (hts : ∀ t ∈ ts, t.Canonical)
    (hb : ts.foldlM (Builder.step limit) b = some b') : b'.Canonical := by
  induction ts generalizing b with
  | nil =>
    cases hb
    exact h
  | cons t ts ih =>
    obtain ⟨_, hstep, hb⟩ := Option.bind_eq_some_iff.1 hb
    obtain ⟨ht, hts⟩ := List.forall_mem_cons.1 hts
    exact ih (h.step ht hstep) hts hb

end Builder

/-- Every value that is read from a text is canonical. -/
theorem canonical_of_parse? {cs : List Char} {a : Json} (h : parse? cs = some a) :
    a.Canonical := by
  obtain ⟨ts, hts, h⟩ := Option.bind_eq_some_iff.1 h
  obtain ⟨b, hb, h⟩ := Option.bind_eq_some_iff.1 h
  have hstart : Builder.start.Canonical := ⟨nofun, nofun⟩
  have hend : b.Canonical := hstart.run (canonical_of_tokensFrom hts) hb
  cases hstage : b.stage with
  | complete value =>
    rw [hstage] at h
    cases h
    exact hend.stage a hstage
  | _ =>
    rw [hstage] at h
    cases h

end GraphStore.Json
