import GraphStore.Proofs.Json.Canonical
import Mathlib.Data.List.Forall2
import Mathlib.Data.Option.Basic

/-!
# Values that agree

`Json.agree` compares values along their structure, and numbers by a relation that is given.  If
that relation is symmetric or transitive, so is the comparison (`Json.agree_symm`,
`Json.agree_trans`).

* `Json.agreeItems_iff_forall₂`, `Json.agreeFields_iff_forall₂` : items and fields are compared one
  by one.
* `Json.agreeFields_iff` : fields in order agree when they agree under every name.
* `Json.agree_canonical` : values that agree still do in canonical form.
-/

namespace GraphStore.Json

/-! ### One by one -/

section

variable {α : Type} {R S T : α → α → Prop} {as bs cs : List α}

theorem forall₂_swap (h : List.Forall₂ R as bs) (hS : ∀ a ∈ as, ∀ b, R a b → S b a) :
    List.Forall₂ S bs as := by
  induction h with
  | nil => exact .nil
  | cons hab _ ih =>
    obtain ⟨ha, hrest⟩ := List.forall_mem_cons.1 hS
    exact .cons (ha _ hab) (ih hrest)

theorem forall₂_trans (h : List.Forall₂ R as bs) (h' : List.Forall₂ S bs cs)
    (hT : ∀ a ∈ as, ∀ b c, R a b → S b c → T a c) : List.Forall₂ T as cs := by
  induction h generalizing cs with
  | nil =>
    cases h'
    exact .nil
  | cons hab _ ih =>
    obtain ⟨ha, hrest⟩ := List.forall_mem_cons.1 hT
    cases h' with
    | cons hbc h' => exact .cons (ha _ _ hab hbc) (ih h' hrest)

end

/-! ### Items and fields that agree -/

section

variable {eq : Number → Number → Bool}

theorem agreeItems_iff_forall₂ {as bs : List Json} :
    agreeItems eq as bs = true ↔ List.Forall₂ (fun a b => agree eq a b = true) as bs := by
  induction as generalizing bs with
  | nil => cases bs <;> simp [agreeItems]
  | cons a as ih => cases bs <;> simp [agreeItems, ih]

theorem agreeItems_iff {as bs : List Json} :
    agreeItems eq as bs = true ↔ as.length = bs.length ∧
      ∀ (i : Nat) (a b : Json), as[i]? = some a → bs[i]? = some b → agree eq a b = true := by
  rw [agreeItems_iff_forall₂, List.forall₂_iff_get]
  refine and_congr_right fun _ => ⟨fun h i a b ha hb => ?_, fun h i hi hi' => ?_⟩
  · obtain ⟨hi, rfl⟩ := List.getElem?_eq_some_iff.1 ha
    obtain ⟨hi', rfl⟩ := List.getElem?_eq_some_iff.1 hb
    exact h i hi hi'
  · exact h i _ _ (List.getElem?_eq_getElem hi) (List.getElem?_eq_getElem hi')

variable {as bs : List (String × Json)}

theorem agreeFields_iff_forall₂ : agreeFields eq as bs = true ↔
    List.Forall₂ (fun f g => f.1 = g.1 ∧ agree eq f.2 g.2 = true) as bs := by
  induction as generalizing bs with
  | nil => cases bs <;> simp [agreeFields]
  | cons f as ih =>
    cases bs with
    | nil => simp [agreeFields]
    | cons g bs =>
      obtain ⟨k, a⟩ := f
      obtain ⟨l, b⟩ := g
      simp [agreeFields, agreeField, ih]

/-- Both values are there and agree, or neither is there. -/
abbrev AgreeAt (eq : Number → Number → Bool) : Option Json → Option Json → Prop :=
  Option.Rel fun a b => agree eq a b = true

theorem AgreeAt.isSome_eq {o o' : Option Json} (h : AgreeAt eq o o') : o.isSome = o'.isSome := by
  cases h <;> rfl

theorem AgreeAt.map {o o' : Option Json} {f : Json → Json} (h : AgreeAt eq o o')
    (hf : ∀ a b, o = some a → agree eq a b = true → agree eq (f a) (f b) = true) :
    AgreeAt eq (o.map f) (o'.map f) := by
  cases h with
  | none => exact .none
  | some hab => exact .some (hf _ _ rfl hab)

/-- Fields that agree one by one agree under every name. -/
theorem agreeAt_of_agreeFields (h : agreeFields eq as bs = true) (name : String) :
    AgreeAt eq (Assoc.get? name as) (Assoc.get? name bs) := by
  induction agreeFields_iff_forall₂.1 h with
  | nil => exact .none
  | @cons f g as bs hfg hrest ih =>
    obtain ⟨k, a⟩ := f
    obtain ⟨l, b⟩ := g
    obtain ⟨rfl, hab⟩ : k = l ∧ agree eq a b = true := hfg
    by_cases hname : name = k
    · simpa [Assoc.get?, hname] using hab
    · simpa [Assoc.get?, hname] using ih (agreeFields_iff_forall₂.2 hrest)

/-- Fields in order that agree under every name agree one by one. -/
theorem agreeFields_of_agreeAt (has : Assoc.Sorted as) (hbs : Assoc.Sorted bs)
    (h : ∀ name, AgreeAt eq (Assoc.get? name as) (Assoc.get? name bs)) :
    agreeFields eq as bs = true := by
  induction as generalizing bs with
  | nil =>
    cases bs with
    | nil => rfl
    | cons b bs => simpa [Assoc.get?] using (h b.1).isSome_eq
  | cons a as ih =>
    cases bs with
    | nil => simpa [Assoc.get?] using (h a.1).isSome_eq
    | cons b bs =>
      obtain ⟨k, a⟩ := a
      obtain ⟨l, b⟩ := b
      -- each list has the first name of the other one
      have hname : k = l := by
        have hk : (Assoc.get? k ((l, b) :: bs)).isSome := by
          rw [← (h k).isSome_eq]
          simp [Assoc.get?]
        have hl : (Assoc.get? l ((k, a) :: as)).isSome := by
          rw [(h l).isSome_eq]
          simp [Assoc.get?]
        exact String.le_antisymm (Assoc.Sorted.le_of_isSome has hl)
          (Assoc.Sorted.le_of_isSome hbs hk)
      subst hname
      obtain ⟨hhead, htail⟩ := List.pairwise_cons.1 has
      obtain ⟨hhead', htail'⟩ := List.pairwise_cons.1 hbs
      have hab : agree eq a b = true := by simpa [Assoc.get?] using h k
      have hrest (name : String) : AgreeAt eq (Assoc.get? name as) (Assoc.get? name bs) := by
        by_cases hne : name = k
        · subst hne
          rw [Assoc.get?_eq_none_of_lt hhead, Assoc.get?_eq_none_of_lt hhead']
          exact .none
        · simpa [Assoc.get?, hne] using h name
      simp [agreeFields, agreeField, hab, ih htail htail' hrest]

theorem agreeFields_iff (has : Assoc.Sorted as) (hbs : Assoc.Sorted bs) :
    agreeFields eq as bs = true ↔
      ∀ name, AgreeAt eq (Assoc.get? name as) (Assoc.get? name bs) :=
  ⟨agreeAt_of_agreeFields, agreeFields_of_agreeAt has hbs⟩

end

/-! ### Values that agree -/

section

variable {eq : Number → Number → Bool} {a b c : Json}

theorem agree_symm (heq : ∀ m n, eq m n = true → eq n m = true) (h : agree eq a b = true) :
    agree eq b a = true := by
  induction a using memberInduction generalizing b with
  | null | bool | str => cases b <;> simp_all [agree]
  | num x =>
    cases b <;> simp only [agree, Bool.false_eq_true] at h ⊢
    exact heq _ _ h
  | arr as ih =>
    cases b <;> simp only [agree, Bool.false_eq_true, agreeItems_iff_forall₂] at h ⊢
    exact forall₂_swap h fun a ha b hab => ih a ha hab
  | obj as ih =>
    cases b <;> simp only [agree, Bool.false_eq_true, agreeFields_iff_forall₂] at h ⊢
    exact forall₂_swap h fun f hf g hfg => ⟨hfg.1.symm, ih f hf hfg.2⟩

theorem agree_trans (heq : ∀ l m n, eq l m = true → eq m n = true → eq l n = true)
    (h : agree eq a b = true) (h' : agree eq b c = true) : agree eq a c = true := by
  induction a using memberInduction generalizing b c with
  | null | bool | str => cases b <;> cases c <;> simp_all [agree]
  | num x =>
    cases b <;> cases c <;> simp only [agree, Bool.false_eq_true] at h h' ⊢
    exact heq _ _ _ h h'
  | arr as ih =>
    cases b <;> cases c <;>
      simp only [agree, Bool.false_eq_true, agreeItems_iff_forall₂] at h h' ⊢
    exact forall₂_trans h h' fun a ha b c hab hbc => ih a ha hab hbc
  | obj as ih =>
    cases b <;> cases c <;>
      simp only [agree, Bool.false_eq_true, agreeFields_iff_forall₂] at h h' ⊢
    exact forall₂_trans h h' fun f hf g e hfg hge => ⟨hfg.1.trans hge.1, ih f hf hfg.2 hge.2⟩

end

theorem agree_canonical {eq : Number → Number → Bool} {a b : Json} (h : agree eq a b = true) :
    agree eq a.canonical b.canonical = true := by
  induction a using memberInduction generalizing b with
  | null | bool | num | str => cases b <;> exact h
  | arr as ih =>
    cases b <;> simp only [agree, Bool.false_eq_true] at h
    rename_i bs
    obtain ⟨hlength, hall⟩ := agreeItems_iff.1 h
    simp only [canonical, canonicalItems_eq, agree, agreeItems_iff, List.length_map,
      List.getElem?_map, Option.map_eq_some_iff]
    refine ⟨hlength, ?_⟩
    rintro i _ _ ⟨a, ha, rfl⟩ ⟨b, hb, rfl⟩
    exact ih a (List.mem_of_getElem? ha) (hall i a b ha hb)
  | obj as ih =>
    cases b <;> simp only [agree, Bool.false_eq_true] at h
    rename_i bs
    refine agreeFields_of_agreeAt (SortedMap.sorted _) (SortedMap.sorted _) fun name => ?_
    -- of the fields of one name the last one counts
    have hlast : AgreeAt eq (Assoc.get? name as.reverse) (Assoc.get? name bs.reverse) :=
      agreeAt_of_agreeFields (agreeFields_iff_forall₂.2
        (List.forall₂_reverse_iff.2 (agreeFields_iff_forall₂.1 h))) name
    have hleft : Assoc.get? name (SortedMap.ofList (canonicalFields as)).entries = _ :=
      get?_canonicalFields as name
    have hright : Assoc.get? name (SortedMap.ofList (canonicalFields bs)).entries = _ :=
      get?_canonicalFields bs name
    rw [hleft, hright]
    refine hlast.map fun a b ha hab => ?_
    exact ih (name, a) (List.mem_reverse.1 (Assoc.mem_of_get? ha)) hab

end GraphStore.Json
