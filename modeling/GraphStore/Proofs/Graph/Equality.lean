import GraphStore.Graph.Entity
import GraphStore.Proofs.Json.Agreement

/-!
# Equality of entities

`Entity.same` compares entities field by field and numbers as numbers, so it is not equality of
representations: the two zeros of the doubles count as one.  It is an equivalence all the same
(`Entity.same_refl`, `Entity.same_symm`, `Entity.same_trans`), because equality of numbers is one
and the comparison of values goes along their structure.
-/

namespace GraphStore

/-! ### Numbers -/

theorem Double.same_symm {a b : Double} (h : a.same b = true) : b.same a = true := by
  simp only [same, Bool.and_eq_true, Bool.or_eq_true, beq_iff_eq] at h ⊢
  obtain ⟨hrank, hsign | hzero⟩ := h
  · exact ⟨hrank.symm, .inl hsign.symm⟩
  · exact ⟨hrank.symm, .inr (hrank ▸ hzero)⟩

theorem Double.same_trans {a b c : Double} (h : a.same b = true) (h' : b.same c = true) :
    a.same c = true := by
  simp only [same, Bool.and_eq_true, Bool.or_eq_true, beq_iff_eq] at h h' ⊢
  refine ⟨h.1.trans h'.1, ?_⟩
  rcases h.2 with hsign | hzero
  · rcases h'.2 with hsign' | hzero'
    · exact .inl (hsign.trans hsign')
    · exact .inr (h.1.trans hzero')
  · exact .inr hzero

theorem Number.same_symm (a b : Number) (h : a.same b = true) : b.same a = true := by
  cases a <;> cases b <;> simp_all [same]
  exact Double.same_symm h

theorem Number.same_trans (a b c : Number) (h : a.same b = true) (h' : b.same c = true) :
    a.same c = true := by
  cases a <;> cases b <;> cases c <;> simp_all [same]
  exact Double.same_trans h h'

/-! ### Values -/

theorem Json.same_symm {a b : Json} (h : a.same b = true) : b.same a = true :=
  agree_symm Number.same_symm h

theorem Json.same_trans {a b c : Json} (h : a.same b = true) (h' : b.same c = true) :
    a.same c = true :=
  agree_trans Number.same_trans h h'

/-! ### Entities -/

theorem Body.same_refl {k : Kind} (a : Body k) : a.same a = true := by
  cases a with
  | vertex status properties =>
    have : Json.agreeItems Number.same (properties.map Property.raw)
        (properties.map Property.raw) = true :=
      Json.agree_refl Number.same_refl (.arr (properties.map Property.raw))
    simp [same, this]
  | edge label source target => simp [same]

theorem Body.same_symm {k : Kind} {a b : Body k} (h : a.same b = true) : b.same a = true := by
  cases a <;> cases b <;> simp only [same, Bool.and_eq_true, beq_iff_eq] at h ⊢
  · exact ⟨h.1.symm, Json.same_symm (a := .arr _) (b := .arr _) h.2⟩
  · exact ⟨⟨h.1.1.symm, h.1.2.symm⟩, h.2.symm⟩

theorem Body.same_trans {k : Kind} {a b c : Body k} (h : a.same b = true)
    (h' : b.same c = true) : a.same c = true := by
  cases a <;> cases b <;> cases c <;> simp only [same, Bool.and_eq_true, beq_iff_eq] at h h' ⊢
  · exact ⟨h.1.trans h'.1, Json.same_trans (a := .arr _) (b := .arr _) (c := .arr _) h.2 h'.2⟩
  · exact ⟨⟨h.1.1.trans h'.1.1, h.1.2.trans h'.1.2⟩, h.2.trans h'.2⟩

namespace Entity

variable {k : Kind} {a b c : Entity k}

theorem same_refl (a : Entity k) : a.same a = true := by
  have : Json.sameFields a.extra.entries a.extra.entries = true :=
    Json.agree_refl Number.same_refl (.obj a.extra.entries)
  simp [same, Body.same_refl, this]

theorem same_symm (h : a.same b = true) : b.same a = true := by
  simp only [same, Bool.and_eq_true, beq_iff_eq] at h ⊢
  exact ⟨⟨h.1.1.symm, Body.same_symm h.1.2⟩, Json.same_symm (a := .obj _) (b := .obj _) h.2⟩

theorem same_trans (h : a.same b = true) (h' : b.same c = true) : a.same c = true := by
  simp only [same, Bool.and_eq_true, beq_iff_eq] at h h' ⊢
  exact ⟨⟨h.1.1.trans h'.1.1, Body.same_trans h.1.2 h'.1.2⟩,
    Json.same_trans (a := .obj _) (b := .obj _) (c := .obj _) h.2 h'.2⟩

theorem same_congr_left (h : a.same b = true) : a.same c = b.same c :=
  Bool.eq_iff_iff.2 ⟨same_trans (same_symm h), same_trans h⟩

end Entity

end GraphStore
