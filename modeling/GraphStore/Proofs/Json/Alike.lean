import GraphStore.Proofs.Json.Agreement

/-!
# Structural equality

`Json.same` compares the fields of objects one after another.  For canonical values that is
equality as one would define it without an order (`Json.same_iff_alike`): two objects are equal
when they have the same names, and equal values under each of them.

* `Json.Alike` : equality of values by their structure.
* `Json.without` : an object without the fields of some names.
-/

namespace GraphStore.Json

/-- The values are equal by their structure.  An integer is no double, the two zeros of the doubles
are equal, the items of arrays have an order and the fields of objects have none. -/
inductive Alike : Json → Json → Prop
  /-- Null. -/
  | null : Alike .null .null
  /-- Truth values. -/
  | bool (value : Bool) : Alike (.bool value) (.bool value)
  /-- Integers. -/
  | integer (value : Int) : Alike (.num (.integer value)) (.num (.integer value))
  /-- Doubles of one magnitude, and of one sign unless they are zero. -/
  | double {x y : Double} (hrank : x.rank = y.rank)
    (hsign : x.negative = y.negative ∨ x.rank = 0) :
    Alike (.num (.double x)) (.num (.double y))
  /-- Strings. -/
  | str (value : String) : Alike (.str value) (.str value)
  /-- Arrays with equal items in each place. -/
  | arr {as bs : List Json} (hlength : as.length = bs.length)
    (hitems : ∀ (i : Nat) (a b : Json), as[i]? = some a → bs[i]? = some b → Alike a b) :
    Alike (.arr as) (.arr bs)
  /-- Objects with the same names and equal values under each name. -/
  | obj {as bs : List (String × Json)}
    (hnames : ∀ name, (Assoc.get? name as).isSome = (Assoc.get? name bs).isSome)
    (hvalues : ∀ (name : String) (a b : Json),
      Assoc.get? name as = some a → Assoc.get? name bs = some b → Alike a b) :
    Alike (.obj as) (.obj bs)

/-! ### Equality of canonical values -/

theorem alike_of_same {a b : Json} (h : same a b = true) : Alike a b := by
  induction a using memberInduction generalizing b with
  | null =>
    cases b <;> simp only [same, agree, Bool.false_eq_true] at h
    exact .null
  | bool value =>
    cases b <;> simp only [same, agree, Bool.false_eq_true, beq_iff_eq] at h
    exact h ▸ .bool value
  | num x =>
    cases b <;> simp only [same, agree, Bool.false_eq_true] at h
    rename_i y
    cases x <;> cases y <;> simp only [Number.same, Bool.false_eq_true, beq_iff_eq] at h
    · exact h ▸ .integer _
    · simp only [Double.same, Bool.and_eq_true, Bool.or_eq_true, beq_iff_eq] at h
      exact .double h.1 h.2
  | str value =>
    cases b <;> simp only [same, agree, Bool.false_eq_true, beq_iff_eq] at h
    exact h ▸ .str value
  | arr items ih =>
    cases b <;> simp only [same, agree, Bool.false_eq_true] at h
    obtain ⟨hlength, hall⟩ := agreeItems_iff.1 h
    exact .arr hlength fun i a b ha hb => ih a (List.mem_of_getElem? ha) (hall i a b ha hb)
  | obj fields ih =>
    cases b <;> simp only [same, agree, Bool.false_eq_true] at h
    have hat := agreeAt_of_agreeFields h
    refine .obj (fun name => (hat name).isSome_eq) fun name a b ha hb => ?_
    have hab : agree Number.same a b = true := by simpa [ha, hb] using hat name
    exact ih (name, a) (Assoc.mem_of_get? ha) hab

theorem same_of_alike {a b : Json} (h : Alike a b) (ha : a.Canonical) (hb : b.Canonical) :
    same a b = true := by
  induction h with
  | null => rfl
  | bool | str => exact same_refl _
  | integer => exact same_refl _
  | double hrank hsign => simp [same, agree, Number.same, Double.same, ← hrank, hsign]
  | arr hlength _ ih =>
    refine agreeItems_iff.2 ⟨hlength, fun i a b hai hbi => ?_⟩
    exact ih i a b hai hbi (canonicalItems_iff.1 ha a (List.mem_of_getElem? hai))
      (canonicalItems_iff.1 hb b (List.mem_of_getElem? hbi))
  | @obj as bs hnames _ ih =>
    refine agreeFields_of_agreeAt ha.1 hb.1 fun name => ?_
    have hname := hnames name
    cases has : Assoc.get? name as with
    | none =>
      obtain hnone : Assoc.get? name bs = none := by simpa [has] using hname.symm
      rw [hnone]
      exact .none
    | some a =>
      obtain ⟨b, hbs⟩ : ∃ b, Assoc.get? name bs = some b := by
        simpa [has, Option.isSome_iff_exists] using hname.symm
      rw [hbs]
      exact .some (ih name a b has hbs (ha.of_get? has) (hb.of_get? hbs))

/-- The comparison of canonical values is equality by their structure. -/
theorem same_iff_alike {a b : Json} (ha : a.Canonical) (hb : b.Canonical) :
    same a b = true ↔ Alike a b :=
  ⟨alike_of_same, fun h => same_of_alike h ha hb⟩

/-! ### Without some fields -/

/-- An object without the fields of these names. -/
def without (names : List String) : Json → Json
  | obj fields => obj (fields.filter fun f => !names.contains f.1)
  | a => a

theorem get?_without (names : List String) (fields : List (String × Json)) (name : String) :
    Assoc.get? name (fields.filter fun f => !names.contains f.1) =
      if name ∈ names then none else Assoc.get? name fields := by
  rw [Assoc.get?_filter fun name => !names.contains name]
  by_cases h : name ∈ names <;> simp [h]

theorem Canonical.without {a : Json} (h : a.Canonical) (names : List String) :
    (a.without names).Canonical := by
  cases a with
  | obj fields =>
    refine ⟨Assoc.Sorted.filter h.1 _, canonicalFields_iff.2 fun f hf => ?_⟩
    exact canonicalFields_iff.1 h.2 f (List.mem_filter.1 hf).1
  | _ => exact h

end GraphStore.Json
