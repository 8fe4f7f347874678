import GraphStore.Decimal.Literal
import GraphStore.SortedMap

/-!
# JSON values

* `Json` is a value; an object is the list of its fields.
* `Json.Canonical`: every object lists its fields by strictly increasing name.  Every value that
  is read or stored has this form, so that equal values are written alike.
* `Json.canonical` brings a value into this form, the last field of a name counting.
* `Json.same` is equality of values: an integer never equals a double, and the two zeros of the
  doubles are equal.
-/

namespace GraphStore

/-- A JSON value. -/
inductive Json where
  | null
  | bool (value : Bool)
  | num (value : Number)
  | str (value : String)
  | arr (items : List Json)
  | obj (fields : List (String × Json))

namespace Json

instance : Inhabited Json := ⟨null⟩

abbrev int (n : Int) : Json := num (.integer n)

/-! ### Equality -/

mutual

/-- The values agree, their numbers by `eq`. -/
def agree (eq : Number → Number → Bool) : Json → Json → Bool
  | null, null => true
  | bool a, bool b => a == b
  | num a, num b => eq a b
  | str a, str b => a == b
  | arr as, arr bs => agreeItems eq as bs
  | obj as, obj bs => agreeFields eq as bs
  | _, _ => false
termination_by structural a => a

def agreeItems (eq : Number → Number → Bool) : List Json → List Json → Bool
  | [], [] => true
  | a :: as, b :: bs => agree eq a b && agreeItems eq as bs
  | _, _ => false
termination_by structural as => as

/-- The fields agree one by one. -/
def agreeFields (eq : Number → Number → Bool) :
    List (String × Json) → List (String × Json) → Bool
  | [], [] => true
  | a :: as, b :: bs => agreeField eq a b && agreeFields eq as bs
  | _, _ => false
termination_by structural as => as

/-- The fields have the same name and agreeing values. -/
def agreeField (eq : Number → Number → Bool) : String × Json → String × Json → Bool
  | (k, a), (l, b) => k == l && agree eq a b
termination_by structural a => a

end

/-- Equality of JSON values. -/
def same : Json → Json → Bool := agree Number.same

/-- Equality of lists of fields. -/
def sameFields : List (String × Json) → List (String × Json) → Bool := agreeFields Number.same

theorem agree_refl {eq : Number → Number → Bool} (h : ∀ n, eq n n = true) (a : Json) :
    agree eq a a = true := by
  induction a using Json.rec (motive_2 := fun as => agreeItems eq as as = true)
    (motive_3 := fun as => agreeFields eq as as = true)
    (motive_4 := fun a => agreeField eq a a = true) <;>
    simp_all [agree, agreeItems, agreeFields, agreeField]

theorem same_refl (a : Json) : same a a = true := agree_refl Number.same_refl a

/-- Equality of numbers as they are held, so that the two zeros differ. -/
def exact (a b : Number) : Bool := a == b

mutual

theorem eq_of_agree : ∀ {a b : Json}, agree exact a b = true → a = b
  | null, b, h => by cases b <;> simp_all [agree]
  | bool _, b, h => by cases b <;> simp_all [agree]
  | num _, b, h => by cases b <;> simp_all [agree, exact]
  | str _, b, h => by cases b <;> simp_all [agree]
  | arr as, b, h => by
    cases b <;> simp only [agree, Bool.false_eq_true] at h
    rw [eq_of_agreeItems h]
  | obj as, b, h => by
    cases b <;> simp only [agree, Bool.false_eq_true] at h
    rw [eq_of_agreeFields h]

theorem eq_of_agreeItems : ∀ {as bs : List Json}, agreeItems exact as bs = true → as = bs
  | [], bs, h => by cases bs <;> simp_all [agreeItems]
  | a :: as, bs, h => by
    cases bs <;> simp only [agreeItems, Bool.false_eq_true, Bool.and_eq_true] at h
    rw [eq_of_agree h.1, eq_of_agreeItems h.2]

theorem eq_of_agreeFields :
    ∀ {as bs : List (String × Json)}, agreeFields exact as bs = true → as = bs
  | [], bs, h => by cases bs <;> simp_all [agreeFields]
  | a :: as, bs, h => by
    cases bs <;> simp only [agreeFields, Bool.false_eq_true, Bool.and_eq_true] at h
    rw [eq_of_agreeField h.1, eq_of_agreeFields h.2]

theorem eq_of_agreeField : ∀ {a b : String × Json}, agreeField exact a b = true → a = b
  | (k, a), (l, b), h => by
    simp only [agreeField, Bool.and_eq_true, beq_iff_eq] at h
    rw [h.1, eq_of_agree h.2]

end

theorem agree_exact_iff {a b : Json} : agree exact a b = true ↔ a = b :=
  ⟨eq_of_agree, fun h => h ▸ agree_refl (by simp [exact]) a⟩

instance : DecidableEq Json := fun _ _ => decidable_of_iff _ agree_exact_iff

/-! ### Looking inside -/

/-- The value of a field; only objects have fields. -/
def field? (name : String) : Json → Option Json
  | obj fields => Assoc.get? name fields
  | _ => none

def string? : Json → Option String
  | str s => some s
  | _ => none

/-- The integer of 64 bits with a sign that the value is. -/
def int64? : Json → Option Int
  | num (.integer n) => if fitsSigned n then some n else none
  | _ => none

/-! ### Canonical values -/

mutual

/-- Every object in the value lists its fields by strictly increasing name. -/
def Canonical : Json → Prop
  | arr items => CanonicalItems items
  | obj fields => Assoc.Sorted fields ∧ CanonicalFields fields
  | _ => True
termination_by structural a => a

def CanonicalItems : List Json → Prop
  | [] => True
  | a :: as => Canonical a ∧ CanonicalItems as
termination_by structural as => as

def CanonicalFields : List (String × Json) → Prop
  | [] => True
  | a :: as => CanonicalField a ∧ CanonicalFields as
termination_by structural as => as

def CanonicalField : String × Json → Prop
  | (_, a) => Canonical a
termination_by structural a => a

end

mutual

/-- The value with the fields of every object in order; the last field of a name counts. -/
def canonical : Json → Json
  | arr items => arr (canonicalItems items)
  | obj fields => obj (SortedMap.ofList (canonicalFields fields)).entries
  | a => a
termination_by structural a => a

def canonicalItems : List Json → List Json
  | [] => []
  | a :: as => canonical a :: canonicalItems as
termination_by structural as => as

/-- The fields with canonical values, in the given order. -/
def canonicalFields : List (String × Json) → List (String × Json)
  | [] => []
  | a :: as => canonicalField a :: canonicalFields as
termination_by structural as => as

def canonicalField : String × Json → String × Json
  | (k, a) => (k, canonical a)
termination_by structural a => a

end

end Json

end GraphStore
