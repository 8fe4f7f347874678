/-!
# Maps kept in key order

A `SortedMap α` sends finitely many strings to values and holds its entries by strictly
increasing key, so that two maps are equal exactly when they agree on every key
(`SortedMap.ext_get?`) and a map has one written order.  Strings are compared by code point,
which is the order of their UTF-8 bytes.

* `Assoc.get?`, `Assoc.insert` and `Assoc.erase` act on bare lists of entries;
* `SortedMap` wraps them with the proof of order.
-/

namespace GraphStore

universe u v

/-! ### Lists of entries -/

namespace Assoc

variable {α : Type u}

/-- The entries stand by strictly increasing key. -/
def Sorted (entries : List (String × α)) : Prop :=
  entries.Pairwise fun a b => a.1 < b.1

/-- The value of the first entry with this key. -/
def get? (key : String) : List (String × α) → Option α
  | [] => none
  | (k, v) :: rest => if key = k then some v else get? key rest

/-- Put `value` under `key`, over an older value of the same key. -/
def insert (key : String) (value : α) : List (String × α) → List (String × α)
  | [] => [(key, value)]
  | (k, v) :: rest =>
    if key < k then (key, value) :: (k, v) :: rest
    else if key = k then (key, value) :: rest
    else (k, v) :: insert key value rest

/-- Drop the entry of `key`. -/
def erase (key : String) (entries : List (String × α)) : List (String × α) :=
  entries.filter fun e => e.1 != key

theorem mem_insert {key : String} {value : α} {entries : List (String × α)} {e : String × α}
    (h : e ∈ insert key value entries) : e = (key, value) ∨ e ∈ entries := by
  induction entries with
  | nil => simpa [insert] using h
  | cons a rest ih =>
    simp only [insert] at h
    split at h
    · simpa using h
    · split at h
      · rcases List.mem_cons.1 h with h | h
        · exact .inl h
        · exact .inr (List.mem_cons_of_mem _ h)
      · rcases List.mem_cons.1 h with h | h
        · exact .inr (h ▸ List.mem_cons_self)
        · exact (ih h).imp_right (List.mem_cons_of_mem _)

theorem Sorted.insert {key : String} {value : α} {entries : List (String × α)}
    (h : Sorted entries) : Sorted (insert key value entries) := by
  induction entries with
  | nil => simp [Assoc.insert, Sorted]
  | cons a rest ih =>
    obtain ⟨hhead, htail⟩ := List.pairwise_cons.1 h
    simp only [Assoc.insert]
    split
    next hlt =>
      refine List.pairwise_cons.2 ⟨fun e he => ?_, h⟩
      rcases List.mem_cons.1 he with he | he
      · exact he ▸ hlt
      · exact String.lt_trans hlt (hhead e he)
    next hlt =>
      split
      next heq => exact List.pairwise_cons.2 ⟨fun e he => heq ▸ hhead e he, htail⟩
      next hne =>
        refine List.pairwise_cons.2 ⟨fun e he => ?_, ih htail⟩
        rcases mem_insert he with he | he
        · have hle : a.1 ≤ key := String.not_lt.1 hlt
          subst he
          refine Classical.byContradiction fun hn => hne ?_
          exact String.le_antisymm (String.not_lt.1 hn) hle
        · exact hhead e he

theorem Sorted.erase {key : String} {entries : List (String × α)} (h : Sorted entries) :
    Sorted (erase key entries) :=
  List.Pairwise.filter _ h

theorem get?_insert (key : String) (value : α) (entries : List (String × α)) (k : String) :
    get? k (insert key value entries) = if k = key then some value else get? k entries := by
  induction entries with
  | nil => rfl
  | cons a rest ih =>
    simp only [insert]
    split
    next hlt => rfl
    next hlt =>
      split
      next heq => subst heq; by_cases hk : k = a.1 <;> simp [get?, hk]
      next hne =>
        simp only [get?, ih]
        by_cases ha : k = a.1
        · have : k ≠ key := fun hk => hne (hk ▸ ha)
          simp [ha, ha ▸ this]
        · simp [ha]

theorem get?_erase (key : String) (entries : List (String × α)) (k : String) :
    get? k (erase key entries) = if k = key then none else get? k entries := by
  induction entries with
  | nil => simp [erase, get?]
  | cons a rest ih =>
    simp only [erase] at ih
    by_cases ha : a.1 = key
    · subst ha
      by_cases hk : k = a.1 <;> simp [erase, get?, ih, hk]
      simpa [hk] using ih
    · by_cases hk : k = key
      · subst hk
        have : k ≠ a.1 := fun h => ha h.symm
        simpa [erase, ha, get?, this] using ih
      · simp [erase, ha, get?, ih, hk]

theorem get?_eq_none_of_lt {entries : List (String × α)} {k : String}
    (h : ∀ e ∈ entries, k < e.1) : get? k entries = none := by
  induction entries with
  | nil => rfl
  | cons a rest ih =>
    have hne : k ≠ a.1 := fun he => String.lt_irrefl a.1 (he ▸ h a List.mem_cons_self)
    simpa [get?, hne] using ih fun e he => h e (List.mem_cons_of_mem _ he)

/-- Two sorted lists of entries with the same lookups are the same list. -/
theorem Sorted.ext {xs ys : List (String × α)} (hx : Sorted xs) (hy : Sorted ys)
    (h : ∀ k, get? k xs = get? k ys) : xs = ys := by
  induction xs generalizing ys with
  | nil =>
    cases ys with
    | nil => rfl
    | cons b ys => simpa [get?] using h b.1
  | cons a xs ih =>
    cases ys with
    | nil => simpa [get?] using h a.1
    | cons b ys =>
      obtain ⟨hah, hat⟩ := List.pairwise_cons.1 hx
      obtain ⟨hbh, hbt⟩ := List.pairwise_cons.1 hy
      have hkey : a.1 = b.1 := by
        refine Classical.byContradiction fun hne => ?_
        rcases Classical.em (a.1 < b.1) with hlt | hlt
        · have hb : get? a.1 (b :: ys) = none := get?_eq_none_of_lt fun e he => by
            rcases List.mem_cons.1 he with he | he
            · exact he ▸ hlt
            · exact String.lt_trans hlt (hbh e he)
          have := h a.1
          rw [hb] at this
          simp [get?] at this
        · have hlt' : b.1 < a.1 := Classical.byContradiction fun hn =>
            hne (String.le_antisymm (String.not_lt.1 hn) (String.not_lt.1 hlt))
          have ha : get? b.1 (a :: xs) = none := get?_eq_none_of_lt fun e he => by
            rcases List.mem_cons.1 he with he | he
            · exact he ▸ hlt'
            · exact String.lt_trans hlt' (hah e he)
          have := h b.1
          rw [ha] at this
          simp [get?] at this
      have hval : a.2 = b.2 := by
        have := h a.1
        simpa [get?, hkey] using this
      have hab : a = b := Prod.ext hkey hval
      subst hab
      refine congrArg (a :: ·) (ih hat hbt fun k => ?_)
      by_cases hk : k = a.1
      · subst hk
        rw [get?_eq_none_of_lt hah, get?_eq_none_of_lt hbh]
      · simpa [get?, hk] using h k

end Assoc

/-! ### Sorted maps -/

/-- A finite map with string keys, held as its entries in strictly increasing order of key. -/
structure SortedMap (α : Type u) where
  entries : List (String × α)
  /-- No two entries share a key, and the smaller key comes first. -/
  sorted : Assoc.Sorted entries

namespace SortedMap

variable {α : Type u} {β : Type v}

instance [DecidableEq α] : DecidableEq (SortedMap α) := fun a b =>
  decidable_of_iff (a.entries = b.entries) ⟨fun h => by cases a; cases b; simpa using h,
    fun h => congrArg entries h⟩

def empty : SortedMap α := ⟨[], List.Pairwise.nil⟩

instance : Inhabited (SortedMap α) := ⟨empty⟩

def get? (m : SortedMap α) (key : String) : Option α := Assoc.get? key m.entries

def contains (m : SortedMap α) (key : String) : Bool := (m.get? key).isSome

/-- The keys, in increasing order. -/
def keys (m : SortedMap α) : List String := m.entries.map (·.1)

def size (m : SortedMap α) : Nat := m.entries.length

/-- The map with `value` under `key`. -/
def insert (m : SortedMap α) (key : String) (value : α) : SortedMap α :=
  ⟨Assoc.insert key value m.entries, m.sorted.insert⟩

/-- The map without an entry for `key`. -/
def erase (m : SortedMap α) (key : String) : SortedMap α :=
  ⟨Assoc.erase key m.entries, m.sorted.erase⟩

/-- The map with every entry of `entries` put in, a later one over an earlier one. -/
def insertAll (m : SortedMap α) (entries : List (String × α)) : SortedMap α :=
  entries.foldl (fun m e => m.insert e.1 e.2) m

/-- The map of a list of entries, where the last entry of a key counts. -/
def ofList (entries : List (String × α)) : SortedMap α := empty.insertAll entries

/-- The map without entries for the keys in `dropped`. -/
def eraseAll (m : SortedMap α) (dropped : List String) : SortedMap α :=
  dropped.foldl erase m

@[simp] theorem get?_empty (k : String) : (empty : SortedMap α).get? k = none := rfl

theorem get?_insert (m : SortedMap α) (key : String) (value : α) (k : String) :
    (m.insert key value).get? k = if k = key then some value else m.get? k :=
  Assoc.get?_insert key value m.entries k

theorem get?_erase (m : SortedMap α) (key : String) (k : String) :
    (m.erase key).get? k = if k = key then none else m.get? k :=
  Assoc.get?_erase key m.entries k

theorem get?_eraseAll (m : SortedMap α) (dropped : List String) (k : String) :
    (m.eraseAll dropped).get? k = if k ∈ dropped then none else m.get? k := by
  induction dropped generalizing m with
  | nil => simp [eraseAll]
  | cons d rest ih =>
    have h : m.eraseAll (d :: rest) = (m.erase d).eraseAll rest := rfl
    rw [h, ih, get?_erase]
    by_cases hr : k ∈ rest <;> by_cases hd : k = d <;> simp [hr, hd]

/-- Maps are equal when they agree on every key. -/
theorem ext_get? {m n : SortedMap α} (h : ∀ k, m.get? k = n.get? k) : m = n := by
  obtain ⟨xs, hx⟩ := m
  obtain ⟨ys, hy⟩ := n
  have : xs = ys := hx.ext hy h
  subst this
  rfl

end SortedMap

/-! ### Sets of names -/

/-- A finite set of strings, listed in increasing order. -/
abbrev NameSet := SortedMap Unit

namespace NameSet

/-- The set of the names in a list. -/
def ofNames (names : List String) : NameSet := SortedMap.ofList (names.map fun n => (n, ()))

/-- The names, in increasing order. -/
def toList (s : NameSet) : List String := SortedMap.keys s

end NameSet

end GraphStore
