import GraphStore.Proofs.Graph.Decoding
import GraphStore.Proofs.Json.Canonical

/-!
# What is written is read again

A value is written as an object with its fields in order, whatever form it was read from.  The
lemmas here say what stands in such an object, and what the readers of `GraphStore.Wire.Reader`
make of it.

* `Wire.Lossless` : a type of which every value that was decoded is encoded as a value that is
  decoded to it again.
* `Wire.Rest` : a map holds the fields of an object except for some, as they are; it does so of the
  object that is written with it (`Wire.Rest.written`).
* `Wire.part`, `Wire.itemsOf` : the part of a record that a field is read from, and the items in it.
-/

namespace GraphStore.Wire

variable {α β : Type}

/-! ### Written objects -/

/-- The fields of an object in the order in which they are written. -/
def written (fields : List (String × Json)) : List (String × Json) :=
  (SortedMap.ofList (Json.canonicalFields fields)).entries

section

variable {fields declared : List (String × Json)}

theorem get?_written (h : (fields.map Prod.fst).Nodup) (name : String) :
    Assoc.get? name (written fields) = (Assoc.get? name fields).map Json.canonical := by
  rw [← Assoc.get?_reverse h]
  exact Json.get?_canonicalFields fields name

theorem get?_written_append (h : (declared.map Prod.fst).Nodup) (extra : SortedMap Json)
    (name : String) : Assoc.get? name (written (declared ++ extra.entries)) =
      ((extra.get? name).or (Assoc.get? name declared)).map Json.canonical := by
  refine (Json.get?_canonicalFields (declared ++ extra.entries) name).trans ?_
  rw [List.reverse_append, Assoc.get?_append, Assoc.get?_reverse h,
    Assoc.get?_reverse extra.sorted.nodup]
  rfl

end

/-! ### Fields beside the declared ones -/

/-- The map holds the fields of an object as they are, except for those of some names. -/
structure Rest (names : List String) (extra : SortedMap Json) (a : Json) : Prop where
  /-- It is an object. -/
  isObject : ∃ fields, a = .obj fields
  /-- The map holds its fields. -/
  get?_eq : ∀ name, extra.get? name = if name ∈ names then none else a.field? name

namespace Rest

variable {names : List String} {extra : SortedMap Json} {a : Json}
  {fields declared : List (String × Json)}

theorem of_sorted (h : Assoc.Sorted fields) :
    Rest names ((SortedMap.ofList fields).eraseAll names) (.obj fields) where
  isObject := ⟨fields, rfl⟩
  get?_eq name := by
    rw [SortedMap.get?_eraseAll, SortedMap.get?, SortedMap.entries_ofList h]
    rfl

/-- An object has one rest. -/
theorem eq (h : Rest names extra (.obj fields)) (hs : Assoc.Sorted fields) :
    (SortedMap.ofList fields).eraseAll names = extra :=
  SortedMap.ext_get? fun name => ((of_sorted hs).get?_eq name).trans (h.get?_eq name).symm

theorem get?_eq_none (h : Rest names extra a) {name : String} (hname : name ∈ names) :
    extra.get? name = none := by
  rw [h.get?_eq, if_pos hname]

theorem get?_written (h : Rest names extra a) (hnodup : (declared.map Prod.fst).Nodup)
    {name : String} (hname : name ∈ names) :
    Assoc.get? name (Wire.written (declared ++ extra.entries)) =
      (Assoc.get? name declared).map Json.canonical := by
  rw [get?_written_append hnodup, h.get?_eq_none hname, Option.none_or]

/-- The rest of an object is the rest of what is written with it. -/
theorem written (h : Rest names extra a) (ha : a.Canonical)
    (hnodup : (declared.map Prod.fst).Nodup) (hdeclared : ∀ f ∈ declared, f.1 ∈ names) :
    Rest names extra (.obj (written (declared ++ extra.entries))) where
  isObject := ⟨_, rfl⟩
  get?_eq name := by
    obtain ⟨fields, rfl⟩ := h.isObject
    by_cases hname : name ∈ names
    · rw [if_pos hname, h.get?_eq_none hname]
    · have hnone : Assoc.get? name declared = none := by
        rw [Assoc.get?_eq_none_iff, List.mem_map]
        rintro ⟨f, hf, rfl⟩
        exact hname (hdeclared f hf)
      refine Eq.trans ?_ (if_neg hname).symm
      refine Eq.trans ?_ (get?_written_append hnodup extra name).symm
      rw [hnone, Option.or_none, h.get?_eq, if_neg hname]
      cases hget : Assoc.get? name fields with
      | none => simp [Json.field?, hget]
      | some b => simp [Json.field?, hget, (ha.of_get? hget).canonical_eq]

end Rest

/-! ### Values that are decoded again -/

/-- Every value of the type that was decoded is encoded as a value that is decoded to it again,
wherever the two are read from. -/
class Lossless (α : Type) [Wire α] : Prop where
  /-- The value is decoded again. -/
  read_value {source : Source} {a : Json} {x : α} (ha : a.Canonical) (h : read source a = .ok x)
    (source' : Source) : read source' (value x) = .ok x

theorem readName_str {names : List (String × α)} {s : String} {x : α}
    (h : Assoc.get? s names = some x) (source : Source) :
    readName names source (.str s) = .ok x := by
  simp [readName, readName.known, h]

theorem canonical_arr (write : α → Json) (xs : List α) :
    (Json.arr (xs.map write)).canonical = .arr (xs.map fun x => (write x).canonical) := by
  rw [Json.canonical, Json.canonicalItems_eq, List.map_map]
  rfl

theorem readList_map {read : Json → Decoded α} {write : α → Json} {xs : List α}
    (h : ∀ x ∈ xs, read (write x) = .ok x) : readList read (.arr (xs.map write)) = .ok xs := by
  refine readList_eq_ok_iff.2 ⟨_, rfl, List.forall₂_map_left_iff.2 ?_⟩
  exact List.forall₂_same.2 h

theorem forall_mem_right {P : β → Prop} {as : List α} {bs : List β}
    (h : List.Forall₂ (fun _ b => P b) as bs) : ∀ b ∈ bs, P b := by
  induction h with
  | nil => nofun
  | cons hb _ ih => exact List.forall_mem_cons.2 ⟨hb, ih⟩

theorem readList_values [Wire α] [Lossless α] {source : Source} {items : List Json} {xs : List α}
    (hitems : ∀ a ∈ items, a.Canonical)
    (h : List.Forall₂ (fun a x => read source a = .ok x) items xs) (source' : Source) :
    readList (read source') (Json.arr (xs.map write)).canonical = .ok xs := by
  have hagain : List.Forall₂ (fun _ x => read source' (value x) = .ok x) items xs :=
    ((List.forall₂_and_left items xs).2 ⟨hitems, h⟩).imp fun _ _ hread =>
      Lossless.read_value hread.1 hread.2 source'
  rw [canonical_arr]
  exact readList_map (forall_mem_right hagain)

/-! ### Parts of a record -/

/-- The part of a record that a field is read from: the field of an object, or the element in its
place of a list. -/
def part (name : String) (i : Nat) : Json → Option Json
  | .obj fields => Assoc.get? name fields
  | .arr items => items[i]?
  | _ => none

/-- The items of a list that is there. -/
def itemsOf : Option Json → List Json
  | some (.arr items) => items
  | _ => []

/-- What is read from a part that may be missing or null. -/
def readPart (read : Json → Decoded α) : Option Json → Decoded (Option α)
  | some a => readNullable read a
  | none => .ok none

section

variable {fields : List (String × Json)} {name : String} {read : Json → Decoded α}

theorem canonical_of_part {a b : Json} {i : Nat} (ha : a.Canonical)
    (h : part name i a = some b) : b.Canonical := by
  cases a with
  | obj fields => exact ha.of_get? h
  | arr items => exact Json.canonicalItems_iff.1 ha b (List.mem_of_getElem? h)
  | _ => cases h

theorem canonical_of_mem_itemsOf {o : Option Json} (h : ∀ a, o = some a → a.Canonical) :
    ∀ b ∈ itemsOf o, b.Canonical := by
  intro b hb
  match o, h, hb with
  | some (.arr items), h, hb => exact Json.canonicalItems_iff.1 (h _ rfl) b hb

theorem map_eq_ok_iff {x : Decoded α} {f : α → β} {b : β} :
    x.map f = .ok b ↔ ∃ a, x = .ok a ∧ b = f a := by
  cases x <;> simp [Except.map, eq_comm]

theorem readInteger_eq_ok_iff {kind : IntegerKind} {a : Json} {n : Int} :
    readInteger kind a = .ok n ↔ a = .int n ∧ kind.holds n = true := by
  unfold readInteger
  split
  next m =>
    simp only [Json.num.injEq, Number.integer.injEq]
    constructor
    · intro h
      split at h
      next hm =>
        cases h
        exact ⟨rfl, hm⟩
      next => cases h
    · rintro ⟨rfl, hm⟩
      exact if_pos hm
  next a hne =>
    constructor
    · nofun
    · rintro ⟨rfl, -⟩
      exact absurd rfl (hne n)

theorem element_eq_ok_iff {items : List Json} {i : Nat} {e : DecodeError} {x : α} :
    element items i read (.error e) = .ok x ↔ ∃ a, items[i]? = some a ∧ read a = .ok x := by
  unfold element
  cases items[i]? <;> simp

theorem readNullable_eq_ok_iff {a : Json} {o : Option α} :
    readNullable read a = .ok o ↔
      a = .null ∧ o = none ∨ a ≠ .null ∧ ∃ x, read a = .ok x ∧ o = some x := by
  cases a with
  | null => simp [readNullable, eq_comm]
  | _ => simp [readNullable, map_eq_ok_iff]

/-- A field is missing, or it is read. -/
theorem optionalField_cases {o : Option α} (h : optionalField fields name read = .ok o) :
    (Assoc.get? name fields = none ∧ o = none) ∨
      ∃ a x, Assoc.get? name fields = some a ∧ read a = .ok x ∧ o = some x := by
  unfold optionalField at h
  cases hget : Assoc.get? name fields with
  | none =>
    rw [hget] at h
    cases h
    exact .inl ⟨rfl, rfl⟩
  | some a =>
    rw [hget] at h
    obtain ⟨x, hx, rfl⟩ := map_eq_ok_iff.1 h
    exact .inr ⟨a, x, rfl, hx, rfl⟩

theorem readPart_of_optionalField {o : Option (Option α)}
    (h : optionalField fields name (readNullable read) = .ok o) :
    readPart read (Assoc.get? name fields) = .ok o.join := by
  obtain ⟨hget, rfl⟩ | ⟨a, x, hget, hx, rfl⟩ := optionalField_cases h
  · rw [hget]
    rfl
  · rw [hget]
    exact hx

theorem element_nullable (items : List Json) (i : Nat) :
    element items i (readNullable read) (.ok none) = readPart read items[i]? := by
  unfold element readPart
  cases items[i]? <;> rfl

theorem read_of_readPart {o : Option Json} {x : α} (h : readPart read o = .ok (some x)) :
    ∃ a, o = some a ∧ read a = .ok x := by
  cases o with
  | none => cases h
  | some a =>
    obtain ⟨-, hnone⟩ | ⟨-, y, hy, hsome⟩ := readNullable_eq_ok_iff.1 h
    · cases hnone
    · cases hsome
      exact ⟨a, rfl, hy⟩

/-- A list that may be missing or null is read item by item, and is taken for an empty one. -/
theorem forall₂_of_readPart {o : Option Json} {xs : Option (List α)}
    (h : readPart (readList read) o = .ok xs) :
    List.Forall₂ (fun a x => read a = .ok x) (itemsOf o) (xs.getD []) := by
  cases o with
  | none =>
    cases h
    exact .nil
  | some a =>
    obtain ⟨rfl, rfl⟩ | ⟨-, ys, hys, rfl⟩ := readNullable_eq_ok_iff.1 h
    · exact .nil
    · obtain ⟨items, rfl, hall⟩ := readList_eq_ok_iff.1 hys
      exact hall

theorem forall₂_of_optionalField {xs : Option (List α)}
    (h : optionalField fields name (readList read) = .ok xs) :
    List.Forall₂ (fun a x => read a = .ok x) (itemsOf (Assoc.get? name fields)) (xs.getD []) := by
  obtain ⟨hget, rfl⟩ | ⟨a, ys, hget, hys, rfl⟩ := optionalField_cases h
  · rw [hget]
    exact .nil
  · obtain ⟨items, rfl, hall⟩ := readList_eq_ok_iff.1 hys
    rw [hget]
    exact hall

/-- An optional field is read again, whether it was written or left out. -/
theorem optionalField_written {write : α → Json} {o : Option α}
    (hget : Assoc.get? name fields = o.map write)
    (h : ∀ x, o = some x → read (write x) = .ok x) (hnull : ∀ x, read .null ≠ .ok x) :
    ∃ o', optionalField fields name (readNullable read) = .ok o' ∧ o'.join = o := by
  unfold optionalField
  cases o with
  | none =>
    rw [hget]
    exact ⟨none, rfl, rfl⟩
  | some x =>
    have hx := h x rfl
    have hne : write x ≠ .null := fun heq => hnull x (heq ▸ hx)
    have hread := readNullable_eq_ok_iff.2 (.inr ⟨hne, x, hx, rfl⟩)
    rw [hget]
    exact ⟨some (some x), congrArg (Except.map some) hread, rfl⟩

end

end GraphStore.Wire
