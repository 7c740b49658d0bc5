/-!
# Collections with distinct keys

A `Keyed α key` lists items in the order in which they were added; every item carries its own key,
and no two items have the same one.  An item whose key is taken is not added, so the first of two
items wins.
-/

namespace ThemeOptions

/-- Items in the order in which they were added, with pairwise distinct keys. -/
structure Keyed (α : Type) (key : α → String) where
  toList : List α
  nodup_keys : (toList.map key).Nodup

namespace Keyed

variable {α : Type} {key : α → String}

@[ext] theorem ext {a b : Keyed α key} (h : a.toList = b.toList) : a = b := by
  cases a; cases b; cases h; rfl

/-- No items. -/
def empty : Keyed α key := ⟨[], List.nodup_nil⟩

instance : Inhabited (Keyed α key) := ⟨empty⟩

/-- The keys, in order. -/
def keys (c : Keyed α key) : List String := c.toList.map key

/-- The number of items. -/
def size (c : Keyed α key) : Nat := c.toList.length

/-- Whether there is no item. -/
def isEmpty (c : Keyed α key) : Bool := c.toList.isEmpty

/-- The item with a key. -/
def find? (c : Keyed α key) (k : String) : Option α := c.toList.find? (key · == k)

/-- Whether there is an item with a key. -/
def contains (c : Keyed α key) (k : String) : Bool := c.toList.any (key · == k)

theorem contains_iff {c : Keyed α key} {k : String} : c.contains k = true ↔ k ∈ c.keys := by
  simp [contains, keys, List.mem_map]

theorem contains_eq_false_iff {c : Keyed α key} {k : String} :
    c.contains k = false ↔ k ∉ c.keys := by
  rw [← contains_iff, Bool.not_eq_true]

theorem nodup_keys_concat (c : Keyed α key) (a : α) (h : ¬c.contains (key a) = true) :
    ((c.toList ++ [a]).map key).Nodup := by
  rw [contains_iff] at h
  rw [List.map_append, List.nodup_append]
  refine ⟨c.nodup_keys, by simp, fun x hx y hy => ?_⟩
  obtain rfl : y = key a := by simpa using hy
  exact fun e => h (e ▸ hx)

/-- Adds an item at the end unless its key is taken. -/
def insert (c : Keyed α key) (a : α) : Keyed α key :=
  if h : c.contains (key a) then c else ⟨c.toList ++ [a], c.nodup_keys_concat a h⟩

/-- The items of a list, the first of those with equal keys. -/
def ofList (items : List α) : Keyed α key := items.foldl insert empty

/-- Takes out the item with a key; the others keep their order. -/
def erase (c : Keyed α key) (k : String) : Keyed α key where
  toList := c.toList.filter (key · != k)
  nodup_keys := c.nodup_keys.sublist ((List.filter_sublist).map key)

/-- Changes every item, but no key. -/
def map (c : Keyed α key) (f : α → α) (h : ∀ a, key (f a) = key a) : Keyed α key where
  toList := c.toList.map f
  nodup_keys := by
    rw [List.map_map, show key ∘ f = key from funext h]
    exact c.nodup_keys

/-- Changes the item with a key, but not the key. -/
def modify (c : Keyed α key) (k : String) (f : α → α) (h : ∀ a, key (f a) = key a) :
    Keyed α key :=
  c.map (fun a => if key a == k then f a else a) fun a => by split <;> simp [h]

/-- Whether two collections hold the same items, in whatever order: they have the same number of
items, and each item of the first agrees with that of the second under its key. -/
def agrees (same : α → α → Bool) (a b : Keyed α key) : Bool :=
  a.size == b.size && a.toList.all fun x =>
    match b.find? (key x) with
    | some y => same x y
    | none => false

@[simp] theorem toList_empty : (empty : Keyed α key).toList = [] := rfl

theorem toList_insert (c : Keyed α key) (a : α) :
    (c.insert a).toList = if key a ∈ c.keys then c.toList else c.toList ++ [a] := by
  unfold insert
  by_cases h : c.contains (key a) = true
  · rw [dif_pos h, if_pos (contains_iff.1 h)]
  · rw [dif_neg h, if_neg (fun hm => h (contains_iff.2 hm))]

@[simp] theorem toList_map (c : Keyed α key) (f : α → α) (h : ∀ a, key (f a) = key a) :
    (c.map f h).toList = c.toList.map f := rfl

@[simp] theorem keys_map (c : Keyed α key) (f : α → α) (h : ∀ a, key (f a) = key a) :
    (c.map f h).keys = c.keys := by
  rw [keys, toList_map, List.map_map, show key ∘ f = key from funext h, keys]

@[simp] theorem keys_modify (c : Keyed α key) (k : String) (f : α → α)
    (h : ∀ a, key (f a) = key a) : (c.modify k f h).keys = c.keys :=
  keys_map ..

theorem find?_eq_some_iff {c : Keyed α key} {k : String} {a : α} :
    c.find? k = some a ↔ a ∈ c.toList ∧ key a = k := by
  constructor
  · intro h
    exact ⟨List.mem_of_find?_eq_some h, by simpa using List.find?_some h⟩
  · rintro ⟨hm, rfl⟩
    have hn := c.nodup_keys
    unfold find?
    generalize c.toList = l at hm hn
    induction l with
    | nil => simp at hm
    | cons b l ih =>
      rw [List.map_cons, List.nodup_cons] at hn
      rcases List.mem_cons.1 hm with rfl | hm
      · simp
      · have hb : key b ≠ key a := fun e => hn.1 (e ▸ List.mem_map_of_mem hm)
        rw [List.find?_cons_of_neg (by simpa using hb)]
        exact ih hm hn.2

theorem find?_eq_none_iff {c : Keyed α key} {k : String} : c.find? k = none ↔ k ∉ c.keys := by
  unfold find? keys
  rw [List.find?_eq_none, List.mem_map]
  constructor
  · rintro h ⟨a, ha, rfl⟩
    exact h a ha (by simp)
  · intro h a ha e
    exact h ⟨a, ha, by simpa using e⟩

@[simp] theorem find?_map (c : Keyed α key) (f : α → α) (h : ∀ a, key (f a) = key a)
    (k : String) : (c.map f h).find? k = (c.find? k).map f := by
  unfold find?
  rw [toList_map, List.find?_map]
  simp only [Function.comp_def, h]

end Keyed

end ThemeOptions
