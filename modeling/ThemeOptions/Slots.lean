import ThemeOptions.Keyed

/-!
# Collections whose items may change their keys

An item is put into the slot of its key, and stays there.  What is handed out can be changed in any
way, so the item in a slot may have got another key by now.  A `Keyed` collection is the case in
which every item has the key of its slot (`Slots.inPlace_iff`), and its operations are those on the
slots (`Keyed.slots_insert`, `Keyed.slots_erase`, `Keyed.slots_modify`).  Every arrangement of items
in slots can be brought about by putting items in and changing them (`Slots.eq_foldl_put_revise`).
-/

namespace ThemeOptions

/-- Items in the order in which they were put in, each in a slot of its own. -/
abbrev Slots (α : Type) := Keyed (String × α) Prod.fst

namespace Slots

variable {α : Type} {key : α → String}

/-- The items, in order. -/
def items (c : Slots α) : List α := c.toList.map Prod.snd

/-- The item in a slot. -/
def item? (c : Slots α) (slot : String) : Option α := (c.find? slot).map Prod.snd

/-- Puts an item at the end, into the slot of its key, unless that is taken. -/
def put (key : α → String) (c : Slots α) (a : α) : Slots α := c.insert (key a, a)

/-- Changes every item, by its slot and by what it is. -/
def update (c : Slots α) (f : String → α → α) : Slots α :=
  c.map (fun x => (x.1, f x.1 x.2)) fun _ => rfl

/-- Changes the item in a slot in any way. -/
def revise (c : Slots α) (slot : String) (f : α → α) : Slots α :=
  c.update fun k a => if k == slot then f a else a

/-- Whether two collections have items that say the same in the same slots, in whatever order. -/
def agrees (same : α → α → Bool) (a b : Slots α) : Bool :=
  Keyed.agrees (fun x y => same x.2 y.2) a b

/-- Every item has the key of its slot. -/
def InPlace (key : α → String) (c : Slots α) : Prop := ∀ x ∈ c.toList, key x.2 = x.1

theorem item?_update (c : Slots α) (f : String → α → α) (slot : String) :
    (c.update f).item? slot = (c.item? slot).map (f slot) := by
  unfold item? update
  rw [Keyed.find?_map, Option.map_map, Option.map_map]
  cases h : c.find? slot with
  | none => rfl
  | some x =>
    obtain ⟨-, rfl⟩ := Keyed.find?_eq_some_iff.mp h
    rfl

/-! ### Items in place -/

/-- A change that leaves the key alone leaves the items in place. -/
theorem InPlace.revise {c : Slots α} (h : c.InPlace key) {slot : String} {f : α → α}
    (hf : ∀ a, key (f a) = key a) : (c.revise slot f).InPlace key := by
  intro x hx
  obtain ⟨y, hy, rfl⟩ := List.mem_map.mp hx
  show key (if y.1 == slot then f y.2 else y.2) = y.1
  split
  · exact (hf y.2).trans (h y hy)
  · exact h y hy

theorem InPlace.map_items {c : Slots α} (h : c.InPlace key) : c.items.map key = c.keys := by
  unfold items Keyed.keys
  rw [List.map_map]
  exact List.map_congr_left h

end Slots

/-! ### What can be brought about -/

namespace Slots

variable {α : Type} {key : α → String}

/-- An item is put in under its key and becomes another one there. -/
theorem toList_put_revise {c : Slots α} {a : α} (h : key a ∉ c.keys) (b : α) :
    ((c.put key a).revise (key a) fun _ => b).toList = c.toList ++ [(key a, b)] := by
  have hput : (c.put key a).toList = c.toList ++ [(key a, a)] := by
    rw [put, Keyed.toList_insert, if_neg h]
  have hold : ∀ x ∈ c.toList, (x.1, if x.1 == key a then b else x.2) = x := fun x hx => by
    have hne : (x.1 == key a) = false :=
      beq_eq_false_iff_ne.mpr fun e => h (e ▸ List.mem_map_of_mem hx)
    rw [hne]
    rfl
  have hnew : (key a, if key a == key a then b else a) = (key a, b) := by
    rw [beq_self_eq_true, if_pos rfl]
  show (c.put key a).toList.map (fun x => (x.1, if x.1 == key a then b else x.2)) = _
  rw [hput, List.map_append, List.map_congr_left hold, List.map_id', List.map_singleton, hnew]

/-- Whatever is in slots can be brought about by putting items in and changing them. -/
theorem eq_foldl_put_revise (blank : String → α) (hblank : ∀ k, key (blank k) = k) (c : Slots α) :
    c.toList.foldl (fun d x => (put key d (blank x.1)).revise x.1 fun _ => x.2) Keyed.empty = c := by
  have hfold (l : List (String × α)) (d : Slots α)
      (hnodup : ((d.toList ++ l).map Prod.fst).Nodup) :
      (l.foldl (fun d x => (put key d (blank x.1)).revise x.1 fun _ => x.2) d).toList =
        d.toList ++ l := by
    induction l generalizing d with
    | nil => exact (List.append_nil _).symm
    | cons x l ih =>
      have hfree : key (blank x.1) ∉ d.keys := by
        rw [hblank]
        rw [List.map_append, List.nodup_append] at hnodup
        exact fun hm => hnodup.2.2 _ hm _ (by simp) rfl
      have hstep := toList_put_revise hfree x.2
      rw [hblank] at hstep
      rw [List.foldl_cons, ih _ (by rwa [hstep, List.append_assoc]), hstep, List.append_assoc]
      rfl
  exact Keyed.ext (hfold c.toList Keyed.empty c.nodup_keys)

end Slots

/-! ### Collections as slots -/

namespace Keyed

variable {α : Type} {key : α → String}

/-- Every item in the slot of its key. -/
def slots (c : Keyed α key) : Slots α where
  toList := c.toList.map fun a => (key a, a)
  nodup_keys := by
    rw [List.map_map]
    exact c.nodup_keys

variable (c : Keyed α key)

theorem inPlace_slots : c.slots.InPlace key := by
  intro x hx
  obtain ⟨a, -, rfl⟩ := List.mem_map.mp hx
  rfl

@[simp] theorem items_slots : c.slots.items = c.toList := by
  rw [Slots.items, slots, List.map_map]
  exact List.map_id _

@[simp] theorem keys_slots : c.slots.keys = c.keys :=
  (c.inPlace_slots.map_items.symm).trans (congrArg (List.map key) c.items_slots)

theorem item?_slots (k : String) : c.slots.item? k = c.find? k := by
  unfold Slots.item? find?
  rw [slots, List.find?_map, Option.map_map]
  exact Option.map_id' ..

theorem slots_insert (a : α) : (c.insert a).slots = c.slots.put key a := by
  refine Keyed.ext ?_
  show (c.insert a).toList.map _ = _
  rw [Slots.put, toList_insert, toList_insert, keys_slots]
  split
  · rfl
  · rw [List.map_append]
    rfl

theorem slots_erase (k : String) : (c.erase k).slots = Keyed.erase c.slots k := by
  refine Keyed.ext ?_
  show (c.toList.filter _).map _ = (c.toList.map _).filter _
  rw [List.filter_map]
  rfl

theorem slots_modify (k : String) (f : α → α) (h : ∀ a, key (f a) = key a) :
    (c.modify k f h).slots = c.slots.revise k f := by
  refine Keyed.ext ?_
  show (c.toList.map _).map _ = (c.toList.map _).map _
  rw [List.map_map, List.map_map]
  refine List.map_congr_left fun a _ => Prod.ext ?_ rfl
  show key (if key a == k then f a else a) = key a
  split
  · exact h a
  · rfl

theorem agrees_slots (same : α → α → Bool) (d : Keyed α key) :
    c.slots.agrees same d.slots = c.agrees same d := by
  have hsize (e : Keyed α key) : e.slots.size = e.size := List.length_map _
  have hitem (k : String) : d.slots.find? k = (d.find? k).map fun a => (key a, a) := by
    unfold find?
    rw [slots, List.find?_map]
    rfl
  unfold Slots.agrees agrees
  rw [hsize, hsize, show c.slots.toList = c.toList.map fun a => (key a, a) from rfl, List.all_map]
  refine congrArg _ (congrArg (List.all c.toList) (funext fun a => ?_))
  rw [Function.comp_apply, hitem]
  cases d.find? (key a) <;> rfl

end Keyed

namespace Slots

variable {α : Type} {key : α → String} {c : Slots α}

/-- Slots with every item in place are a collection with distinct keys. -/
theorem inPlace_iff : c.InPlace key ↔ ∃ k : Keyed α key, k.slots = c := by
  constructor
  · intro h
    have hnodup : (c.items.map key).Nodup := h.map_items ▸ c.nodup_keys
    refine ⟨⟨c.items, hnodup⟩, Keyed.ext ?_⟩
    show (c.toList.map Prod.snd).map (fun a => (key a, a)) = c.toList
    have hself : ∀ x ∈ c.toList, (key x.2, x.2) = x := fun x hx => Prod.ext (h x hx) rfl
    rw [List.map_map]
    exact (List.map_congr_left hself).trans (List.map_id _)
  · rintro ⟨k, rfl⟩
    exact k.inPlace_slots

/-- Items in place are looked up by their keys. -/
theorem InPlace.item?_eq (h : c.InPlace key) (slot : String) :
    c.item? slot = c.items.find? (key · == slot) := by
  obtain ⟨k, rfl⟩ := inPlace_iff.mp h
  rw [k.item?_slots, k.items_slots]
  rfl

end Slots

end ThemeOptions
