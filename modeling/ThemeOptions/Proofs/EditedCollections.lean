import ThemeOptions.Proofs.Collections

/-!
# Collections and the changes to them

A collection changes in three ways: an item is added unless its key is taken, an item is taken out,
or items are revised, which leaves their keys alone.  Each change to a single item is said in terms
of the list around it (`Keyed.appends_insert`, `Keyed.takesOut_erase`, `Keyed.changesOne_modify`).

After any number of changes the items are known from these alone (`Keyed.toList_editAll`): first
come those that were there and have not been taken out, and then those that have been added since
and not taken out again, each at the place of the addition that succeeded last.
-/

namespace ThemeOptions

namespace Keyed

variable {α : Type} {key : α → String}

/-! ### One change -/

/-- An item is added at the end if its key is free, and nothing happens if it is taken; the flag
tells which. -/
def Appends (c : Keyed α key) (a : α) (added : Bool) (c' : Keyed α key) : Prop :=
  added = true ∧ key a ∉ c.keys ∧ c'.toList = c.toList ++ [a] ∨
    added = false ∧ key a ∈ c.keys ∧ c' = c

/-- The item with a key is taken out, and those around it stay; if there is none, nothing
happens. -/
def TakesOut (c : Keyed α key) (k : String) (taken : Option α) (c' : Keyed α key) : Prop :=
  (∃ l₁ a l₂, taken = some a ∧ key a = k ∧ c.toList = l₁ ++ a :: l₂ ∧ c'.toList = l₁ ++ l₂) ∨
    taken = none ∧ k ∉ c.keys ∧ c' = c

/-- The item with a key is changed at its place, and those around it stay; if there is none, nothing
happens. -/
def ChangesOne (c : Keyed α key) (k : String) (f : α → α) (c' : Keyed α key) : Prop :=
  (∃ l₁ a l₂, key a = k ∧ c.toList = l₁ ++ a :: l₂ ∧ c'.toList = l₁ ++ f a :: l₂) ∨
    k ∉ c.keys ∧ c' = c

theorem key_ne_of_split {c : Keyed α key} {l₁ l₂ : List α} {a : α}
    (h : c.toList = l₁ ++ a :: l₂) : ∀ b ∈ l₁ ++ l₂, key b ≠ key a := by
  have hnodup := c.nodup_keys
  rw [h, (List.perm_middle.map key).nodup_iff, List.map_cons, List.nodup_cons] at hnodup
  exact fun b hb e => hnodup.1 (e ▸ List.mem_map_of_mem hb)

theorem appends_insert (c : Keyed α key) (a : α) :
    c.Appends a (!c.contains (key a)) (c.insert a) := by
  by_cases ha : key a ∈ c.keys
  · refine .inr ⟨by rw [contains_iff.mpr ha]; rfl, ha, Keyed.ext ?_⟩
    rw [toList_insert, if_pos ha]
  · refine .inl ⟨by rw [contains_eq_false_iff.mpr ha]; rfl, ha, ?_⟩
    rw [toList_insert, if_neg ha]

theorem takesOut_erase (c : Keyed α key) (k : String) :
    c.TakesOut k (c.find? k) (c.erase k) := by
  cases hfind : c.find? k with
  | none =>
    have hk := find?_eq_none_iff.mp hfind
    refine .inr ⟨rfl, hk, Keyed.ext ?_⟩
    refine List.filter_eq_self.mpr fun b hb => bne_iff_ne.mpr fun e => ?_
    exact hk (e ▸ List.mem_map_of_mem hb)
  | some a =>
    obtain ⟨hmem, rfl⟩ := find?_eq_some_iff.mp hfind
    obtain ⟨l₁, l₂, hlist⟩ := List.append_of_mem hmem
    have hothers := key_ne_of_split hlist
    refine .inl ⟨l₁, a, l₂, rfl, rfl, hlist, ?_⟩
    show c.toList.filter (key · != key a) = l₁ ++ l₂
    rw [hlist, List.filter_append, List.filter_cons_of_neg (by simp), ← List.filter_append]
    exact List.filter_eq_self.mpr fun b hb => bne_iff_ne.mpr (hothers b hb)

/-- Only the item with the key changes. -/
theorem toList_modify_of_split {c : Keyed α key} {l₁ l₂ : List α} {a : α}
    (hlist : c.toList = l₁ ++ a :: l₂) (f : α → α) (h : ∀ a, key (f a) = key a) :
    (c.modify (key a) f h).toList = l₁ ++ f a :: l₂ := by
  have hothers : ∀ b ∈ l₁ ++ l₂, (if key b == key a then f b else b) = b := fun b hb => by
    rw [if_neg (by simpa using key_ne_of_split hlist b hb)]
  rw [modify, toList_map, hlist, List.map_append, List.map_cons,
    List.map_congr_left fun b hb => hothers b (List.mem_append_left l₂ hb),
    List.map_congr_left fun b hb => hothers b (List.mem_append_right l₁ hb), List.map_id',
    List.map_id', if_pos (beq_self_eq_true _)]

theorem changesOne_modify (c : Keyed α key) (k : String) (f : α → α)
    (h : ∀ a, key (f a) = key a) : c.ChangesOne k f (c.modify k f h) := by
  by_cases hk : k ∈ c.keys
  · obtain ⟨a, hmem, rfl⟩ := List.mem_map.mp hk
    obtain ⟨l₁, l₂, hlist⟩ := List.append_of_mem hmem
    exact .inl ⟨l₁, a, l₂, rfl, hlist, toList_modify_of_split hlist f h⟩
  · refine .inr ⟨hk, Keyed.ext ((List.map_congr_left fun b hb => ?_).trans (List.map_id _))⟩
    have hne : key b ≠ k := fun e => hk (e ▸ List.mem_map_of_mem hb)
    rw [if_neg (by simpa using hne), id]

/-! ### Several changes -/

/-- A change to a collection. -/
inductive Edit (α : Type) (key : α → String) where
  | insert (a : α)
  | erase (k : String)
  /-- Items are revised in the light of the collection, but not their keys. -/
  | revise (f : Keyed α key → α → α) (h : ∀ c a, key (f c a) = key a)

def edit (c : Keyed α key) : Edit α key → Keyed α key
  | .insert a => c.insert a
  | .erase k => c.erase k
  | .revise f h => c.map (f c) (h c)

/-- The collection after several changes. -/
def editAll (c : Keyed α key) (edits : List (Edit α key)) : Keyed α key := edits.foldl edit c

/-- What a change makes of an item that stays. -/
def Edit.revised (c : Keyed α key) (a : α) : Edit α key → α
  | .revise f _ => f c a
  | _ => a

/-- Whether a change takes out the item with a key. -/
def Edit.erases (k : String) : Edit α key → Bool
  | .erase k' => k' == k
  | _ => false

/-- Whether a change adds an item with a key, or tries to. -/
def Edit.inserts (k : String) : Edit α key → Bool
  | .insert a => key a == k
  | _ => false

/-- What several changes make of an item that stays. -/
def lastForm (c : Keyed α key) : List (Edit α key) → α → α
  | [], a => a
  | e :: later, a => (c.edit e).lastForm later (e.revised c a)

/-- The items that are added and stay: each addition that succeeds gives one, unless its key is
taken out later on. -/
def newcomers (c : Keyed α key) : List (Edit α key) → List α
  | [] => []
  | .insert a :: later =>
    if c.contains (key a) || later.any (Edit.erases (key a)) then (c.insert a).newcomers later
    else (c.insert a).lastForm later a :: (c.insert a).newcomers later
  | e :: later => (c.edit e).newcomers later

/-- The items after several changes. -/
theorem toList_editAll (c : Keyed α key) (edits : List (Edit α key)) :
    (c.editAll edits).toList =
      (c.toList.filter fun a => !edits.any (Edit.erases (key a))).map (c.lastForm edits) ++
        c.newcomers edits := by
  induction edits generalizing c with
  | nil => simp [editAll, newcomers, lastForm]
  | cons e later ih =>
    rw [editAll, List.foldl_cons, ← editAll, ih]
    cases e with
    | insert a =>
      have hstay : (c.toList.filter fun b => !(Edit.insert a :: later).any (Edit.erases (key b))) =
          c.toList.filter fun b => !later.any (Edit.erases (key b)) := rfl
      rw [hstay, edit, newcomers, toList_insert]
      by_cases ha : key a ∈ c.keys
      · rw [if_pos ha, if_pos (by rw [contains_iff.mpr ha, Bool.true_or])]
        rfl
      · rw [if_neg ha, contains_eq_false_iff.mpr ha, Bool.false_or, List.filter_append,
          List.map_append, List.append_assoc]
        by_cases hlater : later.any (Edit.erases (key a)) = true
        · rw [if_pos hlater, List.filter_cons_of_neg (by simpa using hlater)]
          rfl
        · rw [if_neg hlater, List.filter_cons_of_pos (by simpa using hlater)]
          rfl
    | erase k =>
      have hstay : (c.erase k).toList.filter (fun b => !later.any (Edit.erases (key b))) =
          c.toList.filter fun b => !(Edit.erase k :: later).any (Edit.erases (key b)) := by
        show (c.toList.filter (key · != k)).filter _ = _
        rw [List.filter_filter]
        refine List.filter_congr fun b _ => ?_
        rw [List.any_cons, Bool.not_or, Bool.and_comm, Edit.erases, Bool.beq_comm]
        rfl
      rw [edit, hstay]
      rfl
    | revise f h =>
      have hstay : (c.map (f c) (h c)).toList.filter (fun b => !later.any (Edit.erases (key b))) =
          (c.toList.filter fun b => !later.any (Edit.erases (key b))).map (f c) := by
        rw [toList_map, List.filter_map]
        simp only [Function.comp_def, h c]
      rw [edit, hstay, List.map_map]
      rfl

/-- Whether a change adds an item with a key, tries to, or takes it out. -/
def Edit.isAbout (k : String) (e : Edit α key) : Bool := e.inserts k || e.erases k

/-- The last of several changes that is about a key. -/
def lastAbout? (k : String) (edits : List (Edit α key)) : Option (Edit α key) :=
  (edits.filter (Edit.isAbout k)).getLast?

theorem lastAbout?_concat (k : String) (edits : List (Edit α key)) (e : Edit α key) :
    lastAbout? k (edits ++ [e]) =
      if e.isAbout k then some e else lastAbout? k edits := by
  unfold lastAbout?
  rw [List.filter_append]
  split
  · rename_i h
    rw [List.filter_cons_of_pos h, List.filter_nil, List.getLast?_concat]
  · rename_i h
    rw [List.filter_cons_of_neg h, List.filter_nil, List.append_nil]

theorem mem_keys_insert (c : Keyed α key) (a : α) (k : String) :
    k ∈ (c.insert a).keys ↔ k ∈ c.keys ∨ key a = k := by
  rw [keys, toList_insert]
  split
  · rename_i h
    exact ⟨.inl, fun hk => hk.elim id fun e => e ▸ h⟩
  · rw [List.map_append, List.mem_append, List.map_singleton, List.mem_singleton, eq_comm]
    rfl

theorem mem_keys_erase (c : Keyed α key) (k k' : String) :
    k ∈ (c.erase k').keys ↔ k ∈ c.keys ∧ k' ≠ k := by
  simp only [keys, erase, List.mem_map, List.mem_filter, bne_iff_ne]
  constructor
  · rintro ⟨a, ⟨ha, hne⟩, rfl⟩
    exact ⟨⟨a, ha, rfl⟩, hne.symm⟩
  · rintro ⟨⟨a, ha, rfl⟩, hne⟩
    exact ⟨a, ⟨ha, hne.symm⟩, rfl⟩

/-- An item with a key is there exactly if the last change about the key was an addition; if there
was no such change, it is as it was before. -/
theorem mem_keys_editAll (c : Keyed α key) (edits : List (Edit α key)) (k : String) :
    k ∈ (c.editAll edits).keys ↔
      match lastAbout? k edits with
      | some e => e.inserts k = true
      | none => k ∈ c.keys := by
  induction edits using List.reverseRecOn with
  | nil => rfl
  | append_singleton edits e ih =>
    have hstep : (c.editAll (edits ++ [e])).keys = ((c.editAll edits).edit e).keys := by
      rw [editAll, List.foldl_append]
      rfl
    rw [hstep, lastAbout?_concat]
    cases e with
    | insert a =>
      rw [edit, mem_keys_insert, ih]
      by_cases ha : key a = k <;> simp [Edit.isAbout, Edit.inserts, Edit.erases, ha]
    | erase k' =>
      rw [edit, mem_keys_erase, ih]
      by_cases hk : k' = k <;> simp [Edit.isAbout, Edit.inserts, Edit.erases, hk]
    | revise f h =>
      rw [edit, keys_map, ih]
      rfl

/-- What a collection is after several changes to another one. -/
structure Follows (c : Keyed α key) (edits : List (Edit α key)) (c' : Keyed α key) : Prop where
  /-- The items that were there and stay come first, and then those that are added and stay. -/
  items : c'.toList =
    (c.toList.filter fun a => !edits.any (Edit.erases (key a))).map (c.lastForm edits) ++
      c.newcomers edits
  /-- What is there has been added last, and not taken out. -/
  present : ∀ k, k ∈ c'.keys ↔
    match lastAbout? k edits with
    | some e => e.inserts k = true
    | none => k ∈ c.keys
  /-- Every item is found under its own key, and nothing else is. -/
  stored : ∀ k a, c'.find? k = some a ↔ a ∈ c'.toList ∧ key a = k
  distinct : c'.keys.Nodup

theorem follows_editAll (c : Keyed α key) (edits : List (Edit α key)) :
    c.Follows edits (c.editAll edits) where
  items := c.toList_editAll edits
  present := c.mem_keys_editAll edits
  stored _ _ := find?_eq_some_iff
  distinct := (c.editAll edits).nodup_keys

end Keyed

end ThemeOptions
