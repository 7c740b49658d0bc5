import Mathlib.Data.List.Induction
import Mathlib.Data.List.Nodup
import Mathlib.Data.List.Perm.Subperm
import ThemeOptions.Keyed

/-!
# Collections made of lists

A list may have many items under one key; a collection that is made of it keeps the first of them,
so its keys are the first occurrences in the list (`Keyed.keys_ofList`, `Keyed.find?_ofList`).  What
is added to a collection comes after what it holds, without the items whose keys are taken
(`Keyed.toList_foldl_insert`).

Collections that agree have the same items under the same keys, in whatever order.
-/

open scoped List

namespace ThemeOptions

/-! ### First occurrences -/

theorem nodup_eraseDups : ∀ l : List String, l.eraseDups.Nodup
  | [] => List.nodup_nil
  | a :: l => by
    rw [List.eraseDups_cons, List.nodup_cons, List.mem_eraseDups, List.mem_filter]
    exact ⟨by simp, nodup_eraseDups _⟩
termination_by l => l.length
decreasing_by exact Nat.lt_succ_of_le (List.length_filter_le ..)

theorem eraseDups_of_nodup {l : List String} (h : l.Nodup) : l.eraseDups = l := by
  induction l with
  | nil => rfl
  | cons a l ih =>
    rw [List.nodup_cons] at h
    have hfilter : (l.filter fun b => !b == a) = l := by
      refine List.filter_eq_self.mpr fun b hb => ?_
      simpa using fun e : b = a => h.1 (e ▸ hb)
    rw [List.eraseDups_cons, hfilter, ih h.2]

section

variable {α : Type}

/-- Every item of a list with those before it. -/
def withBefore (l : List α) : List (List α × α) := l.zipIdx.map fun x => (l.take x.2, x.1)

@[simp] theorem withBefore_nil : withBefore ([] : List α) = [] := rfl

theorem withBefore_concat (l : List α) (a : α) :
    withBefore (l ++ [a]) = withBefore l ++ [(l, a)] := by
  have hbefore : (l.zipIdx.map fun x => ((l ++ [a]).take x.2, x.1)) = withBefore l := by
    refine List.map_congr_left fun x hx => ?_
    have hlt : x.2 < l.length := by simpa using (List.mem_zipIdx hx).2.1
    rw [List.take_append_of_le_length (Nat.le_of_lt hlt)]
  unfold withBefore
  rw [List.zipIdx_append, List.map_append, hbefore]
  simp [withBefore]

end

/-! ### Picking from a list -/

/-- Among distinct keys the order does not matter for a look-up. -/
theorem find?_eq_of_perm {α : Type} {key : α → String} {l l' : List α} (h : l ~ l')
    (hdistinct : (l.map key).Nodup) (k : String) :
    l.find? (key · == k) = l'.find? (key · == k) := by
  have hdistinct' : (l'.map key).Nodup := (h.map key).nodup_iff.mp hdistinct
  refine Option.ext fun a => ?_
  have hl : l.find? (key · == k) = some a ↔ a ∈ l ∧ key a = k :=
    Keyed.find?_eq_some_iff (c := ⟨l, hdistinct⟩)
  have hl' : l'.find? (key · == k) = some a ↔ a ∈ l' ∧ key a = k :=
    Keyed.find?_eq_some_iff (c := ⟨l', hdistinct'⟩)
  rw [hl, hl', h.mem_iff]

/-- The attributions of what is picked from a list, in order. -/
theorem map_filterMap_eq_map_filter {α β γ : Type} {pick : α → Option β} {f : α → γ} {g : β → γ}
    (h : ∀ a b, pick a = some b → g b = f a) (l : List α) :
    (l.filterMap pick).map g = (l.filter fun a => (pick a).isSome).map f := by
  induction l with
  | nil => rfl
  | cons a l ih =>
    cases hpick : pick a with
    | none => rw [List.filterMap_cons_none hpick, List.filter_cons_of_neg (by simp [hpick]), ih]
    | some b =>
      rw [List.filterMap_cons_some hpick, List.filter_cons_of_pos (by simp [hpick]),
        List.map_cons, List.map_cons, ih, h a b hpick]

/-- Picking more from a list keeps what was picked, in order. -/
theorem filterMap_sublist_filterMap {α β : Type} {pick pick' : α → Option β}
    (h : ∀ a b, pick a = some b → pick' a = some b) (l : List α) :
    l.filterMap pick <+ l.filterMap pick' := by
  induction l with
  | nil => exact .slnil
  | cons a l ih =>
    cases hpick : pick a with
    | none =>
      rw [List.filterMap_cons_none hpick]
      cases hpick' : pick' a with
      | none => rwa [List.filterMap_cons_none hpick']
      | some b =>
        rw [List.filterMap_cons_some hpick']
        exact ih.cons b
    | some b =>
      rw [List.filterMap_cons_some hpick, List.filterMap_cons_some (h a b hpick)]
      exact ih.cons_cons b

/-- Lists are joined to the same list in any order if at most one of them has items. -/
theorem flatMap_congr_of_perm {α β : Type} {f : α → List β} {l l' : List α} (h : l ~ l')
    (halone : l.Pairwise fun a b => f a = [] ∨ f b = []) : l.flatMap f = l'.flatMap f := by
  induction h with
  | nil => rfl
  | cons a _ ih => rw [List.flatMap_cons, List.flatMap_cons, ih (List.pairwise_cons.mp halone).2]
  | swap a b l =>
    rw [List.flatMap_cons, List.flatMap_cons, List.flatMap_cons, List.flatMap_cons]
    rcases (List.pairwise_cons.mp halone).1 a List.mem_cons_self with h | h
    · rw [h, List.nil_append, List.nil_append]
    · rw [h, List.nil_append, List.nil_append]
  | trans h _ ih ih' =>
    have halone' := (h.pairwise_iff fun {a b} (h : f a = [] ∨ f b = []) => h.symm).mp halone
    rw [ih halone, ih' halone']

namespace Keyed

variable {α : Type} {key : α → String}

theorem nodup_toList (c : Keyed α key) : c.toList.Nodup :=
  List.Nodup.of_map key c.nodup_keys

/-! ### Items of a list -/

theorem ofList_concat (l : List α) (a : α) :
    (ofList (l ++ [a]) : Keyed α key) = (ofList l).insert a := by
  rw [ofList, List.foldl_append]
  rfl

theorem sublist_ofList (l : List α) : (ofList l : Keyed α key).toList <+ l := by
  induction l using List.reverseRecOn with
  | nil => exact .slnil
  | append_singleton l a ih =>
    rw [ofList_concat, toList_insert]
    split
    · exact ih.trans (List.sublist_append_left l [a])
    · exact ih.append_right [a]

/-- The keys of a collection that is made of a list are those of the list, each where it stands
first. -/
theorem keys_ofList (l : List α) : (ofList l : Keyed α key).keys = (l.map key).eraseDups := by
  induction l using List.reverseRecOn with
  | nil => rfl
  | append_singleton l a ih =>
    have hmem : key a ∈ (ofList l : Keyed α key).keys ↔ key a ∈ l.map key := by
      rw [ih, List.mem_eraseDups]
    rw [ofList_concat, List.map_append, List.eraseDups_append, ← ih, keys, toList_insert]
    by_cases ha : key a ∈ l.map key
    · have hrest : [key a].removeAll (l.map key) = [] := by
        rw [List.removeAll, List.filter_eq_nil_iff]
        simpa using ha
      rw [if_pos (hmem.mpr ha), List.map_singleton, hrest]
      exact (List.append_nil _).symm
    · have hrest : [key a].removeAll (l.map key) = [key a] := by
        rw [List.removeAll, List.filter_eq_self]
        simpa using ha
      rw [if_neg fun h => ha (hmem.mp h), List.map_singleton, hrest, List.map_append]
      rfl

/-- A collection that is made of a list has under a key what stands first in the list under it. -/
theorem find?_ofList (l : List α) (k : String) :
    (ofList l : Keyed α key).find? k = l.find? (key · == k) := by
  induction l using List.reverseRecOn with
  | nil => rfl
  | append_singleton l a ih =>
    rw [ofList_concat, List.find?_append, ← ih, find?, toList_insert]
    by_cases ha : key a ∈ (ofList l : Keyed α key).keys
    · rw [if_pos ha]
      by_cases hk : key a = k
      · obtain ⟨b, hb⟩ : ∃ b, (ofList l : Keyed α key).find? k = some b := by
          rw [← Option.ne_none_iff_exists', Ne, find?_eq_none_iff, not_not, ← hk]
          exact ha
        rw [hb]
        exact hb
      · simp [hk, find?]
    · rw [if_neg ha, List.find?_append]
      rfl

/-- It makes no difference whether items are picked by their keys before or after they are mapped to
others with these keys. -/
theorem map_toList_ofList {β : Type} {key : β → String} (f : α → β) (l : List α) :
    (ofList l : Keyed α fun a => key (f a)).toList.map f =
      (ofList (l.map f) : Keyed β key).toList := by
  induction l using List.reverseRecOn with
  | nil => rfl
  | append_singleton l a ih =>
    have hkeys : (ofList l : Keyed α fun a => key (f a)).keys =
        (ofList (l.map f) : Keyed β key).keys := by
      rw [keys_ofList, keys_ofList, List.map_map]
      rfl
    rw [List.map_append, List.map_singleton, ofList_concat, ofList_concat, toList_insert,
      toList_insert, hkeys, ← ih]
    split
    · rfl
    · rw [List.map_append, List.map_singleton]

/-- A collection is made of its items. -/
theorem ofList_toList (c : Keyed α key) : ofList c.toList = c := by
  have hkeys : (ofList c.toList : Keyed α key).keys = c.keys := by
    rw [keys_ofList]
    exact eraseDups_of_nodup c.nodup_keys
  have hlength : (ofList c.toList : Keyed α key).toList.length = c.toList.length := by
    simpa [keys] using congrArg List.length hkeys
  exact Keyed.ext ((sublist_ofList c.toList).eq_of_length hlength)

/-- A list with distinct keys is kept as it is. -/
theorem toList_ofList_of_nodup {l : List α} (h : (l.map key).Nodup) :
    (ofList l : Keyed α key).toList = l :=
  congrArg toList (ofList_toList (⟨l, h⟩ : Keyed α key))

/-- The items of a list come after those that are there, without those whose keys are taken.  The
induction is on the end of the list, where one more item meets a key of either kind. -/
theorem toList_foldl_insert (l : List α) (c : Keyed α key) :
    (l.foldl insert c).toList =
      c.toList ++ (ofList l : Keyed α key).toList.filter fun a => !c.contains (key a) := by
  induction l using List.reverseRecOn with
  | nil => simp [ofList]
  | append_singleton l a ih =>
    have hkeys : key a ∈ (l.foldl insert c).keys ↔
        key a ∈ c.keys ∨ key a ∈ (ofList l : Keyed α key).keys := by
      rw [keys, ih, List.map_append, List.mem_append]
      constructor
      · rintro (h | h)
        · exact .inl h
        · exact .inr ((List.filter_sublist.map key).subset h)
      · rintro (h | h)
        · exact .inl h
        · by_cases htaken : key a ∈ c.keys
          · exact .inl htaken
          · obtain ⟨b, hb, he⟩ := List.mem_map.mp h
            have hfree : c.contains (key b) = false := by rwa [contains_eq_false_iff, he]
            exact .inr (List.mem_map.mpr ⟨b, List.mem_filter.mpr ⟨hb, by rw [hfree]; rfl⟩, he⟩)
    rw [List.foldl_append, List.foldl_cons, List.foldl_nil, toList_insert, ih, ofList_concat,
      toList_insert]
    by_cases hc : key a ∈ c.keys
    · have hdropped : [a].filter (fun b => !c.contains (key b)) = [] := by
        simp [contains_iff.mpr hc]
      rw [if_pos (hkeys.mpr (.inl hc))]
      split
      · rfl
      · rw [List.filter_append, hdropped, List.append_nil]
    · have hkept : [a].filter (fun b => !c.contains (key b)) = [a] := by
        simp [contains_eq_false_iff.mpr hc]
      by_cases hl : key a ∈ (ofList l : Keyed α key).keys
      · rw [if_pos (hkeys.mpr (.inr hl)), if_pos hl]
      · rw [if_neg fun h => (hkeys.mp h).elim hc hl, if_neg hl, List.filter_append, hkept,
          List.append_assoc]

/-- To add items one after the other is to make a collection of all. -/
theorem foldl_insert_eq_ofList (l : List α) (c : Keyed α key) :
    l.foldl insert c = ofList (c.toList ++ l) := by
  rw [ofList, List.foldl_append, ← ofList, ofList_toList]

/-- An item with a key of its own is taken in at its place. -/
theorem ofList_insert {a : α} {l₁ l₂ : List α} (h : ∀ b ∈ l₁ ++ l₂, key b ≠ key a) :
    ∃ m₁ m₂, (ofList (l₁ ++ a :: l₂) : Keyed α key).toList = m₁ ++ a :: m₂ ∧
      (ofList (l₁ ++ l₂) : Keyed α key).toList = m₁ ++ m₂ ∧ m₁ ⊆ l₁ ∧ m₂ ⊆ l₂ := by
  let c : Keyed α key := ofList l₁
  have hsub₁ : c.toList ⊆ l₁ := (sublist_ofList l₁).subset
  have hsub₂ : (ofList l₂ : Keyed α key).toList ⊆ l₂ := (sublist_ofList l₂).subset
  have hfree : key a ∉ c.keys := by
    intro hm
    obtain ⟨b, hb, he⟩ := List.mem_map.mp hm
    exact h b (List.mem_append_left _ (hsub₁ hb)) he
  have hinsert : (c.insert a).toList = c.toList ++ [a] := by rw [toList_insert, if_neg hfree]
  have hrest : ((ofList l₂ : Keyed α key).toList.filter fun b => !(c.insert a).contains (key b)) =
      (ofList l₂ : Keyed α key).toList.filter fun b => !c.contains (key b) := by
    refine List.filter_congr fun b hb => ?_
    have hne : key b ≠ key a := h b (List.mem_append_right _ (hsub₂ hb))
    rw [Bool.not_inj_iff, Bool.eq_iff_iff, contains_iff, contains_iff, keys, hinsert]
    simp [keys, hne]
  refine ⟨c.toList, (ofList l₂ : Keyed α key).toList.filter fun b => !c.contains (key b), ?_, ?_,
    hsub₁, fun x hx => hsub₂ (List.mem_of_mem_filter hx)⟩
  · rw [ofList, List.foldl_append, List.foldl_cons, ← ofList, toList_foldl_insert, hrest, hinsert,
      List.append_assoc, List.singleton_append]
  · rw [ofList, List.foldl_append, ← ofList, toList_foldl_insert]

/-! ### One item less -/

/-- The keys are distinct, so only the item itself goes. -/
theorem toList_erase_of_getElem? {c : Keyed α key} {j : Nat} {a : α} (h : c.toList[j]? = some a) :
    (c.erase (key a)).toList = c.toList.eraseIdx j := by
  have hnodup := c.nodup_keys
  show c.toList.filter (key · != key a) = _
  generalize c.toList = l at h hnodup
  induction l generalizing j with
  | nil => exact absurd h (by simp)
  | cons b l ih =>
    rw [List.map_cons, List.nodup_cons] at hnodup
    cases j with
    | zero =>
      obtain rfl : b = a := by simpa using h
      rw [List.filter_cons_of_neg (by simp), List.eraseIdx_cons_zero, List.filter_eq_self]
      intro x hx
      rw [bne_iff_ne]
      exact fun e => hnodup.1 (e ▸ List.mem_map_of_mem hx)
    | succ j =>
      rw [List.getElem?_cons_succ] at h
      have hne : key b ≠ key a := fun e =>
        hnodup.1 (e ▸ List.mem_map_of_mem (List.mem_of_getElem? h))
      rw [List.filter_cons_of_pos (by simpa using hne), List.eraseIdx_cons_succ, ih h hnodup.2]

/-! ### Collections that agree -/

section

variable {same : α → α → Bool} {a b : Keyed α key}

theorem agrees_self_iff : a.agrees same a = true ↔ ∀ x ∈ a.toList, same x x = true := by
  unfold agrees
  rw [beq_self_eq_true, Bool.true_and, List.all_eq_true]
  refine forall₂_congr fun x hx => ?_
  rw [find?_eq_some_iff.mpr ⟨hx, rfl⟩]

theorem exists_of_agrees (h : a.agrees same b = true) {k : String} {x : α}
    (hx : a.find? k = some x) : ∃ y, b.find? k = some y ∧ same x y = true := by
  obtain ⟨hmem, rfl⟩ := find?_eq_some_iff.mp hx
  rw [agrees, Bool.and_eq_true, List.all_eq_true] at h
  have hsame := h.2 x hmem
  split at hsame
  · rename_i y hy
    exact ⟨y, hy, hsame⟩
  · exact absurd hsame (by simp)

/-- Collections that agree have the same keys, in whatever order. -/
theorem keys_perm_of_agrees (h : a.agrees same b = true) : a.keys ~ b.keys := by
  have hsubset : a.keys ⊆ b.keys := by
    intro k hk
    obtain ⟨x, hx, rfl⟩ := List.mem_map.mp hk
    obtain ⟨y, hy, -⟩ := exists_of_agrees h (find?_eq_some_iff.mpr ⟨hx, rfl⟩)
    obtain ⟨hmem, hkey⟩ := find?_eq_some_iff.mp hy
    exact hkey ▸ List.mem_map_of_mem hmem
  have hlength : b.keys.length = a.keys.length := by
    rw [agrees, Bool.and_eq_true, beq_iff_eq] at h
    simpa [keys, size] using h.1.symm
  exact (List.subperm_of_subset a.nodup_keys hsubset).perm_of_length_le (Nat.le_of_eq hlength)

/-- An id is missing in both of two collections that agree, or has items that say the same. -/
theorem find?_of_agrees (h : a.agrees same b = true) (k : String) :
    a.find? k = none ∧ b.find? k = none ∨
      ∃ x y, a.find? k = some x ∧ b.find? k = some y ∧ same x y = true := by
  cases hx : a.find? k with
  | none =>
    rw [find?_eq_none_iff, (keys_perm_of_agrees h).mem_iff, ← find?_eq_none_iff] at hx
    exact Or.inl ⟨rfl, hx⟩
  | some x =>
    obtain ⟨y, hy, hsame⟩ := exists_of_agrees h hx
    exact Or.inr ⟨x, y, rfl, hy, hsame⟩

end

end Keyed

end ThemeOptions
