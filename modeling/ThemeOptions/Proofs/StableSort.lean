/-!
# Stable sorting

What is needed about `List.mergeSort` beyond order and permutation: items that are as high as each
other keep their order, and a sorted list is known from its *levels*, which are the sublists of such
items (`eq_of_level_eq`).  Hence sorting commutes with taking items out (`filter_mergeSort`), and it
is the only way to arrange distinct items like this (`eq_mergeSort_iff`).
-/

open scoped List

namespace ThemeOptions.StableSort

variable {α : Type} {le : α → α → Bool}

/-- The items of a list that are as high as a given one. -/
def level (le : α → α → Bool) (a : α) (l : List α) : List α :=
  l.filter fun b => le a b && le b a

theorem level_filter (a : α) (p : α → Bool) (l : List α) :
    level le a (l.filter p) = (level le a l).filter p := by
  unfold level
  rw [List.filter_filter, List.filter_filter]
  exact List.filter_congr fun b _ => Bool.and_comm _ _

/-- Of two items in a list without repetitions, only one comes first. -/
theorem pair_antisymm {l : List α} (hnodup : l.Nodup) {a b : α} (hab : [a, b] <+ l) :
    ¬[b, a] <+ l := by
  intro hba
  induction l with
  | nil => cases hab
  | cons c l ih =>
    rw [List.nodup_cons] at hnodup
    cases hab with
    | cons _ hab =>
      cases hba with
      | cons _ hba => exact ih hnodup.2 hab hba
      | cons_cons _ _ => exact hnodup.1 (hab.subset (by simp))
    | cons_cons _ hb =>
      cases hba with
      | cons _ hba => exact hnodup.1 (hba.subset (by simp))
      | cons_cons _ _ => exact hnodup.1 (hb.subset (by simp))

theorem mergeSort_pair (a b : α) :
    [a, b].mergeSort le = if le a b then [a, b] else [b, a] := by
  simp [List.mergeSort, List.MergeSort.Internal.splitInTwo, List.merge]

section

variable (total : ∀ a b, (le a b || le b a) = true)
include total

theorem refl_of_total (a : α) : le a a = true := by
  simpa using total a a

/-- Sorted lists with the same levels are equal. -/
theorem eq_of_level_eq {l₁ l₂ : List α} (h₁ : l₁.Pairwise fun a b => le a b = true)
    (h₂ : l₂.Pairwise fun a b => le a b = true) (h : ∀ a, level le a l₁ = level le a l₂) :
    l₁ = l₂ := by
  have mem_of {l l' : List α} (h : ∀ a, level le a l = level le a l') {a : α} (ha : a ∈ l) :
      a ∈ l' := by
    have hm : a ∈ level le a l := by simp [level, ha, refl_of_total total a]
    rw [h a] at hm
    exact (List.mem_filter.mp hm).1
  induction l₁ generalizing l₂ with
  | nil =>
    cases l₂ with
    | nil => rfl
    | cons b l₂ => exact absurd (mem_of (fun a => (h a).symm) List.mem_cons_self) (by simp)
  | cons a l₁ ih =>
    cases l₂ with
    | nil => exact absurd (mem_of h List.mem_cons_self) (by simp)
    | cons b l₂ =>
      rw [List.pairwise_cons] at h₁ h₂
      -- the two heads are on one level, and each stands first on it
      have hab : le a b = true := by
        rcases List.mem_cons.mp (mem_of (fun a => (h a).symm) List.mem_cons_self) with e | hb
        · rw [e]; exact refl_of_total total a
        · exact h₁.1 b hb
      have hba : le b a = true := by
        rcases List.mem_cons.mp (mem_of h List.mem_cons_self) with e | ha
        · rw [e]; exact refl_of_total total b
        · exact h₂.1 a ha
      have hhead := h a
      simp only [level, List.filter_cons, refl_of_total total a, hab, hba, Bool.and_self,
        if_true, List.cons.injEq] at hhead
      obtain ⟨rfl, -⟩ := hhead
      refine congrArg (a :: ·) (ih h₁.2 h₂.2 fun x => ?_)
      have hx := h x
      simp only [level, List.filter_cons] at hx
      split at hx
      · exact (List.cons.inj hx).2
      · exact hx

variable (trans : ∀ a b c, le a b = true → le b c = true → le a c = true)
include trans

omit total in
theorem pairwise_level (a : α) (l : List α) : (level le a l).Pairwise fun x y => le x y = true := by
  rw [List.pairwise_iff_forall_sublist]
  intro x y hxy
  have hx : x ∈ level le a l := hxy.subset (by simp)
  have hy : y ∈ level le a l := hxy.subset (by simp)
  simp only [level, List.mem_filter, Bool.and_eq_true] at hx hy
  exact trans x a y hx.2.2 hy.2.1

/-- Sorting keeps every level as it is. -/
theorem level_mergeSort (a : α) (l : List α) : level le a (l.mergeSort le) = level le a l := by
  have hsub : level le a l <+ l.mergeSort le :=
    List.sublist_mergeSort trans total (pairwise_level trans a l) List.filter_sublist
  have hlevel : level le a l <+ level le a (l.mergeSort le) := by
    have := hsub.filter fun b => le a b && le b a
    rwa [show (level le a l).filter _ = level le a l by simp [level]] at this
  have hlength : (level le a (l.mergeSort le)).length = (level le a l).length :=
    ((List.mergeSort_perm l le).filter _).length_eq
  exact (hlevel.eq_of_length hlength.symm).symm

/-- Sorting commutes with taking items out. -/
theorem filter_mergeSort (p : α → Bool) (l : List α) :
    (l.mergeSort le).filter p = (l.filter p).mergeSort le := by
  refine eq_of_level_eq total ((List.pairwise_mergeSort trans total l).filter p)
    (List.pairwise_mergeSort trans total _) fun a => ?_
  rw [level_filter, level_mergeSort total trans, level_mergeSort total trans, level_filter]

/-- Sorting keeps every relation between earlier and later items on each level. -/
theorem pairwise_mergeSort_of_pairwise {R : α → α → Prop} {l : List α} (h : l.Pairwise R) :
    (l.mergeSort le).Pairwise fun a b => le a b = true ∧ (le b a = true → R a b) := by
  have hle := List.pairwise_mergeSort trans total l
  rw [List.pairwise_iff_forall_sublist] at h hle ⊢
  intro a b hab
  refine ⟨hle hab, fun hba => h ?_⟩
  have hlevel := hab.filter fun c => le a c && le c a
  simp only [List.filter_cons, refl_of_total total a, hle hab, hba, Bool.and_self, if_true,
    List.filter_nil] at hlevel
  have hsame := level_mergeSort total trans a l
  unfold level at hsame
  rw [hsame] at hlevel
  exact hlevel.trans List.filter_sublist

/-- **The stable sort is the only one.**  A list without repetitions has one sorted rearrangement
that keeps the order of the items that are as high as each other. -/
theorem eq_mergeSort_iff {l l' : List α} (hnodup : l.Nodup) :
    l' = l.mergeSort le ↔
      l' ~ l ∧ (l'.Pairwise fun a b => le a b = true) ∧
        ∀ a b, [a, b] <+ l' → le b a = true → [a, b] <+ l := by
  have hstable : (l.mergeSort le).Pairwise fun a b =>
      le a b = true ∧ (le b a = true → [a, b] <+ l) :=
    pairwise_mergeSort_of_pairwise total trans (List.pairwise_iff_forall_sublist.mpr id)
  constructor
  · rintro rfl
    refine ⟨List.mergeSort_perm l le, hstable.imp And.left, fun a b hab => ?_⟩
    exact (List.pairwise_iff_forall_sublist.mp hstable hab).2
  · rintro ⟨hperm, hsorted, hkept⟩
    have hstable' : l'.Pairwise fun a b => le a b = true ∧ (le b a = true → [a, b] <+ l) := by
      rw [List.pairwise_iff_forall_sublist] at hsorted ⊢
      exact fun {a b} hab => ⟨hsorted hab, hkept a b hab⟩
    refine List.Perm.eq_of_pairwise (fun a b _ _ hab hba => ?_) hstable' hstable
      (hperm.trans (List.mergeSort_perm l le).symm)
    exact (pair_antisymm hnodup (hab.2 hba.1) (hba.2 hab.1)).elim

/-- An item that is nowhere below the others is sorted to the end. -/
theorem mergeSort_insert {l₁ l₂ : List α} {a : α} (h₁ : ∀ b ∈ l₁, le b a = true)
    (h₂ : ∀ b ∈ l₂, le a b = false) :
    (l₁ ++ a :: l₂).mergeSort le = (l₁ ++ l₂).mergeSort le ++ [a] := by
  have hbelow : ∀ b ∈ l₁ ++ l₂, le b a = true := by
    intro b hb
    rcases List.mem_append.mp hb with hb | hb
    · exact h₁ b hb
    · have := total a b
      rwa [h₂ b hb, Bool.false_or] at this
  refine eq_of_level_eq total (List.pairwise_mergeSort trans total _) ?_ fun x => ?_
  · rw [List.pairwise_append]
    refine ⟨List.pairwise_mergeSort trans total _, List.pairwise_singleton _ _, ?_⟩
    intro b hb c hc
    rw [List.mem_singleton.mp hc]
    exact hbelow b (List.mem_mergeSort.mp hb)
  · have happend : ∀ l l' : List α, level le x (l ++ l') = level le x l ++ level le x l' :=
      fun l l' => List.filter_append ..
    rw [happend, level_mergeSort total trans, level_mergeSort total trans, happend, happend,
      show a :: l₂ = [a] ++ l₂ from rfl, happend]
    by_cases hx : (le x a && le a x) = true
    · -- nothing behind `a` is on its level
      have hnone : level le x l₂ = [] := by
        refine List.filter_eq_nil_iff.mpr fun b hb hxb => ?_
        rw [Bool.and_eq_true] at hx hxb
        have := trans a x b hx.2 hxb.1
        rw [h₂ b hb] at this
        exact Bool.false_ne_true this
      rw [hnone, List.append_nil, List.append_nil]
    · have hnone : level le x [a] = [] := by
        simp only [level, List.filter_cons, if_neg hx, List.filter_nil]
      rw [hnone, List.nil_append, List.append_nil]

end

/-! ### Sorting by priority -/

/-- Lower priorities come first. -/
def byPriority (priority : α → Int32) (a b : α) : Bool := priority a ≤ priority b

section

variable (priority : α → Int32)

theorem byPriority_total (a b : α) :
    (byPriority priority a b || byPriority priority b a) = true := by
  simpa [byPriority] using Int32.le_total (priority a) (priority b)

theorem byPriority_trans (a b c : α) (hab : byPriority priority a b = true)
    (hbc : byPriority priority b c = true) : byPriority priority a c = true := by
  rw [byPriority, decide_eq_true_eq] at *
  exact Int32.le_trans hab hbc

theorem level_byPriority (a : α) (l : List α) :
    level (byPriority priority) a l = l.filter (priority · == priority a) := by
  refine List.filter_congr fun b _ => ?_
  rw [Bool.eq_iff_iff, Bool.and_eq_true, beq_iff_eq]
  simp only [byPriority, decide_eq_true_eq]
  constructor
  · rintro ⟨hab, hba⟩
    exact Int32.le_antisymm hba hab
  · intro h
    rw [h]
    exact ⟨Int32.le_refl _, Int32.le_refl _⟩

/-- A sorted list is known from the order of the items within each priority. -/
theorem mergeSort_byPriority_congr {l l' : List α}
    (h : ∀ n, l.filter (priority · == n) = l'.filter (priority · == n)) :
    l.mergeSort (byPriority priority) = l'.mergeSort (byPriority priority) := by
  have total := byPriority_total priority
  have trans := byPriority_trans priority
  refine eq_of_level_eq total (List.pairwise_mergeSort trans total _)
    (List.pairwise_mergeSort trans total _) fun a => ?_
  rw [level_mergeSort total trans, level_mergeSort total trans, level_byPriority, level_byPriority,
    h]

/-- Lists with the same items in each priority have the same items. -/
theorem perm_of_filter_priority_eq {l l' : List α}
    (h : ∀ n, l.filter (priority · == n) = l'.filter (priority · == n)) : l ~ l' := by
  have hsorted := mergeSort_byPriority_congr priority h
  calc l ~ l.mergeSort (byPriority priority) := (List.mergeSort_perm _ _).symm
    _ = l'.mergeSort (byPriority priority) := hsorted
    _ ~ l' := List.mergeSort_perm _ _

theorem filter_mergeSort_byPriority (p : α → Bool) (l : List α) :
    (l.mergeSort (byPriority priority)).filter p =
      (l.filter p).mergeSort (byPriority priority) :=
  filter_mergeSort (byPriority_total priority) (byPriority_trans priority) p l

/-- An item that is above the items behind it, and not below those before it, is sorted to the
end. -/
theorem mergeSort_byPriority_insert {l₁ l₂ : List α} {a : α}
    (h₁ : ∀ b ∈ l₁, priority b ≤ priority a) (h₂ : ∀ b ∈ l₂, priority b < priority a) :
    (l₁ ++ a :: l₂).mergeSort (byPriority priority) =
      (l₁ ++ l₂).mergeSort (byPriority priority) ++ [a] := by
  refine mergeSort_insert (byPriority_total priority) (byPriority_trans priority) ?_ ?_
  · intro b hb
    simpa [byPriority] using h₁ b hb
  · intro b hb
    simpa [byPriority] using h₂ b hb

end

end ThemeOptions.StableSort
