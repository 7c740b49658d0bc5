import Mathlib.Data.List.Induction
import Mathlib.Data.List.Nodup
import ThemeOptions.Builder
import ThemeOptions.Proofs.LateContributor

/-!
# The order of registrations

Contributors and filters share the numbers that a builder gives out, so each of the two lists has
gaps in its numbers; but they increase (`Builder.numbered_ofCalls`), and that is enough for sorting
by priority and number to be the stable sort by priority (`Builder.map_fst_mergeSort_inTurn`).  The
pipeline hence hangs on the two lists alone (`Builder.pipeline_ofCalls`).

`Builder.build_reordered` goes on from there: of the contributors only the order within a priority
matters, and of the filters the order within a priority and a target, since filters for different
contributors never meet.
-/

open scoped List

namespace ThemeOptions

def BuilderCall.contributor? : BuilderCall → Option Contributor
  | contributor c => some c
  | _ => none

def BuilderCall.filter? : BuilderCall → Option Filter
  | filter f => some f
  | _ => none

/-- The contributors that a builder is told of, in the order of the calls. -/
def contributorsOf (calls : List BuilderCall) : List Contributor :=
  calls.filterMap BuilderCall.contributor?

/-- The filters that a builder is told of, in the order of the calls. -/
def filtersOf (calls : List BuilderCall) : List Filter :=
  calls.filterMap BuilderCall.filter?

/-! ### Numbers -/

/-- Items with numbers that increase up to some last one. -/
structure Numbered {α : Type} (l : List (α × Nat)) (items : List α) (last : Nat) : Prop where
  map_fst : l.map Prod.fst = items
  increasing : l.Pairwise fun x y => x.2 < y.2
  le_last : ∀ x ∈ l, x.2 ≤ last

namespace Numbered

variable {α : Type} {l : List (α × Nat)} {items : List α} {last : Nat}

theorem concat (h : Numbered l items last) (a : α) :
    Numbered (l ++ [(a, last + 1)]) (items ++ [a]) (last + 1) := by
  constructor
  · rw [List.map_append, h.map_fst]
    rfl
  · rw [List.pairwise_append]
    refine ⟨h.increasing, List.pairwise_singleton _ _, fun x hx y hy => ?_⟩
    rw [List.mem_singleton.mp hy]
    exact Nat.lt_succ_of_le (h.le_last x hx)
  · intro x hx
    rcases List.mem_append.mp hx with hx | hx
    · exact Nat.le_succ_of_le (h.le_last x hx)
    · exact Nat.le_of_eq (congrArg Prod.snd (List.mem_singleton.mp hx))

theorem succ (h : Numbered l items last) : Numbered l items (last + 1) :=
  ⟨h.map_fst, h.increasing, fun x hx => Nat.le_succ_of_le (h.le_last x hx)⟩

end Numbered

namespace Builder

theorem ofCalls_concat (calls : List BuilderCall) (call : BuilderCall) :
    ofCalls (calls ++ [call]) = (ofCalls calls).perform call := by
  rw [ofCalls, List.foldl_append]
  rfl

/-- A call appends what it registers under the next number. -/
theorem numbered_perform {b : Builder} {cs : List Contributor} {fs : List Filter}
    (hcs : Numbered b.contributors cs b.last) (hfs : Numbered b.filters fs b.last)
    (call : BuilderCall) :
    Numbered (b.perform call).contributors (cs ++ call.contributor?.toList) (b.perform call).last ∧
      Numbered (b.perform call).filters (fs ++ call.filter?.toList) (b.perform call).last := by
  cases call with
  | contributor c => exact ⟨hcs.concat c, (List.append_nil fs).symm ▸ hfs.succ⟩
  | filter f => exact ⟨(List.append_nil cs).symm ▸ hcs.succ, hfs.concat f⟩
  | _ => exact ⟨(List.append_nil cs).symm ▸ hcs, (List.append_nil fs).symm ▸ hfs⟩

/-- Contributors and filters are numbered in the order of the calls. -/
theorem numbered_ofCalls (calls : List BuilderCall) :
    Numbered (ofCalls calls).contributors (contributorsOf calls) (ofCalls calls).last ∧
      Numbered (ofCalls calls).filters (filtersOf calls) (ofCalls calls).last := by
  have hone {α β : Type} (f : α → Option β) (a : α) : [a].filterMap f = (f a).toList := by
    rw [List.filterMap_cons]
    cases f a <;> rfl
  induction calls using List.reverseRecOn with
  | nil => exact ⟨⟨rfl, .nil, by simp [ofCalls]⟩, ⟨rfl, .nil, by simp [ofCalls]⟩⟩
  | append_singleton calls call ih =>
    rw [ofCalls_concat, contributorsOf, List.filterMap_append, hone, filtersOf,
      List.filterMap_append, hone]
    exact numbered_perform ih.1 ih.2 call

/-! ### Sorting by priority and number -/

section

variable {α : Type} (priority : α → Int32)

theorem inTurn_iff {a b : α × Nat} : inTurn priority a b = true ↔
    priority a.1 ≤ priority b.1 ∧ (priority b.1 ≤ priority a.1 → a.2 ≤ b.2) := by
  simp only [inTurn, Bool.or_eq_true, Bool.and_eq_true, decide_eq_true_eq, beq_iff_eq,
    Int32.le_iff_toInt_le, Int32.lt_iff_toInt_lt, ← Int32.toInt_inj]
  omega

theorem inTurn_total (a b : α × Nat) : (inTurn priority a b || inTurn priority b a) = true := by
  rw [Bool.or_eq_true, inTurn_iff, inTurn_iff]
  simp only [Int32.le_iff_toInt_le]
  omega

theorem inTurn_trans (a b c : α × Nat) (hab : inTurn priority a b = true)
    (hbc : inTurn priority b c = true) : inTurn priority a c = true := by
  rw [inTurn_iff] at *
  simp only [Int32.le_iff_toInt_le] at *
  omega

/-- Items whose numbers increase are sorted stably. -/
theorem map_fst_mergeSort_inTurn {l : List (α × Nat)} (h : l.Pairwise fun x y => x.2 < y.2) :
    (l.mergeSort (inTurn priority)).map Prod.fst =
      (l.map Prod.fst).mergeSort (StableSort.byPriority priority) := by
  let le := StableSort.byPriority fun x : α × Nat => priority x.1
  have hstable : (l.mergeSort le).Pairwise fun a b => inTurn priority a b = true := by
    refine (StableSort.pairwise_mergeSort_of_pairwise (StableSort.byPriority_total _)
      (StableSort.byPriority_trans _) h).imp fun {a b} hab => ?_
    rw [inTurn_iff]
    simp only [StableSort.byPriority, decide_eq_true_eq] at hab
    exact ⟨hab.1, fun hba => Nat.le_of_lt (hab.2 hba)⟩
  -- the numbers are distinct, so there is one order only
  have hnumbers : (l.map Prod.snd).Nodup := List.pairwise_map.mpr (h.imp Nat.ne_of_lt)
  have hsame : l.mergeSort (inTurn priority) = l.mergeSort le := by
    refine List.Perm.eq_of_pairwise (fun a b ha hb hab hba => ?_)
      (List.pairwise_mergeSort (inTurn_trans priority) (inTurn_total priority) l) hstable
      ((List.mergeSort_perm l _).trans (List.mergeSort_perm l le).symm)
    have hnumber : a.2 = b.2 := by
      rw [inTurn_iff] at hab hba
      exact Nat.le_antisymm (hab.2 hba.1) (hba.2 hab.1)
    exact List.inj_on_of_nodup_map hnumbers (List.mem_mergeSort.mp ha) (List.mem_mergeSort.mp hb)
      hnumber
  rw [hsame]
  exact List.map_mergeSort fun _ _ _ _ => rfl

end

/-- The contributors and filters of the pipeline that is built are those of the calls, sorted
stably; its settings are those of the builder. -/
theorem pipeline_ofCalls (calls : List BuilderCall) :
    (ofCalls calls).pipeline =
      { Pipeline.ofLists (contributorsOf calls) (filtersOf calls) with
        house := (ofCalls calls).house
        defaults := (ofCalls calls).defaults
        options := (ofCalls calls).options
        watched := (ofCalls calls).watched } := by
  obtain ⟨hcontributors, hfilters⟩ := numbered_ofCalls calls
  have hsub : (Keyed.ofList (ofCalls calls).contributors :
      Keyed (Contributor × Nat) (·.1.id)).toList <+ (ofCalls calls).contributors :=
    Keyed.sublist_ofList _
  have hfirst := hcontributors.increasing.sublist hsub
  have hkept : (Keyed.ofList (ofCalls calls).contributors :
      Keyed (Contributor × Nat) (·.1.id)).toList.map Prod.fst =
        (Keyed.ofList (contributorsOf calls) : Keyed Contributor Contributor.id).toList := by
    rw [Keyed.map_toList_ofList, hcontributors.map_fst]
  rw [pipeline, map_fst_mergeSort_inTurn _ hfirst, hkept,
    map_fst_mergeSort_inTurn _ hfilters.increasing, hfilters.map_fst]
  rfl

end Builder

/-! ### The same registrations in another order -/

/-- The same contributors and filters, where contributors of equal priority keep their order and so
do filters of equal priority for the same contributor, and the same settings. -/
structure Reordered (calls' calls : List BuilderCall) : Prop where
  contributors : ∀ n, (contributorsOf calls').filter (·.priority == n) =
    (contributorsOf calls).filter (·.priority == n)
  filters : ∀ id n, (filtersOf calls').filter (fun f => f.target == id && f.priority == n) =
    (filtersOf calls).filter fun f => f.target == id && f.priority == n
  house : (Builder.ofCalls calls').house = (Builder.ofCalls calls).house
  defaults : (Builder.ofCalls calls').defaults = (Builder.ofCalls calls).defaults
  options : (Builder.ofCalls calls').options = (Builder.ofCalls calls).options
  watched : (Builder.ofCalls calls').watched = (Builder.ofCalls calls).watched

namespace Reordered

variable {calls calls' : List BuilderCall}

/-- In whatever order they are registered, the contributors are the same. -/
theorem contributors_perm (h : Reordered calls' calls) :
    contributorsOf calls' ~ contributorsOf calls :=
  StableSort.perm_of_filter_priority_eq Contributor.priority h.contributors

theorem contributors_pipeline (h : Reordered calls' calls)
    (hids : ((contributorsOf calls).map Contributor.id).Nodup) :
    (Builder.ofCalls calls').pipeline.contributors =
      (Builder.ofCalls calls).pipeline.contributors := by
  have hids' : ((contributorsOf calls').map Contributor.id).Nodup :=
    (h.contributors_perm.map Contributor.id).nodup_iff.mpr hids
  rw [Builder.pipeline_ofCalls, Builder.pipeline_ofCalls]
  show (Pipeline.ofLists (contributorsOf calls') (filtersOf calls')).contributors =
    (Pipeline.ofLists (contributorsOf calls) (filtersOf calls)).contributors
  rw [Pipeline.contributors_ofLists hids', Pipeline.contributors_ofLists hids]
  exact StableSort.mergeSort_byPriority_congr Contributor.priority h.contributors

theorem filters_pipeline (h : Reordered calls' calls) (id : String) :
    (Builder.ofCalls calls').pipeline.filters.filter (·.target == id) =
      (Builder.ofCalls calls).pipeline.filters.filter (·.target == id) := by
  rw [Builder.pipeline_ofCalls, Builder.pipeline_ofCalls]
  show (Pipeline.ofLists (contributorsOf calls') (filtersOf calls')).filters.filter _ =
    (Pipeline.ofLists (contributorsOf calls) (filtersOf calls)).filters.filter _
  rw [Pipeline.filters_ofLists, Pipeline.filters_ofLists]
  refine StableSort.mergeSort_byPriority_congr Filter.priority fun n => ?_
  rw [List.filter_filter, List.filter_filter]
  simpa only [Bool.and_comm] using h.filters id n

end Reordered

/-- **Only the order within a priority matters.**  If the same contributors, whose ids are distinct,
and the same filters are registered in another order, but contributors of equal priority keep theirs
and so do filters of equal priority for the same contributor, then the contributors run in the same
order, and a build gives the same result and tells its observer of the same conflicts. -/
theorem Builder.build_reordered {calls calls' : List BuilderCall} (h : Reordered calls' calls)
    (hids : ((contributorsOf calls).map Contributor.id).Nodup) :
    (ofCalls calls').pipeline.contributors = (ofCalls calls).pipeline.contributors ∧
      (ofCalls calls').pipeline.build = (ofCalls calls).pipeline.build :=
  ⟨h.contributors_pipeline hids, Pipeline.build_congr (h.contributors_pipeline hids)
    h.filters_pipeline h.house h.defaults h.options h.watched⟩

/-! ### A theme that is registered after its extension -/

namespace Sample

/-- A filter that sets the paper of the theme. -/
def tint : Filter where
  id := "tint"
  target := "theme"
  priority := 10
  run _ c := .ok (c.setDefault "paper" (some (.text "ivory")))

def themeFirst : List BuilderCall :=
  [.contributor theme, .filter tune, .supply "accent" (.text "gray"), .contributor extension,
    .filter tint, .diagnostics true, .watch]

/-- Both filters have the same priority, but each is for another contributor. -/
def extensionFirst : List BuilderCall :=
  [.watch, .filter tint, .contributor extension, .diagnostics true, .filter tune,
    .contributor theme, .supply "accent" (.text "gray")]

theorem reordered_extensionFirst : Reordered extensionFirst themeFirst where
  contributors n := by
    show [extension, theme].filter (·.priority == n) = [theme, extension].filter (·.priority == n)
    by_cases h : n = 10
    · subst h
      rfl
    · have htheme : (theme.priority == n) = false := beq_eq_false_iff_ne.mpr (Ne.symm h)
      simp only [List.filter_cons, htheme, Bool.false_eq_true, if_false, List.filter_nil]
  filters id n := by
    show [tint, tune].filter (fun f => f.target == id && f.priority == n) =
      [tune, tint].filter fun f => f.target == id && f.priority == n
    by_cases h : id = "theme"
    · subst h
      rfl
    · have htint : (tint.target == id) = false := beq_eq_false_iff_ne.mpr (Ne.symm h)
      simp only [List.filter_cons, htint, Bool.false_and, Bool.false_eq_true, if_false,
        List.filter_nil]
  house := rfl
  defaults := rfl
  options := rfl
  watched := rfl

theorem nodup_ids_themeFirst : ((contributorsOf themeFirst).map Contributor.id).Nodup := by
  decide

theorem contributors_themeFirst :
    (Builder.ofCalls themeFirst).pipeline.contributors = [theme, extension] := by
  rw [Builder.pipeline_ofCalls]
  show (Pipeline.ofLists (contributorsOf themeFirst) (filtersOf themeFirst)).contributors = _
  rw [Pipeline.contributors_ofLists nodup_ids_themeFirst]
  exact StableSort.mergeSort_pair theme extension

end Sample

/-- The theme runs first in both. -/
theorem Builder.build_reordered_extensionFirst :
    Reordered Sample.extensionFirst Sample.themeFirst ∧
    ((contributorsOf Sample.themeFirst).map Contributor.id).Nodup ∧
    (ofCalls Sample.extensionFirst).pipeline.contributors = [Sample.theme, Sample.extension] ∧
    (ofCalls Sample.extensionFirst).pipeline.build =
      (ofCalls Sample.themeFirst).pipeline.build := by
  obtain ⟨hcontributors, hbuild⟩ :=
    build_reordered Sample.reordered_extensionFirst Sample.nodup_ids_themeFirst
  exact ⟨Sample.reordered_extensionFirst, Sample.nodup_ids_themeFirst,
    hcontributors.trans Sample.contributors_themeFirst, hbuild⟩

end ThemeOptions
