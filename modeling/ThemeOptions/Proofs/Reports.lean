import Mathlib.Data.List.Basic
import ThemeOptions.Proofs.Registration

/-!
# What a registration reports

The ids of one contribution are distinct, so what becomes of a section hangs on the registry as it
was before the call.  The report is therefore read off section by section (`added_register`,
`conflicts_register`), and the observer is told of exactly the conflicts in it.
-/

namespace ThemeOptions

/-- The conflict in what becomes of a section, if there is one. -/
def Admission.conflict? : Admission → Option Conflict
  | .rejected c => some c
  | _ => none

namespace Registry

variable {r : Registry} {origin : Option String} {c : Contribution} {s t : Section}

/-! ### One section -/

theorem admission_eq_added_iff : r.admission origin s = .added ↔ r.section? s.id = none := by
  unfold admission
  cases r.section? s.id with
  | none => simp
  | some old => simp only [reduceCtorEq, iff_false]; split <;> simp

theorem conflict?_admission :
    (r.admission origin s).conflict? =
      (r.section? s.id).bind fun old =>
        if old.sameContent s then none else some ⟨s.id, old.origin, origin⟩ := by
  unfold admission
  cases r.section? s.id with
  | none => rfl
  | some old => by_cases h : old.sameContent s = true <;> simp [h, Admission.conflict?]

theorem section?_enroll_of_ne {id : String} (h : id ≠ t.id) :
    (r.enroll origin t).section? id = r.section? id := by
  unfold section? Keyed.find?
  rw [sections_enroll, Keyed.toList_insert]
  split
  · rfl
  · have hne : ((t.withOrigin origin).id == id) = false := beq_eq_false_iff_ne.mpr (Ne.symm h)
    rw [List.find?_append, List.find?_cons, hne, List.find?_nil, Option.or_none]

/-- What becomes of a section is not changed by one with another id. -/
theorem admission_enroll_of_ne (h : s.id ≠ t.id) :
    (r.enroll origin t).admission origin s = r.admission origin s := by
  unfold admission
  rw [section?_enroll_of_ne h]

theorem observed_enroll :
    (r.enroll origin s).observed =
      r.observed.map (· ++ (r.admission origin s).conflict?.toList) := by
  unfold enroll
  cases r.admission origin s <;> simp [Admission.conflict?]

theorem note_admission (report : Report) :
    report.note s (r.admission origin s) =
      { added := report.added ++ if r.sections.contains s.id then [] else [s.id]
        conflicts := report.conflicts ++ (r.admission origin s).conflict?.toList } := by
  have hfree : r.admission origin s = .added ↔ r.sections.contains s.id = false := by
    rw [admission_eq_added_iff, section?_eq_none_iff, Keyed.contains_eq_false_iff]
  cases h : r.admission origin s with
  | added =>
    rw [hfree.mp h]
    simp [Report.note, Admission.conflict?]
  | alike =>
    have htaken : r.sections.contains s.id = true := by simp [← Bool.not_eq_false, ← hfree, h]
    simp [Report.note, Admission.conflict?, htaken]
  | rejected k =>
    have htaken : r.sections.contains s.id = true := by simp [← Bool.not_eq_false, ← hfree, h]
    simp [Report.note, Admission.conflict?, htaken]

/-! ### One contribution -/

/-- The induction goes over the sections that are still to come; their ids are not among those that
have been registered on the way. -/
theorem foldl_register (origin : Option String) (l : List Section)
    (hl : (l.map Section.id).Nodup) (report : Report) (r : Registry) :
    let step := fun (x : Report × Registry) s =>
      (x.1.note s (x.2.admission origin s), x.2.enroll origin s)
    let conflicts := l.filterMap fun s => (r.admission origin s).conflict?
    (l.foldl step (report, r)).1 =
        { added := report.added ++ (l.filter fun s => !r.sections.contains s.id).map Section.id
          conflicts := report.conflicts ++ conflicts } ∧
      (l.foldl step (report, r)).2.observed = r.observed.map (· ++ conflicts) := by
  intro step
  induction l generalizing report r with
  | nil => simp
  | cons s l ih =>
    rw [List.map_cons, List.nodup_cons] at hl
    have hne : ∀ t ∈ l, t.id ≠ s.id := fun t ht e => hl.1 (e ▸ List.mem_map_of_mem ht)
    have hfilter : (l.filter fun t => !(r.enroll origin s).sections.contains t.id) =
        l.filter fun t => !r.sections.contains t.id := by
      refine List.filter_congr fun t ht => ?_
      rw [Bool.not_inj_iff, Bool.eq_iff_iff, Keyed.contains_iff, Keyed.contains_iff,
        ← section?_isSome_iff, ← section?_isSome_iff, section?_enroll_of_ne (hne t ht)]
    have hconflicts : (l.filterMap fun t => ((r.enroll origin s).admission origin t).conflict?) =
        l.filterMap fun t => (r.admission origin t).conflict? :=
      List.filterMap_congr fun t ht => by rw [admission_enroll_of_ne (hne t ht)]
    obtain ⟨hreport, hobserved⟩ :=
      ih hl.2 (report.note s (r.admission origin s)) (r.enroll origin s)
    have hhead : ((s :: l).filterMap fun t => (r.admission origin t).conflict?) =
        (r.admission origin s).conflict?.toList ++
          l.filterMap fun t => (r.admission origin t).conflict? := by
      rw [List.filterMap_cons]
      cases (r.admission origin s).conflict? <;> rfl
    rw [List.foldl_cons, hhead]
    constructor
    · rw [hreport, hfilter, hconflicts, note_admission, List.append_assoc, List.append_assoc,
        List.filter_cons]
      cases r.sections.contains s.id <;> simp
    · rw [hobserved, hconflicts, observed_enroll, Option.map_map]
      exact congrArg (Option.map · r.observed) (funext fun told => by simp)

section

variable (r : Registry) (origin : Option String) (c : Contribution)

/-- The sections that a registration adds are those whose ids are free. -/
theorem added_register : (r.register origin c).1.added = (r.freeSections c).map Section.id := by
  have hreport := (foldl_register origin c.sections.toList c.sections.nodup_keys {} r).1
  exact congrArg Report.added hreport

/-- The conflicts of a registration are those of its sections with what is registered before. -/
theorem conflicts_register :
    (r.register origin c).1.conflicts =
      c.sections.toList.filterMap fun s => (r.admission origin s).conflict? := by
  have hreport := (foldl_register origin c.sections.toList c.sections.nodup_keys {} r).1
  exact congrArg Report.conflicts hreport

/-- The observer is told of the conflicts that are reported. -/
theorem observed_register :
    (r.register origin c).2.observed =
      r.observed.map (· ++ (r.register origin c).1.conflicts) := by
  rw [conflicts_register]
  exact (foldl_register origin c.sections.toList c.sections.nodup_keys {} r).2

end

theorem mem_added_iff (hs : s ∈ c.sections.toList) :
    s.id ∈ (r.register origin c).1.added ↔ r.section? s.id = none := by
  rw [added_register, section?_eq_none_iff, List.mem_map]
  constructor
  · rintro ⟨t, ht, hid⟩
    rw [← hid]
    simpa [Keyed.contains_eq_false_iff] using (List.mem_filter.mp ht).2
  · intro hfree
    refine ⟨s, List.mem_filter.mpr ⟨hs, ?_⟩, rfl⟩
    rw [Keyed.contains_eq_false_iff.mpr hfree]
    rfl

/-- The id of a conflict was registered before. -/
theorem not_mem_added_of_mem_conflicts {k : Conflict}
    (h : k ∈ (r.register origin c).1.conflicts) :
    k.sectionId ∉ (r.register origin c).1.added := by
  rw [conflicts_register, List.mem_filterMap] at h
  obtain ⟨s, hs, hk⟩ := h
  rw [conflict?_admission] at hk
  obtain ⟨old, hold, hk⟩ := Option.bind_eq_some_iff.mp hk
  have hid : s.id = k.sectionId := by
    split at hk
    · exact absurd hk (by simp)
    · exact congrArg Conflict.sectionId (Option.some.inj hk)
  rw [← hid, mem_added_iff hs, hold]
  simp

/-- A section that is reported neither as added nor in conflict is like the one registered under its
id. -/
theorem exists_sameContent_of_unreported (hs : s ∈ c.sections.toList)
    (hadded : s.id ∉ (r.register origin c).1.added)
    (hconflicts : ∀ k ∈ (r.register origin c).1.conflicts, k.sectionId ≠ s.id) :
    ∃ old, r.section? s.id = some old ∧ old.sameContent s = true := by
  rw [mem_added_iff hs] at hadded
  obtain ⟨old, hold⟩ := Option.ne_none_iff_exists'.mp hadded
  refine ⟨old, hold, ?_⟩
  by_contra hsame
  refine hconflicts ⟨s.id, old.origin, origin⟩ ?_ rfl
  rw [conflicts_register, List.mem_filterMap]
  refine ⟨s, hs, ?_⟩
  rw [conflict?_admission, hold, Option.bind_some, if_neg hsame]

end Registry

end ThemeOptions
