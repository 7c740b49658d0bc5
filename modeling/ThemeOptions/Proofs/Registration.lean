import Mathlib.Logic.Basic
import ThemeOptions.Check.Duplicates

/-!
# What registration does to the sections

One statement for every operation of the registry.  A registration appends the sections whose ids
are free, with their contributor noted (`toList_register`), and touches no section that is there; a
supplied default changes sections one by one and leaves their ids, order and contributors alone.
-/

namespace ThemeOptions

/-- A section with its contributor noted. -/
def Section.withOrigin (origin : Option String) (s : Section) : Section := { s with origin }

namespace Registry

theorem section?_eq_none_iff {r : Registry} {id : String} :
    r.section? id = none ↔ id ∉ r.sections.keys :=
  Keyed.find?_eq_none_iff

theorem section?_isSome_iff {r : Registry} {id : String} :
    (r.section? id).isSome = true ↔ id ∈ r.sections.keys := by
  rw [← Option.ne_none_iff_isSome, ne_eq, section?_eq_none_iff, not_not]

/-! ### Registering -/

theorem sections_enroll (r : Registry) (origin : Option String) (s : Section) :
    (r.enroll origin s).sections = r.sections.insert (s.withOrigin origin) := by
  unfold enroll admission
  cases h : r.section? s.id with
  | none => rfl
  | some old =>
    have hm : (s.withOrigin origin).id ∈ r.sections.keys := by
      refine section?_isSome_iff.mp ?_
      simp [h, Section.withOrigin]
    have hkeep : r.sections.insert (s.withOrigin origin) = r.sections :=
      Keyed.ext (by rw [Keyed.toList_insert, if_pos hm])
    rw [hkeep]
    by_cases hsame : old.sameContent s = true
    · simp [hsame]
    · simp [hsame]

theorem register_snd (r : Registry) (origin : Option String) (c : Contribution) :
    (r.register origin c).2 = c.sections.toList.foldl (fun r s => r.enroll origin s) r := by
  unfold register
  generalize ({} : Report) = report
  induction c.sections.toList generalizing r report with
  | nil => rfl
  | cons s l ih =>
    rw [List.foldl_cons, List.foldl_cons]
    exact ih _ _

theorem toList_foldl_enroll (origin : Option String) (l : List Section) (r : Registry)
    (h : (l.map Section.id).Nodup) :
    (l.foldl (fun r s => r.enroll origin s) r).sections.toList =
      r.sections.toList ++
        (l.filter fun s => !r.sections.contains s.id).map (Section.withOrigin origin) := by
  induction l generalizing r with
  | nil => simp
  | cons s l ih =>
    rw [List.map_cons, List.nodup_cons] at h
    rw [List.foldl_cons, ih _ h.2, sections_enroll]
    -- the rest of the list has other ids, which are as free as before
    have hrest : (l.filter fun t => !(r.sections.insert (s.withOrigin origin)).contains t.id) =
        l.filter fun t => !r.sections.contains t.id := by
      refine List.filter_congr fun t ht => ?_
      have hne : (s.id == t.id) = false := by
        refine beq_eq_false_iff_ne.mpr fun e => h.1 ?_
        exact e ▸ List.mem_map_of_mem ht
      unfold Keyed.contains
      rw [Keyed.toList_insert]
      split
      · rfl
      · rw [List.any_append, List.any_cons, List.any_nil,
          show (s.withOrigin origin).id = s.id from rfl, hne, Bool.or_false, Bool.or_false]
    rw [hrest, Keyed.toList_insert, List.filter_cons]
    by_cases hc : s.id ∈ r.sections.keys
    · rw [if_pos (show (s.withOrigin origin).id ∈ r.sections.keys from hc),
        if_neg (by simpa [Keyed.contains_iff] using hc)]
    · rw [if_neg (show (s.withOrigin origin).id ∉ r.sections.keys from hc),
        if_pos (by simpa [Keyed.contains_eq_false_iff] using hc), List.map_cons, List.append_assoc,
        List.singleton_append]

/-- A registration appends the sections whose ids are free. -/
theorem toList_register (r : Registry) (origin : Option String) (c : Contribution) :
    (r.register origin c).2.sections.toList =
      r.sections.toList ++ (r.freeSections c).map (Section.withOrigin origin) := by
  rw [register_snd]
  exact toList_foldl_enroll origin _ r c.sections.nodup_keys

/-- An id that is registered stays with its section; any other id gets the section that the
contribution has under it. -/
theorem section?_register (r : Registry) (origin : Option String) (c : Contribution)
    (id : String) :
    (r.register origin c).2.section? id =
      (r.section? id).or ((c.section? id).map (Section.withOrigin origin)) := by
  unfold section? Keyed.find?
  rw [toList_register, List.find?_append]
  cases h : r.sections.toList.find? (·.id == id) with
  | some s => rfl
  | none =>
    rw [Option.none_or, Option.none_or, List.find?_map, freeSections, List.find?_filter]
    refine congrArg (Option.map _) ?_
    unfold Contribution.section? Keyed.find?
    have hfree : r.sections.contains id = false :=
      Keyed.contains_eq_false_iff.mpr (section?_eq_none_iff.mp h)
    refine congrArg (List.find? · _) (funext fun s => ?_)
    by_cases hs : s.id = id
    · simp [Section.withOrigin, hs, hfree]
    · simp [Section.withOrigin, hs]

/-! ### Supplying defaults -/

@[simp] theorem toList_supplyDefault (r : Registry) (id : String) (v : Value) :
    (r.supplyDefault id v).2.sections.toList = r.sections.toList.map (fill id v) := rfl

@[simp] theorem section?_supplyDefault (r : Registry) (id : String) (v : Value) (k : String) :
    (r.supplyDefault id v).2.section? k = (r.section? k).map (fill id v) :=
  Keyed.find?_map r.sections (fill id v) (fun _ => rfl) k

end Registry

end ThemeOptions
