import ThemeOptions.Proofs.Collections
import ThemeOptions.Slotted.Registry

/-!
# What registration does to slotted sections

A registration comes down to adding the sections of the contribution, with their contributor noted,
to those that are there (`Registry.sections_register`): of the sections with one id the first stays,
wherever it comes from.  A supplied default changes what stands under its id and leaves everything
else alone, the own ids of the options included.
-/

namespace ThemeOptions.Slotted

/-- A section with its contributor noted. -/
def Section.withOrigin (origin : Option String) (s : Section) : Section := { s with origin }

namespace Registry

theorem section?_eq_none_iff {r : Registry} {id : String} :
    r.section? id = none ↔ id ∉ r.sections.keys :=
  Keyed.find?_eq_none_iff

/-! ### Registering -/

theorem sections_enroll (r : Registry) (origin : Option String) (s : Section) :
    (r.enroll origin s).sections = r.sections.insert (s.withOrigin origin) := by
  unfold enroll admission
  cases h : r.section? s.id with
  | none => rfl
  | some old =>
    obtain ⟨hold, hid⟩ := Keyed.find?_eq_some_iff.mp h
    have hm : (s.withOrigin origin).id ∈ r.sections.keys := hid ▸ List.mem_map_of_mem hold
    have hkeep : r.sections.insert (s.withOrigin origin) = r.sections :=
      Keyed.ext (by rw [Keyed.toList_insert, if_pos hm])
    rw [hkeep]
    by_cases hsame : old.sameContent s = true <;> simp [hsame, tell]

/-- Sections come behind those that are there, without the ones whose ids are taken. -/
theorem sections_foldl_enroll (r : Registry) (origin : Option String) (l : List Section) :
    (l.foldl (fun r s => r.enroll origin s) r).sections =
      Keyed.ofList (r.sections.toList ++ l.map (Section.withOrigin origin)) := by
  rw [← Keyed.foldl_insert_eq_ofList]
  induction l generalizing r with
  | nil => rfl
  | cons s l ih => rw [List.foldl_cons, ih, sections_enroll, List.map_cons, List.foldl_cons]

/-- An id that is registered stays with its section; any other id gets the first section that comes
with it. -/
theorem section?_foldl_enroll (r : Registry) (origin : Option String) (l : List Section)
    (id : String) :
    (l.foldl (fun r s => r.enroll origin s) r).section? id =
      (r.section? id).or ((l.find? (·.id == id)).map (Section.withOrigin origin)) := by
  rw [section?, sections_foldl_enroll, Keyed.find?_ofList, List.find?_append, List.find?_map]
  rfl

/-- What becomes of a registry is not changed by what is noted. -/
theorem foldl_register_snd (r : Registry) (origin : Option String) (l : List Section)
    (report : Report) :
    (l.foldl (fun (report, r) s => (report.note s.head (r.admission origin s), r.enroll origin s))
      (report, r)).2 = l.foldl (fun r s => r.enroll origin s) r := by
  induction l generalizing r report with
  | nil => rfl
  | cons s l ih =>
    rw [List.foldl_cons, List.foldl_cons]
    exact ih _ _

theorem register_snd (r : Registry) (origin : Option String) (c : Contribution) :
    (r.register origin c).2 = c.items.foldl (fun r s => r.enroll origin s) r :=
  r.foldl_register_snd origin c.items {}

theorem sections_register (r : Registry) (origin : Option String) (c : Contribution) :
    (r.register origin c).2.sections =
      Keyed.ofList (r.sections.toList ++ c.items.map (Section.withOrigin origin)) := by
  rw [register_snd, sections_foldl_enroll]

theorem section?_register (r : Registry) (origin : Option String) (c : Contribution)
    (id : String) :
    (r.register origin c).2.section? id =
      (r.section? id).or ((c.items.find? (·.id == id)).map (Section.withOrigin origin)) := by
  rw [register_snd, section?_foldl_enroll]

/-- What is registered comes from the registry or from the contribution. -/
theorem mem_register {r : Registry} {origin : Option String} {c : Contribution} {s : Section}
    (h : s ∈ (r.register origin c).2.sections.toList) :
    s ∈ r.sections.toList ∨ ∃ s₀ ∈ c.items, s = s₀.withOrigin origin := by
  rw [sections_register] at h
  rcases List.mem_append.mp ((Keyed.sublist_ofList _).subset h) with h | h
  · exact .inl h
  · obtain ⟨s₀, hs₀, rfl⟩ := List.mem_map.mp h
    exact .inr ⟨s₀, hs₀, rfl⟩

/-! ### Supplying defaults -/

@[simp] theorem toList_supplyDefault (r : Registry) (id : String) (v : Value) :
    (r.supplyDefault id v).2.sections.toList = r.sections.toList.map (fill id v) := rfl

@[simp] theorem section?_supplyDefault (r : Registry) (id : String) (v : Value) (k : String) :
    (r.supplyDefault id v).2.section? k = (r.section? k).map (fill id v) :=
  Keyed.find?_map r.sections (fill id v) (fun _ => rfl) k

@[simp] theorem id_fillEntry (v : Value) (e : Entry) : (fillEntry v e).id = e.id := by
  unfold fillEntry
  split <;> rfl

theorem option?_fill (id : String) (v : Value) (s : Section) (k : String) :
    (fill id v s).option? k =
      (s.option? k).map fun e => if k == id then fillEntry v e else e :=
  s.options.item?_update _ k

/-- The options keep their own ids. -/
theorem ids_fill (id : String) (v : Value) (s : Section) :
    (fill id v s).entries.map Entry.id = s.entries.map Entry.id := by
  show ((s.options.toList.map _).map Prod.snd).map Entry.id = (s.options.toList.map _).map Entry.id
  rw [List.map_map, List.map_map, List.map_map]
  refine List.map_congr_left fun x _ => ?_
  show (if x.1 == id then fillEntry v x.2 else x.2).id = x.2.id
  split
  · exact id_fillEntry v x.2
  · rfl

end Registry

end ThemeOptions.Slotted
