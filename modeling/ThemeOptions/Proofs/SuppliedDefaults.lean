import Mathlib.Tactic.ByContra
import ThemeOptions.Proofs.Registration

/-!
# The flag of a supplied default

Supplying a default comes with a flag.  It says whether an option with that id was waiting for one.
As a rule this is whether a default has changed, and the registry with it; the exception is an unset
value for an option that waits, which leaves everything as it was although the flag is raised
(`Registry.supplyDefault_flag`).

An option is told from the others by its id and that of its section (`Registry.default?`).
-/

namespace ThemeOptions

namespace Registry

open scoped Classical

variable (r : Registry) (id : String) (v : Value)

/-- The default of an option in a section; none if there is no such option. -/
def default? (sec option : String) : Option (Option Value) :=
  ((r.section? sec).bind (·.option? option)).map Entry.default

/-- Some option with this id waits for a default. -/
def Waits : Prop := ∃ sec, r.default? sec id = some (some .unset)

/-- Some option has another default once the value is supplied. -/
def Changes : Prop :=
  ∃ sec option, (r.supplyDefault id v).2.default? sec option ≠ r.default? sec option

/-! ### Defaults by section and option -/

theorem default?_of_mem {s : Section} {e : Entry} (hs : s ∈ r.sections.toList)
    (he : e ∈ s.options.toList) : r.default? s.id e.id = some e.default := by
  have hsection : r.section? s.id = some s := Keyed.find?_eq_some_iff.mpr ⟨hs, rfl⟩
  have hoption : s.option? e.id = some e := Keyed.find?_eq_some_iff.mpr ⟨he, rfl⟩
  rw [default?, hsection, Option.bind_some, hoption, Option.map_some]

theorem waits_iff : r.Waits id ↔ r.sections.toList.any (awaits id) = true := by
  rw [List.any_eq_true]
  constructor
  · rintro ⟨sec, h⟩
    obtain ⟨e, he, hopen⟩ := Option.map_eq_some_iff.mp h
    obtain ⟨s, hs, hoption⟩ := Option.bind_eq_some_iff.mp he
    refine ⟨s, (Keyed.find?_eq_some_iff.mp hs).1, ?_⟩
    rw [awaits, hoption, Option.any_some, Entry.hasUnsetDefault_iff, hopen]
  · rintro ⟨s, hs, h⟩
    obtain ⟨e, hoption, hopen⟩ : ∃ e, s.option? id = some e ∧ e.hasUnsetDefault = true := by
      simpa [awaits, Option.any_eq_true] using h
    obtain ⟨he, rfl⟩ := Keyed.find?_eq_some_iff.mp hoption
    exact ⟨s.id, by rw [r.default?_of_mem hs he, Entry.hasUnsetDefault_iff.mp hopen]⟩

/-- An option after a default has been supplied under an id. -/
def fillEntry (e : Entry) : Entry :=
  if e.id == id then (if e.hasUnsetDefault then e.withDefault (some v) else e) else e

@[simp] theorem id_fillEntry (e : Entry) : (fillEntry id v e).id = e.id := by
  unfold fillEntry
  split
  · split <;> rfl
  · rfl

theorem option?_fill (s : Section) (k : String) :
    (fill id v s).option? k = (s.option? k).map (fillEntry id v) :=
  Keyed.find?_map s.options (fillEntry id v) (id_fillEntry id v) k

theorem default_fillEntry (e : Entry) :
    (fillEntry id v e).default =
      if e.id = id ∧ e.hasUnsetDefault = true then some v else e.default := by
  unfold fillEntry
  by_cases hid : e.id = id
  · by_cases hopen : e.hasUnsetDefault = true
    · simp [hid, hopen, Entry.withDefault]
    · simp [hid, hopen]
  · simp [hid]

/-- A supplied value becomes the default of the options that wait under its id, and no other. -/
theorem default?_supplyDefault (sec option : String) :
    (r.supplyDefault id v).2.default? sec option =
      (r.default? sec option).map fun d =>
        if option = id ∧ d = some .unset then some v else d := by
  unfold default?
  rw [section?_supplyDefault]
  cases r.section? sec with
  | none => rfl
  | some s =>
    rw [Option.map_some, Option.bind_some, Option.bind_some, option?_fill]
    cases he : s.option? option with
    | none => rfl
    | some e =>
      obtain ⟨-, rfl⟩ := Keyed.find?_eq_some_iff.mp he
      rw [Option.map_some, Option.map_some, Option.map_some, Option.map_some, default_fillEntry]
      simp only [Entry.hasUnsetDefault_iff]

/-! ### What changes -/

/-- An option stays as it is if its default does. -/
theorem fillEntry_eq_self {e : Entry} (h : e.id = id → e.default = some .unset → v = .unset) :
    fillEntry id v e = e := by
  unfold fillEntry
  by_cases hid : e.id = id
  · by_cases hopen : e.hasUnsetDefault = true
    · have hdefault := Entry.hasUnsetDefault_iff.mp hopen
      rw [if_pos (beq_iff_eq.mpr hid), if_pos hopen, h hid hdefault, ← hdefault]
      rfl
    · rw [if_pos (beq_iff_eq.mpr hid), if_neg hopen]
  · rw [if_neg (by simpa using hid)]

/-- Nothing but defaults ever changes. -/
theorem supplyDefault_eq_self_iff : (r.supplyDefault id v).2 = r ↔ ¬r.Changes id v := by
  constructor
  · rintro h ⟨sec, option, hne⟩
    exact hne (by rw [h])
  · intro h
    have hfill : ∀ s ∈ r.sections.toList, fill id v s = s := by
      intro s hs
      have hoptions : (fill id v s).options = s.options := by
        refine Keyed.ext ((List.map_congr_left fun e he => ?_).trans (List.map_id _))
        refine fillEntry_eq_self id v fun hid hdefault => ?_
        by_contra hv
        refine h ⟨s.id, e.id, ?_⟩
        rw [default?_supplyDefault, r.default?_of_mem hs he, Option.map_some,
          if_pos ⟨hid, hdefault⟩, hdefault]
        simpa using hv
      show { s with options := (fill id v s).options } = s
      rw [hoptions]
    have hsections : (r.supplyDefault id v).2.sections = r.sections :=
      Keyed.ext ((List.map_congr_left hfill).trans (List.map_id _))
    show { r with sections := (r.supplyDefault id v).2.sections } = r
    rw [hsections]

/-- A default changes if an option waits and there is something to give it. -/
theorem changes_iff : r.Changes id v ↔ r.Waits id ∧ v ≠ .unset := by
  constructor
  · rintro ⟨sec, option, hne⟩
    rw [default?_supplyDefault] at hne
    cases hd : r.default? sec option with
    | none => exact absurd (by rw [hd]; rfl) hne
    | some d =>
      rw [hd, Option.map_some, ne_eq, Option.some.injEq] at hne
      by_cases hopen : option = id ∧ d = some .unset
      · rw [if_pos hopen] at hne
        obtain ⟨rfl, rfl⟩ := hopen
        exact ⟨⟨sec, hd⟩, fun hv => hne (congrArg some hv)⟩
      · exact absurd (if_neg hopen) hne
  · rintro ⟨⟨sec, hopen⟩, hv⟩
    refine ⟨sec, id, ?_⟩
    rw [default?_supplyDefault, hopen, Option.map_some, if_pos ⟨rfl, rfl⟩]
    simpa using hv

/-- **What the flag tells.**  A supplied value becomes the default of the options that wait under
its id, and nothing else changes.  The flag is raised exactly if a default changes, and not raised
exactly if the registry stays as it is, but for an unset value that is supplied to an option that
waits: then the flag is raised and the registry stays as it is. -/
theorem supplyDefault_flag :
    (∀ sec option, (r.supplyDefault id v).2.default? sec option =
      (r.default? sec option).map fun d =>
        if option = id ∧ d = some .unset then some v else d) ∧
    ((r.supplyDefault id v).2 = r ↔ ¬r.Changes id v) ∧
    ((r.supplyDefault id v).1 = true ↔ r.Changes id v ∨ v = .unset ∧ r.Waits id) ∧
    ((r.supplyDefault id v).1 = false ↔
      (r.supplyDefault id v).2 = r ∧ ¬(v = .unset ∧ r.Waits id)) := by
  have hflag : (r.supplyDefault id v).1 = true ↔ r.Waits id := (r.waits_iff id).symm
  refine ⟨r.default?_supplyDefault id v, r.supplyDefault_eq_self_iff id v, ?_, ?_⟩
  · rw [hflag, changes_iff]
    by_cases hv : v = .unset
    · simp [hv]
    · simp [hv]
  · rw [← Bool.not_eq_true, hflag, supplyDefault_eq_self_iff, changes_iff]
    by_cases hv : v = .unset
    · simp [hv]
    · simp [hv]

end Registry

/-! ### An accent that waits -/

namespace Sample

/-- A header whose accent waits for a default. -/
def openHeader : Registry :=
  (({} : Registry).register none
    ⟨Keyed.ofList [{ id := "header",
                     options := Keyed.ofList [{ id := "accent", default := some .unset }] }]⟩).2

end Sample

/-- The accent is still unset after it has been supplied as unset, and the flag says that something
has changed. -/
theorem accent_supplied_unset :
    let (flag, after) := Sample.openHeader.supplyDefault "accent" .unset
    flag = true ∧ after = Sample.openHeader ∧
    ¬(flag = true ↔ ∃ sec option,
      after.default? sec option ≠ Sample.openHeader.default? sec option) ∧
    ¬(flag = false ↔ after = Sample.openHeader) := by
  have hflag : (Sample.openHeader.supplyDefault "accent" .unset).1 = true := rfl
  have hsame : (Sample.openHeader.supplyDefault "accent" .unset).2 = Sample.openHeader := rfl
  refine ⟨hflag, hsame, fun h => ?_, fun h => ?_⟩
  · obtain ⟨sec, option, hne⟩ := h.mp hflag
    exact hne rfl
  · exact Bool.noConfusion (hflag.symm.trans (h.mpr hsame))

end ThemeOptions
