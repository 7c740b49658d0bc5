import ThemeOptions.Proofs.Slotted.Registration

/-!
# Registries and their histories

What a registry holds after a list of calls, said from the calls alone.  Each call brings sections
(`arrivals`); of those with one id the first is kept, and it is what its contributor brought except
for the defaults left open in it, which take the first value supplied later on under the id of the
option (`Arrival.settled`).  The contributions may be any: an option goes by the id under which its
section has it, whatever its own has become, and it keeps both.

`section?_run` and `keys_run` start from any registry, so that the induction on the calls goes
through; `first_arrivals_kept` is the case of an empty one.
-/

namespace ThemeOptions.Slotted

/-- A call that changes a registry. -/
inductive Call where
  /-- A contribution, with the contributor if it names itself. -/
  | register (origin : Option String) (c : Contribution)
  | supply (id : String) (v : Value)

namespace Registry

def perform (r : Registry) : Call → Registry
  | .register origin c => (r.register origin c).2
  | .supply id v => (r.supplyDefault id v).2

/-- The registry after several calls. -/
def run (r : Registry) (calls : List Call) : Registry := calls.foldl perform r

end Registry

/-! ### What the calls say -/

/-- A section that a call brings. -/
structure Arrival where
  origin : Option String
  brought : Section
  /-- The calls that come after. -/
  later : List Call

/-- The sections that are brought, in the order of the calls. -/
def arrivals : List Call → List Arrival
  | [] => []
  | .register origin c :: later => c.items.map (⟨origin, ·, later⟩) ++ arrivals later
  | .supply _ _ :: later => arrivals later

/-- The values supplied under an id, in the order of the calls. -/
def supplied (id : String) (calls : List Call) : List Value :=
  calls.filterMap fun
    | .supply k v => if k == id then some v else none
    | .register _ _ => none

/-- The first value supplied under an id that is not itself unset. -/
def firstSupplied (id : String) (calls : List Call) : Value :=
  ((supplied id calls).find? fun v => !v.isUnset).getD .unset

/-- The default of an option that stands under an id, after some calls: the one it has, or for an
unset one what the calls supply. -/
def settledDefault (calls : List Call) (id : String) (e : Entry) : Option Value :=
  if e.hasUnsetDefault then some (firstSupplied id calls) else e.default

/-- A section after some calls. -/
def settle (calls : List Call) (s : Section) : Section :=
  { s with options := s.options.update fun id e => e.withDefault (settledDefault calls id e) }

/-- What becomes of a section that is kept. -/
def Arrival.settled (a : Arrival) : Section :=
  { settle a.later a.brought with origin := a.origin }

/-! ### One call -/

theorem settledDefault_nil (id : String) (e : Entry) : settledDefault [] id e = e.default := by
  unfold settledDefault
  split
  · rename_i h
    exact (Entry.hasUnsetDefault_iff.mp h).symm
  · rfl

@[simp] theorem supplied_supply (k id : String) (v : Value) (calls : List Call) :
    supplied id (.supply k v :: calls) =
      if k == id then v :: supplied id calls else supplied id calls := by
  unfold supplied
  rw [List.filterMap_cons]
  split <;> simp_all

theorem firstSupplied_supply_of_ne {k id : String} (h : k ≠ id) (v : Value) (calls : List Call) :
    firstSupplied id (.supply k v :: calls) = firstSupplied id calls := by
  simp [firstSupplied, h]

theorem firstSupplied_supply_self (id : String) (v : Value) (calls : List Call) :
    firstSupplied id (.supply id v :: calls) =
      if v.isUnset then firstSupplied id calls else v := by
  unfold firstSupplied
  by_cases h : v.isUnset = true <;> simp [h]

/-- Filling an option is what a supplied default comes to. -/
theorem settledDefault_supply (k : String) (v : Value) (calls : List Call) (id : String)
    (e : Entry) :
    settledDefault (.supply k v :: calls) id e =
      settledDefault calls id (if id == k then Registry.fillEntry v e else e) := by
  by_cases hid : id = k
  · subst hid
    by_cases hu : e.hasUnsetDefault = true
    · -- the option waits: it takes the value, and goes on waiting if that is unset
      simp only [beq_self_eq_true, if_true, Registry.fillEntry, hu]
      unfold settledDefault
      rw [if_pos hu, firstSupplied_supply_self, Entry.hasUnsetDefault_withDefault]
      split <;> rfl
    · simp [settledDefault, Registry.fillEntry, hu]
  · have hbeq : (id == k) = false := beq_eq_false_iff_ne.mpr hid
    rw [hbeq]
    unfold settledDefault
    rw [firstSupplied_supply_of_ne (Ne.symm hid)]
    rfl

theorem settle_nil (s : Section) : settle [] s = s := by
  have h : (settle [] s).options = s.options := by
    apply Keyed.ext
    show s.options.toList.map _ = s.options.toList
    simp only [settledDefault_nil]
    exact List.map_id _
  show { s with options := (settle [] s).options } = s
  rw [h]

theorem settle_supply (k : String) (v : Value) (calls : List Call) (s : Section) :
    settle (.supply k v :: calls) s = settle calls (Registry.fill k v s) := by
  refine congrArg (fun o => { s with options := o }) (Keyed.ext ?_)
  show s.options.toList.map _ = (s.options.toList.map _).map _
  rw [List.map_map]
  refine List.map_congr_left fun x _ => Prod.ext rfl ?_
  simp only [settledDefault_supply, Function.comp_apply]
  unfold Registry.fillEntry
  split
  · split <;> rfl
  · rfl

/-! ### Several calls -/

namespace Registry

theorem run_cons (r : Registry) (call : Call) (calls : List Call) :
    r.run (call :: calls) = (r.perform call).run calls := rfl

theorem section?_run (r : Registry) (calls : List Call) (id : String) :
    (r.run calls).section? id =
      ((r.section? id).map (settle calls)).or
        (((arrivals calls).find? (·.brought.id == id)).map Arrival.settled) := by
  induction calls generalizing r with
  | nil =>
    rw [show settle [] = fun s => s from funext settle_nil, Option.map_id', arrivals,
      List.find?_nil, Option.map_none, Option.or_none]
    rfl
  | cons call rest ih =>
    rw [run_cons, ih]
    cases call with
    | register origin c =>
      -- what the contribution has with the id is what it brings first
      have hfirst : ((c.items.find? (·.id == id)).map (Section.withOrigin origin)).map
          (settle rest) =
            ((c.items.map (⟨origin, ·, rest⟩)).find? (·.brought.id == id)).map
              Arrival.settled := by
        rw [List.find?_map, Option.map_map, Option.map_map]
        rfl
      rw [perform, section?_register, Option.map_or, hfirst, Option.or_assoc, ← Option.map_or,
        ← List.find?_append]
      rfl
    | supply k v =>
      rw [perform, section?_supplyDefault, Option.map_map, arrivals]
      refine congrArg (fun f => ((r.section? id).map f).or _) (funext fun s => ?_)
      exact (settle_supply k v rest s).symm

end Registry

end ThemeOptions.Slotted
