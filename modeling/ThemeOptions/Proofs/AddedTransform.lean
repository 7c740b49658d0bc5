import ThemeOptions.Proofs.Places
import ThemeOptions.Proofs.SelectorEnds

/-!
# Adding a transform

A transform can only be registered under a name that is still free.  So nothing that was declared
goes away when one is added (`Schema.compile_register`): the rules that ask for the name have been
reported before, and only what comes of these places changes.

A name is not empty, hence it is the trimmed callback of a rule just when the rule asks for it
(`Rule.transform?_eq_some_iff`), and a finding of an unknown transform tells which name is unknown
(`Finding.eq_of_reportsUnknown`).
-/

open scoped List

namespace ThemeOptions

/-! ### Names of transforms -/

theorem ne_empty_of_isIdentifier {n : String} (hn : isIdentifier n = true) : n ≠ "" := by
  rintro rfl
  cases hn

namespace Rule

variable {r : Rule} {n : String}

theorem callback_of_transform? (h : r.transform? = some n) :
    r.callback.map Text.trim = some n := by
  unfold transform? at h
  cases hcallback : r.callback with
  | none => rw [hcallback] at h; cases h
  | some name =>
    rw [hcallback] at h
    dsimp only at h
    split at h
    · cases h
    · exact h

/-- A rule asks for an identifier just when that is its trimmed callback. -/
theorem transform?_eq_some_iff (hn : isIdentifier n = true) :
    r.transform? = some n ↔ r.callback.map Text.trim = some n := by
  refine ⟨callback_of_transform?, fun h => ?_⟩
  obtain ⟨name, hcallback, htrim⟩ := Option.map_eq_some_iff.mp h
  have hfilled : ¬Text.blank name = true := by
    rw [← Text.trim_eq_empty_iff, htrim]
    exact ne_empty_of_isIdentifier hn
  rw [transform?, hcallback]
  dsimp only
  rw [if_neg hfilled, htrim]

end Rule

/-! ### Registering -/

namespace Transforms

variable {ts ts' : Transforms} {n : String} {t : Transform}

/-- The transforms after an attempt to register one. -/
def afterRegister (ts : Transforms) (n : String) (t : Transform) : Transforms :=
  match ts.register n t with
  | .ok ts' => ts'
  | .error _ => ts

theorem register_eq_ok (h : ts.register n t = .ok ts') :
    isIdentifier n = true ∧ n ∉ ts.named.keys ∧
      ts'.named.toList = ts.named.toList ++ [(n, t)] := by
  unfold register at h
  split at h
  · cases h
  split at h
  · cases h
  rename_i hidentifier
  split at h
  · cases h
  rename_i hfree
  have hfree' : n ∉ ts.named.keys := by
    rw [← Keyed.contains_iff]
    exact hfree
  obtain rfl := Except.ok.inj h
  refine ⟨by simpa using hidentifier, hfree', ?_⟩
  rw [Keyed.toList_insert, if_neg hfree']

theorem get?_of_not_mem (h : n ∉ ts.named.keys) : ts.get? n = none := by
  rw [get?, Keyed.find?_eq_none_iff.mpr h]
  rfl

/-- Registering changes what is found under one name. -/
theorem get?_register (h : ts.register n t = .ok ts') (m : String) :
    ts'.get? m = if m = n then some t else ts.get? m := by
  obtain ⟨-, hfree, hlist⟩ := register_eq_ok h
  unfold get?
  rw [Keyed.find?, hlist, List.find?_append]
  by_cases hm : m = n
  · have hnone : ts.named.toList.find? (fun x => x.1 == m) = none :=
      hm ▸ Keyed.find?_eq_none_iff.mpr hfree
    rw [hnone, if_pos hm, hm]
    simp
  · have hother : [(n, t)].find? (fun x => x.1 == m) = none := by
      simpa using fun e : n = m => hm e.symm
    rw [hother, if_neg hm, Option.or_none]
    rfl

end Transforms

/-! ### Findings of unknown transforms -/

/-- Whether a finding says that the transform `n` does not exist. -/
def Finding.reportsUnknown (f : Finding) (n : String) : Bool :=
  f.kind == .unknownTransform &&
    f.message == "unknown transform '" ++ n ++ "' on a rule of '" ++ f.target ++ "'"

/-- The message tells the name. -/
theorem Finding.eq_of_reportsUnknown {origin : Option String} {id name n : String}
    (h : Finding.reportsUnknown ⟨.unknownTransform, origin, id,
      "unknown transform '" ++ name ++ "' on a rule of '" ++ id ++ "'"⟩ n = true) : name = n := by
  have hmessage : "unknown transform '" ++ name ++ "' on a rule of '" ++ id ++ "'" =
      "unknown transform '" ++ n ++ "' on a rule of '" ++ id ++ "'" := by
    simpa [reportsUnknown] using h
  simpa [String.append_assoc, String.append_left_inj, String.append_right_inj] using hmessage

namespace Entry

variable {e : Entry} {origin : Option String} {ts : Transforms} {v : Value} {r : Rule} {n : String}

/-- Only a rule that asks for a name which is not registered is reported like this. -/
theorem transform?_of_reportsUnknown {f : Finding} (h : e.compileRule origin ts v r = .finding f)
    (hf : f.reportsUnknown n = true) : r.transform? = some n ∧ ts.get? n = none := by
  cases hname : r.transform? with
  | none =>
    have hfinding := finding?_emit e r r.property v
    simp only [compileRule, hname] at h
    rw [h] at hfinding
    cases hfinding
  | some name =>
    cases ht : ts.get? name with
    | none =>
      simp only [compileRule, hname, ht] at h
      obtain rfl := Outcome.finding.inj h
      obtain rfl := Finding.eq_of_reportsUnknown hf
      exact ⟨rfl, ht⟩
    | some t =>
      rw [compileRule_of_get? hname ht] at h
      obtain ⟨d, hd⟩ | ⟨g, hg, hkind⟩ | hnothing := e.transformed_cases origin name t v r
      · rw [hd] at h
        cases h
      · rw [hg] at h
        obtain rfl := Outcome.finding.inj h
        simp [Finding.reportsUnknown, hkind] at hf
      · rw [hnothing] at h
        cases h

end Entry

/-! ### Places that ask for a transform -/

namespace Schema

variable {s : Schema} {values : Source} {ts ts' : Transforms} {n : String} {t : Transform}
  {p : Place}

/-- Whether a place is that of a rule with the trimmed callback `n`. -/
def asksFor (s : Schema) (n : String) (p : Place) : Bool :=
  match s.entryAt? p with
  | some (_, e) =>
    !e.isFont && e.rules[p.itemIndex]?.any fun r => r.callback.map Text.trim == some n
  | none => false

theorem asksFor_eq_true_iff : s.asksFor n p = true ↔
    ∃ sec e r, s.entryAt? p = some (sec, e) ∧ e.isFont = false ∧
      e.rules[p.itemIndex]? = some r ∧ r.callback.map Text.trim = some n := by
  unfold asksFor
  constructor
  · intro h
    split at h
    · rename_i sec e hp
      simp only [Bool.and_eq_true, Bool.not_eq_true', Option.any_eq_true, beq_iff_eq] at h
      obtain ⟨hfont, r, hrule, hcallback⟩ := h
      exact ⟨sec, e, r, hp, hfont, hrule, hcallback⟩
    · cases h
  · rintro ⟨sec, e, r, hp, hfont, hrule, hcallback⟩
    rw [hp]
    simp [hfont, hrule, hcallback]

theorem asksFor_of_entryAt? {sec : Section} {e : Entry} {r : Rule}
    (hp : s.entryAt? p = some (sec, e)) (hfont : e.isFont = false)
    (hrule : e.rules[p.itemIndex]? = some r) (hname : r.transform? = some n) :
    s.asksFor n p = true :=
  asksFor_eq_true_iff.mpr ⟨sec, e, r, hp, hfont, hrule, Rule.callback_of_transform? hname⟩

/-- Other places stay as they are. -/
theorem outcomeAt_register_of_other (h : ts.register n t = .ok ts') (hp : s.asksFor n p = false) :
    s.outcomeAt values ts' p = s.outcomeAt values ts p := by
  cases hentry : s.entryAt? p with
  | none => rw [outcomeAt, outcomeAt, hentry]
  | some x =>
    obtain ⟨sec, e⟩ := x
    rw [outcomeAt_of_entryAt? hentry, outcomeAt_of_entryAt? hentry]
    cases hfont : e.isFont with
    -- the rules of a font are not compiled, whatever their callbacks are
    | true => simp [Entry.outcomeAt, hfont]
    | false =>
      refine Entry.outcomeAt_congr fun r name hrule hname => ?_
      have hne : name ≠ n := by
        rintro rfl
        rw [asksFor_of_entryAt? hentry hfont hrule hname] at hp
        cases hp
      rw [Transforms.get?_register h, if_neg hne]

/-- A place that asks for the new transform gives nothing still, or it was reported and gives what
the transform makes. -/
theorem outcomeAt_register_of_asksFor (values : Source) (h : ts.register n t = .ok ts')
    (hp : s.asksFor n p = true) :
    (s.outcomeAt values ts p = .nothing ∧ s.outcomeAt values ts' p = .nothing) ∨
    ∃ sec e r, s.entryAt? p = some (sec, e) ∧ e.rules[p.itemIndex]? = some r ∧
      s.outcomeAt values ts p = .finding ⟨.unknownTransform, sec.origin, e.id,
        "unknown transform '" ++ n ++ "' on a rule of '" ++ e.id ++ "'"⟩ ∧
      s.outcomeAt values ts' p = e.transformed sec.origin n t (values e.id) r := by
  obtain ⟨sec, e, r, hentry, hfont, hrule, hcallback⟩ := asksFor_eq_true_iff.mp hp
  obtain ⟨hidentifier, hfree, -⟩ := Transforms.register_eq_ok h
  have hname := (Rule.transform?_eq_some_iff hidentifier).mpr hcallback
  have hadded : ts'.get? n = some t := by rw [Transforms.get?_register h, if_pos rfl]
  rw [outcomeAt_of_entryAt? hentry, outcomeAt_of_entryAt? hentry,
    Entry.outcomeAt_of_rule hfont hrule, Entry.outcomeAt_of_rule hfont hrule]
  by_cases hsilent : (!e.emitsCss || (values e.id).isEmpty) = true
  · rw [if_pos hsilent, if_pos hsilent]
    exact Or.inl ⟨rfl, rfl⟩
  · rw [if_neg hsilent, if_neg hsilent]
    refine Or.inr ⟨sec, e, r, hentry, hrule, ?_, ?_⟩
    · simp only [Entry.compileRule, hname, Transforms.get?_of_not_mem hfree]
    · rw [Entry.compileRule_of_get? hname hadded]

/-- Whatever is picked from what comes of the places, but from no report of the unknown name, is
kept in order. -/
theorem filterMap_outcomes_register {β : Type} {pick : Outcome → Option β}
    (hnothing : pick .nothing = none)
    (hunknown : ∀ f : Finding, f.reportsUnknown n = true → pick (.finding f) = none)
    (s : Schema) (values : Source) (h : ts.register n t = .ok ts') :
    (s.outcomes values ts).filterMap pick <+ (s.outcomes values ts').filterMap pick := by
  rw [filterMap_outcomes hnothing, filterMap_outcomes hnothing]
  refine filterMap_sublist_filterMap (fun p b hb => ?_) _
  cases hp : s.asksFor n p with
  | false => rwa [outcomeAt_register_of_other h hp]
  | true =>
    rcases outcomeAt_register_of_asksFor values h hp with
      ⟨hsilent, -⟩ | ⟨_, _, _, -, -, hreported, -⟩
    · rw [hsilent, hnothing] at hb
      cases hb
    · rw [hreported, hunknown _ (by simp [Finding.reportsUnknown])] at hb
      cases hb

/-- Only the places that ask for a missing transform report that. -/
theorem asksFor_of_reportsUnknown {f : Finding} (h : s.outcomeAt values ts p = .finding f)
    (hf : f.reportsUnknown n = true) : s.asksFor n p = true ∧ ts.get? n = none := by
  cases hentry : s.entryAt? p with
  | none =>
    rw [outcomeAt, hentry] at h
    cases h
  | some x =>
    obtain ⟨sec, e⟩ := x
    rw [outcomeAt_of_entryAt? hentry] at h
    rcases Entry.mem_compile (Entry.mem_compile_of_outcomeAt h (by simp)) with
      ⟨-, selector, field, -, hfield⟩ | ⟨hfont, -⟩
    · have hnone := Entry.finding?_compileFontField e selector (values e.id) field
      rw [← hfield] at hnone
      cases hnone
    cases hrule : e.rules[p.itemIndex]? with
    | none =>
      simp [Entry.outcomeAt, hfont, hrule] at h
    | some r =>
      rw [Entry.outcomeAt_of_rule hfont hrule] at h
      split at h
      · cases h
      · obtain ⟨hname, hmissing⟩ := Entry.transform?_of_reportsUnknown h hf
        exact ⟨asksFor_of_entryAt? hentry hfont hrule hname, hmissing⟩

end Schema

/-- **A transform that is added changes only what asks for it.**  An attempt to register one that
fails changes no compilation.  After one that succeeds, places that do not ask for the name give
what they gave.  One that asks for it was silent and is so still, or it was reported, and now it
gives one declaration, a finding that the transform fails, or nothing, as the transform decides.  So
all declarations are kept in order, and so are all findings but those of the unknown name, which
are gone. -/
theorem Schema.compile_register (s : Schema) (values : Source) (ts : Transforms) (n : String)
    (t : Transform) :
    (∀ err, ts.register n t = .error err →
      s.compile values (ts.afterRegister n t) = s.compile values ts) ∧
    ∀ ts', ts.register n t = .ok ts' →
      ts.afterRegister n t = ts' ∧
      (∀ p, s.asksFor n p = false → s.outcomeAt values ts' p = s.outcomeAt values ts p) ∧
      (∀ p, s.asksFor n p = true →
        (s.outcomeAt values ts p = .nothing ∧ s.outcomeAt values ts' p = .nothing) ∨
        ∃ sec e r, s.entryAt? p = some (sec, e) ∧ e.rules[p.itemIndex]? = some r ∧
          s.outcomeAt values ts p = .finding ⟨.unknownTransform, sec.origin, e.id,
            "unknown transform '" ++ n ++ "' on a rule of '" ++ e.id ++ "'"⟩ ∧
          s.outcomeAt values ts' p = e.transformed sec.origin n t (values e.id) r ∧
          ((∃ d, s.outcomeAt values ts' p = .declaration d) ∨
            (∃ f, s.outcomeAt values ts' p = .finding f ∧ f.kind = .transformFailed) ∨
            s.outcomeAt values ts' p = .nothing)) ∧
      (s.compile values ts).declarations <+ (s.compile values ts').declarations ∧
      ((s.compile values ts).findings.filter fun f => !f.reportsUnknown n) <+
        (s.compile values ts').findings ∧
      ∀ f ∈ (s.compile values ts').findings, f.reportsUnknown n = false := by
  refine ⟨fun err h => by rw [Transforms.afterRegister, h], fun ts' h =>
    ⟨by rw [Transforms.afterRegister, h], fun p => outcomeAt_register_of_other h, fun p hp => ?_,
      ?_, ?_, ?_⟩⟩
  · refine (outcomeAt_register_of_asksFor values h hp).imp_right ?_
    rintro ⟨sec, e, r, hentry, hrule, hreported, htransformed⟩
    refine ⟨sec, e, r, hentry, hrule, hreported, htransformed, ?_⟩
    rw [htransformed]
    exact e.transformed_cases sec.origin n t (values e.id) r
  · exact filterMap_outcomes_register rfl (fun _ _ => rfl) s values h
  · have hkept : (s.compile values ts).findings.filter (fun f => !f.reportsUnknown n) <+
        (s.compile values ts').findings.filter fun f => !f.reportsUnknown n := by
      show ((s.outcomes values ts).filterMap _).filter _ <+
        ((s.outcomes values ts').filterMap _).filter _
      rw [List.filter_filterMap, List.filter_filterMap]
      refine filterMap_outcomes_register rfl (fun f hf => ?_) s values h
      simp [Outcome.finding?, hf]
    exact hkept.trans List.filter_sublist
  · intro f hf
    have hmem : f ∈ (s.outcomes values ts').filterMap Outcome.finding? := hf
    rw [filterMap_outcomes rfl] at hmem
    obtain ⟨p, -, hfinding⟩ := List.mem_filterMap.mp hmem
    rw [← Bool.not_eq_true]
    intro hunknown
    obtain ⟨-, hmissing⟩ := asksFor_of_reportsUnknown (Outcome.finding?_eq_some hfinding) hunknown
    rw [Transforms.get?_register h, if_pos rfl] at hmissing
    cases hmissing

/-! ### A missing transform that is supplied -/

namespace Sample

/-- A transform that hands values on, but no blank ones. -/
def brighten : Transform :=
  .custom fun v r _ => if v.isEmpty then .error (.refused "no color") else .ok ⟨r.property, v⟩

end Sample

/-- The accent is declared by its first rule once the transform exists, and the other rules declare
what they declared.  The name of a built-in transform is taken. -/
theorem compile_register_brighten :
    let ts' := Transforms.builtins.afterRegister "brighten" Sample.brighten
    Transforms.builtins.register "brighten" Sample.brighten = .ok ts' ∧
    Transforms.builtins.register "spacing" Sample.brighten = .error (.duplicate "spacing") ∧
    Sample.skipping.outcomeAt Sample.red ts' ⟨0, 1, 0⟩ =
      .declaration ⟨"a", "color", "red", "accent", false⟩ ∧
    (Sample.skipping.compile Sample.red Transforms.builtins).declarations <+
      (Sample.skipping.compile Sample.red ts').declarations ∧
    (∀ f ∈ (Sample.skipping.compile Sample.red ts').findings,
      f.reportsUnknown "brighten" = false) ∧
    Sample.skipping.compile Sample.red
        (Transforms.builtins.afterRegister "spacing" Sample.brighten) =
      Sample.skipping.compile Sample.red Transforms.builtins := by
  have hadded : Transforms.builtins.register "brighten" Sample.brighten =
      .ok (Transforms.builtins.afterRegister "brighten" Sample.brighten) := rfl
  have htaken : Transforms.builtins.register "spacing" Sample.brighten =
      .error (.duplicate "spacing") := rfl
  obtain ⟨-, -, hasking, hdeclarations, -, hunknown⟩ :=
    (Schema.compile_register Sample.skipping Sample.red Transforms.builtins "brighten"
      Sample.brighten).2 _ hadded
  refine ⟨hadded, htaken, ?_, hdeclarations, hunknown,
    (Schema.compile_register Sample.skipping Sample.red Transforms.builtins "spacing"
      Sample.brighten).1 _ htaken⟩
  rcases hasking ⟨0, 1, 0⟩ (by decide +kernel) with
    ⟨hsilent, -⟩ | ⟨sec, e, r, hp, hrule, -, htransformed, -⟩
  · exact absurd hsilent (by decide +kernel)
  · have hentry : Sample.skipping.entryAt? ⟨0, 1, 0⟩ = some (sec, e) := hp
    obtain ⟨rfl, rfl⟩ := Prod.mk.inj (Option.some.inj hentry)
    obtain rfl := Option.some.inj hrule
    rw [htransformed]
    decide +kernel

end ThemeOptions
