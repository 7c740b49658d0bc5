import ThemeOptions.Program
import ThemeOptions.Proofs.LateContributor
import ThemeOptions.Proofs.Places

/-!
# Options are compiled apart

No value but its own matters for an option.  The part of a compilation that is about certain ids is
made of the options with these ids alone (`Schema.compile_only`), so it is the same for any two
sources that agree on them.

For values with a fallback this means (`compile_apart`) that an id which they leave unset is
compiled from the fallback, and any other id from them, as if there were no fallback.  False and a
blank text are values like others here: the fallback stays out, although nothing is compiled for
them.
-/

namespace ThemeOptions

/-- The part of a compilation that is about the options with certain ids. -/
def Compiled.only (X : String → Bool) (c : Compiled) : Compiled where
  declarations := c.declarations.filter (X ·.optionId)
  findings := c.findings.filter (X ·.target)

/-! ### Lists of parts -/

section

variable {α β γ : Type} {l : List α} {f : α → List β} {p : α → Bool}

/-- If what is picked from a part passes a test just when the part passes one of its own, the parts
can be tested first. -/
theorem filter_filterMap_flatMap {pick : β → Option γ} {q : γ → Bool}
    (h : ∀ a ∈ l, ∀ b ∈ f a, ∀ c, pick b = some c → q c = p a) :
    ((l.flatMap f).filterMap pick).filter q = ((l.filter p).flatMap f).filterMap pick := by
  induction l with
  | nil => rfl
  | cons a l ih =>
    have hrest := ih fun a ha => h a (List.mem_cons_of_mem _ ha)
    have hhead : ∀ c ∈ (f a).filterMap pick, q c = p a := by
      intro c hc
      obtain ⟨b, hb, hpick⟩ := List.mem_filterMap.mp hc
      exact h a List.mem_cons_self b hb c hpick
    rw [List.flatMap_cons, List.filterMap_append, List.filter_append, hrest]
    by_cases hp : p a = true
    · rw [List.filter_cons_of_pos hp, List.flatMap_cons, List.filterMap_append,
        List.filter_eq_self.mpr fun c hc => (hhead c hc).trans hp]
    · rw [List.filter_cons_of_neg hp, List.filter_eq_nil_iff.mpr fun c hc => hhead c hc ▸ hp,
        List.nil_append]

theorem flatMap_filter_of_eq_nil (h : ∀ a ∈ l, p a = false → f a = []) :
    (l.filter p).flatMap f = l.flatMap f := by
  induction l with
  | nil => rfl
  | cons a l ih =>
    have hrest := ih fun a ha => h a (List.mem_cons_of_mem _ ha)
    by_cases hp : p a = true
    · rw [List.filter_cons_of_pos hp, List.flatMap_cons, List.flatMap_cons, hrest]
    · rw [List.filter_cons_of_neg hp, List.flatMap_cons, hrest,
        h a List.mem_cons_self (by simpa using hp), List.nil_append]

end

/-! ### What is compiled for an option -/

namespace Entry

variable {e : Entry} {origin : Option String} {ts : Transforms} {v : Value} {f : Finding}

theorem emit_ne_finding (r : Rule) (property : String) : e.emit r property v ≠ .finding f := by
  intro h
  have hnone := finding?_emit e r property v
  rw [h] at hnone
  exact absurd hnone (by simp [Outcome.finding?])

/-- A finding about a rule names its option. -/
theorem target_of_compileRule {r : Rule} (h : e.compileRule origin ts v r = .finding f) :
    f.target = e.id := by
  unfold compileRule at h
  split at h
  · exact absurd h (emit_ne_finding _ _)
  · split at h
    · rw [← Outcome.finding.inj h]
    · split at h
      · exact absurd h (emit_ne_finding _ _)
      · rw [← Outcome.finding.inj h]

/-- A finding that comes of an option names it. -/
theorem target_of_finding_mem (h : .finding f ∈ e.compile origin ts v) : f.target = e.id := by
  rcases mem_compile h with ⟨-, selector, field, -, hf⟩ | ⟨-, r, -, hf⟩
  · have hnone := finding?_compileFontField e selector v field
    rw [← hf] at hnone
    exact absurd hnone (by simp [Outcome.finding?])
  · exact target_of_compileRule hf.symm

theorem compile_of_isEmpty (h : v.isEmpty = true) : e.compile origin ts v = [] := by
  rw [compile, if_pos (by simp [h])]

end Entry

/-! ### What is compiled for a set of options -/

namespace Schema

variable (s : Schema) (ts : Transforms)

/-- The part of a compilation that is about certain ids comes of the options with these ids. -/
theorem compile_only (X : String → Bool) (values : Source) :
    (s.compile values ts).only X = Compiled.ofOutcomes ((s.entries.filter (X ·.2.id)).flatMap
      fun x => x.2.compile x.1.origin ts (values x.2.id)) := by
  unfold compile outcomes Compiled.ofOutcomes Compiled.only
  congr 1
  · refine filter_filterMap_flatMap fun x _ o ho d hd => ?_
    rw [Outcome.declaration?_eq_some hd] at ho
    rw [(Entry.marks_of_declaration_mem ho).1]
  · refine filter_filterMap_flatMap fun x _ o ho f hf => ?_
    rw [Outcome.finding?_eq_some hf] at ho
    rw [Entry.target_of_finding_mem ho]

theorem only_compile_congr {X : String → Bool} {values values' : Source}
    (h : ∀ id, X id = true → values id = values' id) :
    (s.compile values ts).only X = (s.compile values' ts).only X := by
  rw [compile_only, compile_only]
  refine congrArg Compiled.ofOutcomes (List.flatMap_congr fun x hx => ?_)
  rw [h _ (List.mem_filter.mp hx).2]

/-- Everything that is compiled is about ids whose values are not empty. -/
theorem only_compile_of_isEmpty {X : String → Bool} {values : Source}
    (h : ∀ id, X id = false → (values id).isEmpty = true) :
    (s.compile values ts).only X = s.compile values ts := by
  rw [compile_only, compile, outcomes]
  refine congrArg Compiled.ofOutcomes (flatMap_filter_of_eq_nil fun x _ hx => ?_)
  exact Entry.compile_of_isEmpty (h _ hx)

/-- Nothing is compiled for an id whose value is empty. -/
theorem compile_silent {values : Source} {id : String} (h : (values id).isEmpty = true) :
    (∀ d ∈ (s.compile values ts).declarations, d.optionId ≠ id) ∧
      ∀ f ∈ (s.compile values ts).findings, f.target ≠ id := by
  have hothers : ∀ k, (k != id) = false → (values k).isEmpty = true := by
    intro k hk
    obtain rfl : k = id := by simpa using hk
    exact h
  rw [← s.only_compile_of_isEmpty ts hothers]
  exact ⟨fun d hd => by simpa using (List.mem_filter.mp hd).2,
    fun f hf => by simpa using (List.mem_filter.mp hf).2⟩

end Schema

theorem Value.isEmpty_of_isUnset {v : Value} (h : v.isUnset = true) : v.isEmpty = true := by
  cases v <;> simp_all [isUnset, isEmpty]

/-! ### Values with a fallback -/

namespace Schema

variable (s : Schema) (ts : Transforms) (values fallback : Source)

/-- The ids that are set are compiled as if there were no fallback. -/
theorem only_compile_orElse :
    (s.compile (values.orElse fallback) ts).only (fun id => !(values id).isUnset) =
      s.compile values ts := by
  have hset : ∀ id, (!(values id).isUnset) = true → values.orElse fallback id = values id :=
    fun id hid => Source.orElse_of_not_isUnset fallback (by simpa using hid)
  have hall : ∀ id, (!(values id).isUnset) = false → (values id).isEmpty = true :=
    fun id hid => Value.isEmpty_of_isUnset (by simpa using hid)
  rw [s.only_compile_congr ts hset, s.only_compile_of_isEmpty ts hall]

/-- The ids that are left unset are compiled as from the fallback. -/
theorem only_compile_orElse_unset :
    (s.compile (values.orElse fallback) ts).only (fun id => (values id).isUnset) =
      (s.compile fallback ts).only (fun id => (values id).isUnset) :=
  s.only_compile_congr ts fun _ hid => Source.orElse_of_isUnset fallback hid

end Schema

/-- **Options are compiled apart.**  What is compiled for some ids is the same for any two sources
that agree on them.  With a fallback, the ids that the values do not leave unset are compiled as
from the values alone, which is all that comes of the values alone, and the other ids as from the
fallback; so an empty value that is not unset stays without any declaration or finding. -/
theorem compile_apart (s : Schema) (ts : Transforms) :
    (∀ (X : String → Bool) (values values' : Source),
      (∀ id, X id = true → values id = values' id) →
        (s.compile values ts).only X = (s.compile values' ts).only X) ∧
    ∀ saved fallback : Source,
      let layered := s.compile (saved.orElse fallback) ts
      layered.only (fun id => !(saved id).isUnset) = s.compile saved ts ∧
      layered.only (fun id => (saved id).isUnset) =
        (s.compile fallback ts).only (fun id => (saved id).isUnset) ∧
      ∀ id, (saved id).isUnset = false → (saved id).isEmpty = true →
        (∀ d ∈ layered.declarations, d.optionId ≠ id) ∧
          ∀ f ∈ layered.findings, f.target ≠ id := by
  refine ⟨fun X values values' => s.only_compile_congr ts, fun saved fallback =>
    ⟨s.only_compile_orElse ts saved fallback, s.only_compile_orElse_unset ts saved fallback, ?_⟩⟩
  intro id hset hempty
  refine s.compile_silent ts ?_
  rwa [Source.orElse_of_not_isUnset fallback hset]

/-! ### An accent that two sections have -/

namespace Sample

/-- Two sections that share an accent, whose border needs a transform that does not exist. -/
def sharedAccent : Schema where
  sections :=
    [{ id := "colors"
       origin := some "theme"
       options := Keyed.ofList [
        color "accent" "red" [⟨"color", "a", none, none⟩],
        color "paper" "white" [⟨"background", "body", none, none⟩]] },
     { id := "extras"
       origin := some "extension"
       options := Keyed.ofList [
        color "accent" "green" [⟨"border-color", "img", none, some "darken"⟩],
        color "frame" "black" [⟨"outline-color", "img", none, none⟩]] }]

/-- The accent is set, the frame is switched off, and the paper is left unset. -/
def saved : Source := Source.ofPairs [("accent", .text "teal"), ("frame", .bool false)]

/-- Every option is set to blue. -/
def blue : Source := Source.constant (.text "blue")

theorem compile_saved : sharedAccent.compile saved Transforms.builtins =
    ⟨[⟨"a", "color", "teal", "accent", false⟩],
      [⟨.unknownTransform, some "extension", "accent",
        "unknown transform 'darken' on a rule of 'accent'"⟩]⟩ := by
  decide +kernel

end Sample

/-- Whatever the fallback is, it gives the paper its color, and neither the accent nor the frame. -/
theorem compile_apart_sharedAccent :
    let layered (fallback : Source) :=
      Sample.sharedAccent.compile (Sample.saved.orElse fallback) Transforms.builtins
    (∀ id, (id == "accent") = true →
      Sample.saved.orElse Sample.red id = Sample.saved.orElse Sample.blue id) ∧
    (layered Sample.red).only (· == "accent") = (layered Sample.blue).only (· == "accent") ∧
    (layered Sample.blue).only (fun id => !(Sample.saved id).isUnset) =
      ⟨[⟨"a", "color", "teal", "accent", false⟩],
        [⟨.unknownTransform, some "extension", "accent",
          "unknown transform 'darken' on a rule of 'accent'"⟩]⟩ ∧
    ∀ d ∈ (layered Sample.blue).declarations, d.optionId ≠ "frame" := by
  obtain ⟨hagree, hlayered⟩ := compile_apart Sample.sharedAccent Transforms.builtins
  obtain ⟨hset, -, hempty⟩ := hlayered Sample.saved Sample.blue
  have haccent : ∀ id, (id == "accent") = true →
      Sample.saved.orElse Sample.red id = Sample.saved.orElse Sample.blue id := by
    intro id hid
    rw [beq_iff_eq.mp hid]
    rfl
  exact ⟨haccent, hagree _ _ _ haccent, hset.trans Sample.compile_saved,
    (hempty "frame" rfl rfl).1⟩

/-! ### Saved values on the command line -/

/-- Asked for the saved values only, the program compiles what it would compile for their ids with
the defaults of the schema behind them. -/
theorem Program.compile_valuesFor (s : Schema) (saved : Source) (ts : Transforms) :
    s.compile (valuesFor s saved true) ts =
      (s.compile (valuesFor s saved false) ts).only fun id => !(saved id).isUnset :=
  (s.only_compile_orElse ts saved s.defaults).symm

end ThemeOptions
