import ThemeOptions.Proofs.AddedTransform
import ThemeOptions.Proofs.SilentRules

/-!
# Registering transforms

What any calls do to the transforms that are there at the start, which are the built-in ones or
none.  A name has to be an identifier that is free (`Transforms.register_cases`); the calls that
meet this are added in order, and nothing else is (`Transforms.toList_registerAll`).  So a name
stands for the built-in transform or else for that of the first call that succeeds, and the names
are listed in strictly ascending order (`Transforms.first_registration_wins`).
-/

namespace ThemeOptions

/-! ### Identifiers -/

/-- A character that an identifier may start with: an ASCII letter or an underscore. -/
def StartsIdentifier (c : Char) : Prop := 'A' ≤ c ∧ c ≤ 'Z' ∨ 'a' ≤ c ∧ c ≤ 'z' ∨ c = '_'

/-- A name that is not empty, starts with an ASCII letter or an underscore, and goes on with these
and with digits. -/
def Identifier (name : String) : Prop :=
  ∃ c cs, name.toList = c :: cs ∧ StartsIdentifier c ∧
    ∀ d ∈ cs, StartsIdentifier d ∨ '0' ≤ d ∧ d ≤ '9'

theorem startsIdentifier_iff (c : Char) :
    StartsIdentifier c ↔ (c.isAlpha || c == '_') = true := by
  have hupper : c.isUpper = true ↔ 'A' ≤ c ∧ c ≤ 'Z' := decide_eq_true_iff
  have hlower : c.isLower = true ↔ 'a' ≤ c ∧ c ≤ 'z' :=
    Bool.and_eq_true_iff.trans (and_congr decide_eq_true_iff decide_eq_true_iff)
  have halpha : c.isAlpha = true ↔ c.isUpper = true ∨ c.isLower = true := Bool.or_eq_true_iff
  rw [Bool.or_eq_true, beq_iff_eq, halpha, hupper, hlower, or_assoc, StartsIdentifier]

theorem identifier_iff {name : String} : Identifier name ↔ isIdentifier name = true := by
  have hpart : ∀ d : Char, (StartsIdentifier d ∨ '0' ≤ d ∧ d ≤ '9') ↔
      (d.isAlphanum || d == '_') = true := by
    intro d
    simp only [startsIdentifier_iff, Char.isAlphanum, Char.isDigit, Bool.or_eq_true,
      Bool.and_eq_true, decide_eq_true_eq]
    exact or_right_comm
  unfold Identifier isIdentifier
  cases name.toList with
  | nil => simp
  | cons c cs =>
    simp only [List.cons.injEq, Bool.and_eq_true, List.all_eq_true, ← startsIdentifier_iff,
      ← hpart]
    constructor
    · rintro ⟨c', cs', ⟨rfl, rfl⟩, hfirst, hrest⟩
      exact ⟨hfirst, hrest⟩
    · rintro ⟨hfirst, hrest⟩
      exact ⟨c, cs, ⟨rfl, rfl⟩, hfirst, hrest⟩

instance : DecidablePred Identifier := fun _ => decidable_of_iff _ identifier_iff.symm

namespace Transforms

/-- The transforms at the start, with the built-in ones or none. -/
def initial (builtIn : Bool) : Transforms := if builtIn then builtins else empty

/-- The transforms after several calls to register one. -/
def registerAll (ts : Transforms) (calls : List (String × Transform)) : Transforms :=
  calls.foldl (fun ts c => ts.afterRegister c.1 c.2) ts

/-- The calls that succeed, in order. -/
def accepted (ts : Transforms) : List (String × Transform) → List (String × Transform)
  | [] => []
  | c :: rest =>
    match ts.register c.1 c.2 with
    | .ok ts' => c :: ts'.accepted rest
    | .error _ => ts.accepted rest

/-! ### Names -/

variable (ts : Transforms) (n : String) (t : Transform)

theorem mem_names : n ∈ ts.names ↔ n ∈ ts.named.keys := List.mem_mergeSort

/-- The names are listed in strictly ascending order, since no two are equal. -/
theorem pairwise_names : ts.names.Pairwise (· < ·) := by
  have hsorted : ts.names.Pairwise fun a b => decide (a ≤ b) = true := by
    refine List.pairwise_mergeSort (fun a b c hab hbc => ?_) (fun a b => ?_) ts.named.keys
    · rw [decide_eq_true_eq] at *
      exact String.le_trans hab hbc
    · simpa using String.le_total a b
  have hdistinct : ts.names.Nodup :=
    (List.mergeSort_perm ts.named.keys _).nodup_iff.mpr ts.named.nodup_keys
  refine hsorted.imp₂ (fun a b hab hne => ?_) hdistinct
  exact String.not_le.mp fun hba => hne (String.le_antisymm (of_decide_eq_true hab) hba)

/-! ### One call -/

/-- Everything that a call can come to. -/
theorem register_cases :
    (n = "" ∧ ts.register n t = .error .emptyName) ∨
    (n ≠ "" ∧ ¬Identifier n ∧ ts.register n t = .error (.invalidName n)) ∨
    (Identifier n ∧ n ∈ ts.names ∧ ts.register n t = .error (.duplicate n)) ∨
    (Identifier n ∧ n ∉ ts.names ∧ ∃ ts', ts.register n t = .ok ts' ∧
      ts'.named.toList = ts.named.toList ++ [(n, t)]) := by
  by_cases hempty : n = ""
  · exact .inl ⟨hempty, by simp [register, hempty]⟩
  · have hfilled : n.isEmpty = false := by simpa using hempty
    refine .inr ?_
    by_cases hid : Identifier n
    · have hvalid := identifier_iff.mp hid
      refine .inr ?_
      rw [mem_names]
      by_cases hmem : n ∈ ts.named.keys
      · refine .inl ⟨hid, hmem, ?_⟩
        simp [register, hfilled, hvalid, contains, Keyed.contains_iff.mpr hmem]
      · have hok : ts.register n t = .ok ⟨ts.named.insert (n, t)⟩ := by
          simp [register, hfilled, hvalid, contains, Keyed.contains_eq_false_iff.mpr hmem]
        exact .inr ⟨hid, hmem, _, hok, (register_eq_ok hok).2.2⟩
    · have hinvalid : isIdentifier n = false := by
        rw [← Bool.not_eq_true]
        exact fun h => hid (identifier_iff.mpr h)
      exact .inl ⟨hempty, hid, by simp [register, hfilled, hinvalid]⟩

/-- A call succeeds exactly if its name is an identifier that is free. -/
theorem register_succeeds_iff :
    (∃ ts', ts.register n t = .ok ts') ↔ Identifier n ∧ n ∉ ts.names := by
  rcases ts.register_cases n t with ⟨rfl, h⟩ | ⟨-, hid, h⟩ | ⟨-, hmem, h⟩ | ⟨hid, hmem, ts', h, -⟩
  · have hid : ¬Identifier "" := fun hid => ne_empty_of_isIdentifier (identifier_iff.mp hid) rfl
    simp [h, hid]
  · simp [h, hid]
  · simp [h, hmem]
  · simp [h, hid, hmem]

/-- A call fails for the first of three reasons that holds. -/
theorem register_eq_error_iff (e : RegistrationError) :
    ts.register n t = .error e ↔
      n = "" ∧ e = .emptyName ∨
      n ≠ "" ∧ ¬Identifier n ∧ e = .invalidName n ∨
      Identifier n ∧ n ∈ ts.names ∧ e = .duplicate n := by
  have hfilled : Identifier n → n ≠ "" := fun hid =>
    ne_empty_of_isIdentifier (identifier_iff.mp hid)
  rcases ts.register_cases n t with ⟨hempty, h⟩ | ⟨hne, hid, h⟩ | ⟨hid, hmem, h⟩ |
    ⟨hid, hmem, ts', h, -⟩
  · have hid : ¬Identifier n := fun hid => hfilled hid hempty
    rw [h]
    simp [hempty, hempty ▸ hid, eq_comm]
  · simp [h, hne, hid, eq_comm]
  · simp [h, hfilled hid, hid, hmem, eq_comm]
  · simp [h, hfilled hid, hid, hmem]

/-- A call leaves the transforms as they are exactly if it fails. -/
theorem afterRegister_eq_self_iff :
    ts.afterRegister n t = ts ↔ ¬(Identifier n ∧ n ∉ ts.names) := by
  rw [← register_succeeds_iff ts n t]
  unfold afterRegister
  cases h : ts.register n t with
  | error e => simp
  | ok ts' =>
    have hne : ts' ≠ ts := by
      rintro rfl
      simpa using (register_eq_ok h).2.2
    simp [hne]

/-! ### Several calls -/

/-- What succeeds is added in order. -/
theorem toList_registerAll (calls : List (String × Transform)) :
    (ts.registerAll calls).named.toList = ts.named.toList ++ ts.accepted calls := by
  induction calls generalizing ts with
  | nil => exact (List.append_nil _).symm
  | cons c rest ih =>
    rw [registerAll, List.foldl_cons, ← registerAll, ih, accepted, afterRegister]
    cases h : ts.register c.1 c.2 with
    | error e => rfl
    | ok ts' => rw [(register_eq_ok h).2.2, List.append_assoc, List.singleton_append]

theorem mem_names_of_register {ts ts' : Transforms} {n : String} {t : Transform}
    (h : ts.register n t = .ok ts') {m : String} : m ∈ ts'.names ↔ m ∈ ts.names ∨ m = n := by
  rw [mem_names, mem_names, Keyed.keys, (register_eq_ok h).2.2, List.map_append, List.mem_append,
    List.map_singleton, List.mem_singleton]
  rfl

/-- The first call for a free identifier is the one that succeeds. -/
theorem find?_accepted (calls : List (String × Transform)) :
    (ts.accepted calls).find? (·.1 == n) =
      if Identifier n ∧ n ∉ ts.names then calls.find? (·.1 == n) else none := by
  induction calls generalizing ts with
  | nil => simp [accepted]
  | cons c rest ih =>
    rw [accepted]
    cases h : ts.register c.1 c.2 with
    | error e =>
      have hfails : ¬(Identifier c.1 ∧ c.1 ∉ ts.names) := by
        rw [← ts.register_succeeds_iff c.1 c.2, h]
        simp
      rw [ih]
      by_cases hn : Identifier n ∧ n ∉ ts.names
      · have hne : c.1 ≠ n := fun e => hfails (e ▸ hn)
        rw [if_pos hn, if_pos hn, List.find?_cons_of_neg (by simpa using hne)]
      · rw [if_neg hn, if_neg hn]
    | ok ts' =>
      have hsucceeds := (ts.register_succeeds_iff c.1 c.2).mp ⟨ts', h⟩
      by_cases hcn : c.1 = n
      · rw [if_pos (hcn ▸ hsucceeds), List.find?_cons_of_pos (by simpa using hcn),
          List.find?_cons_of_pos (by simpa using hcn)]
      · have hfree : n ∉ ts'.names ↔ n ∉ ts.names := by
          rw [mem_names_of_register h, or_iff_left (Ne.symm hcn)]
        rw [List.find?_cons_of_neg (by simpa using hcn),
          List.find?_cons_of_neg (by simpa using hcn), ih]
        simp only [hfree]

theorem get?_registerAll (calls : List (String × Transform)) :
    (ts.registerAll calls).get? n =
      (ts.get? n).or (((ts.accepted calls).find? (·.1 == n)).map Prod.snd) := by
  rw [get?, Keyed.find?, toList_registerAll, List.find?_append, Option.map_or]
  rfl

theorem mem_names_registerAll (calls : List (String × Transform)) :
    n ∈ (ts.registerAll calls).names ↔ n ∈ ts.names ∨ n ∈ (ts.accepted calls).map Prod.fst := by
  rw [mem_names, mem_names, Keyed.keys, toList_registerAll, List.map_append, List.mem_append]
  rfl

/-! ### From the start -/

/-- The built-in transforms that are there at the start. -/
def shipped (builtIn : Bool) : List Builtin := if builtIn then Builtin.all else []

theorem get?_initial (builtIn : Bool) :
    (initial builtIn).get? n = ((shipped builtIn).find? (·.name == n)).map .builtin := by
  cases builtIn with
  | false => rfl
  | true =>
    have hlist : builtins.named.toList = Builtin.all.map fun b => (b.name, .builtin b) := rfl
    show (builtins.named.toList.find? (·.1 == n)).map Prod.snd = _
    rw [hlist, List.find?_map, Option.map_map]
    rfl

theorem mem_names_initial (builtIn : Bool) :
    n ∈ (initial builtIn).names ↔ n ∈ (shipped builtIn).map Builtin.name := by
  rw [mem_names]
  cases builtIn <;> rfl

/-- **Names stay with whom they were given to first.**  After any calls, on the built-in transforms
or on none, a further call succeeds exactly if its name is an identifier that is not listed; else it
fails because the name is empty, or else no identifier, or else listed, and changes nothing.  A name
stands for the built-in transform of this name, or else for that of the first call for it that
succeeded, which is the first one if the name is an identifier; and exactly the names that stand for
a transform are listed, in strictly ascending order. -/
theorem first_registration_wins (builtIn : Bool) (calls : List (String × Transform)) :
    let start := initial builtIn
    let ts := start.registerAll calls
    (∀ n t, ((∃ ts', ts.register n t = .ok ts') ↔ Identifier n ∧ n ∉ ts.names) ∧
      (∀ e, ts.register n t = .error e ↔
        n = "" ∧ e = .emptyName ∨
        n ≠ "" ∧ ¬Identifier n ∧ e = .invalidName n ∨
        Identifier n ∧ n ∈ ts.names ∧ e = .duplicate n) ∧
      (start.registerAll (calls ++ [(n, t)]) = ts ↔ ∃ e, ts.register n t = .error e)) ∧
    (∀ n, ts.get? n =
        (((shipped builtIn).find? (·.name == n)).map .builtin).or
          (((start.accepted calls).find? (·.1 == n)).map Prod.snd) ∧
      (start.accepted calls).find? (·.1 == n) =
        if Identifier n ∧ n ∉ (shipped builtIn).map Builtin.name then calls.find? (·.1 == n)
        else none) ∧
    ts.names.Pairwise (· < ·) ∧
    ∀ n, (n ∈ ts.names ↔ (ts.get? n).isSome = true) ∧
      (n ∈ ts.names ↔
        n ∈ (shipped builtIn).map Builtin.name ∨ n ∈ (start.accepted calls).map Prod.fst) := by
  intro start ts
  refine ⟨fun n t => ⟨ts.register_succeeds_iff n t, ts.register_eq_error_iff n t, ?_⟩,
    fun n => ⟨?_, ?_⟩, ts.pairwise_names, fun n => ⟨?_, ?_⟩⟩
  · have hnext : start.registerAll (calls ++ [(n, t)]) = ts.afterRegister n t := by
      rw [registerAll, List.foldl_append]
      rfl
    rw [hnext, afterRegister_eq_self_iff, ← register_succeeds_iff ts n t]
    cases ts.register n t <;> simp
  · rw [get?_registerAll, get?_initial]
  · simp only [start.find?_accepted n calls, mem_names_initial, start]
  · rw [mem_names, get?, Option.isSome_map, ← Option.ne_none_iff_isSome, ne_eq,
      Keyed.find?_eq_none_iff, not_not]
  · rw [mem_names_registerAll, mem_names_initial]

end Transforms

end ThemeOptions
