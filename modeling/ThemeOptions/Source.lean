import ThemeOptions.Value

/-!
# Sources of values

A source says what each option is currently set to.  An id that it knows nothing about is unset.
-/

namespace ThemeOptions

/-- The current value of every option, by id. -/
abbrev Source := String → Value

namespace Source

/-- Values by id; of two values for one id the later one counts. -/
def ofPairs (pairs : List (String × Value)) : Source := fun id =>
  match pairs.reverse.find? (·.1 == id) with
  | some (_, v) => v
  | none => .unset

/-- The same value for every option. -/
def constant (v : Value) : Source := fun _ => v

/-- A source whose unset values come from another one. -/
def orElse (values fallback : Source) : Source := fun id =>
  match values id with
  | .unset => fallback id
  | v => v

theorem orElse_of_isUnset {values : Source} {id : String} (fallback : Source)
    (h : (values id).isUnset = true) : values.orElse fallback id = fallback id := by
  unfold orElse
  cases hv : values id <;> simp_all [Value.isUnset]

theorem orElse_of_not_isUnset {values : Source} {id : String} (fallback : Source)
    (h : (values id).isUnset = false) : values.orElse fallback id = values id := by
  unfold orElse
  cases hv : values id <;> simp_all [Value.isUnset]

end Source

end ThemeOptions
