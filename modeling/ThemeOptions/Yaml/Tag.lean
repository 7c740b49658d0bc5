/-!
# YAML tags

Percent signs in a tag may spell any octets, so a tag is a list of octets, whether they make up a
text or not.  It ends before the first octet that is zero.  A tag that starts with an exclamation
mark is local: its meaning is up to the application.  `Tag.name?` is the name of a local tag.
-/

namespace ThemeOptions.Yaml

/-- A tag in full. -/
structure Tag where
  octets : List UInt8
deriving DecidableEq, Repr

namespace Tag

/-- The octets of a text. -/
def encode (text : String) : List UInt8 := text.toUTF8.data.toList

/-- The octets before the first that is zero. -/
def untilZero (octets : List UInt8) : List UInt8 := octets.takeWhile (· != 0)

/-- The exclamation mark. -/
def mark : UInt8 := 33

/-- The tag of the core schema with this name. -/
def core (name : String) : Tag := ⟨encode ("tag:yaml.org,2002:" ++ name)⟩

/-- Whether a tag is local. -/
def isLocal (t : Tag) : Bool := t.octets.head? == some mark

/-- The name of a local tag: what stands behind the exclamation mark, or the mark if nothing does.
A tag whose name is no text has none. -/
def name? (t : Tag) : Option String :=
  match t.octets with
  | [] => none
  | first :: rest =>
    if first == mark then
      String.fromUTF8? (if rest.isEmpty then [mark] else rest).toByteArray
    else none

@[simp] theorem untilZero_nil : untilZero [] = [] := rfl

/-- Cutting a tag off twice is the same as doing it once. -/
@[simp] theorem untilZero_untilZero (octets : List UInt8) :
    untilZero (untilZero octets) = untilZero octets := by
  induction octets with
  | nil => rfl
  | cons o rest ih =>
    by_cases h : o = 0
    · simp [untilZero, h]
    · simpa [untilZero, h] using ih

/-- Only a local tag has a name. -/
theorem isLocal_of_name? {t : Tag} {name : String} (h : t.name? = some name) :
    t.isLocal = true := by
  rcases t with ⟨_ | ⟨first, rest⟩⟩
  · simp [name?] at h
  · by_cases hm : first = mark
    · simp [isLocal, hm]
    · simp [name?, hm] at h

end Tag

end ThemeOptions.Yaml
