import ThemeOptions.Document.Basic
import ThemeOptions.Text.Quoted

/-!
# Documents in messages

The text by which a message shows a document value of the wrong kind: its constructor and its
content, with strings quoted.
-/

namespace ThemeOptions.Document

mutual

/-- The text of a value in a message. -/
def describe : Document → String
  | null => "Null"
  | bool b => "Bool(" ++ boolText b ++ ")"
  | number n => "Number(" ++ n.text ++ ")"
  | string s => "String(" ++ Text.quote s ++ ")"
  | sequence items => "Sequence [" ++ String.intercalate ", " (describeItems items) ++ "]"
  | mapping pairs => "Mapping \x7b" ++ String.intercalate ", " (describePairs pairs) ++ "\x7d"
  | tagged tag value =>
    "TaggedValue \x7b tag: !" ++ tag ++ ", value: " ++ describe value ++ " \x7d"

/-- The texts of the items of a sequence. -/
def describeItems : List Document → List String
  | [] => []
  | d :: rest => describe d :: describeItems rest

/-- The texts of the pairs of a mapping, whose scalar keys stand bare. -/
def describePairs : List (Document × Document) → List String
  | [] => []
  | (key, value) :: rest =>
    let shown :=
      match key with
      | bool b => boolText b
      | number n => n.text
      | string s => Text.quote s
      | _ => describe key
    (shown ++ ": " ++ describe value) :: describePairs rest

end

end ThemeOptions.Document
