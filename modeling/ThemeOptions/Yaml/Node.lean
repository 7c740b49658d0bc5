import ThemeOptions.Yaml.Error
import ThemeOptions.Yaml.Token

/-!
# YAML nodes

A document is a tree of nodes.  `Node.ofTokens` builds it from the tokens of a text that holds one
document.  Aliases and anchors are kept by name.
-/

namespace ThemeOptions.Yaml

/-- What may stand before a node. -/
structure Props (α : Type) where
  anchor : Option α := none
  tag : Option Tag := none

/-- A node; anchors and aliases are of type `α`. -/
inductive Node (α : Type) where
  | reference (target : α)
  | scalar (props : Props α) (style : Style) (text : String)
  | sequence (props : Props α) (items : List (Node α))
  | mapping (props : Props α) (pairs : List (Node α × Node α))

namespace Node

/-- A node of which nothing is written. -/
def empty {α : Type} : Node α := scalar {} .plain ""

instance {α : Type} : Inhabited (Node α) := ⟨empty⟩

/-- The handles of tags with what their tags start with. -/
abbrev Handles := List (String × List UInt8)

/-- The handles that need no declaration. -/
def standardHandles : Handles := [("!", [Tag.mark]), ("!!", (Tag.core "").octets)]

/-- A tag in full. -/
def fullTag (handles : Handles) (handle : String) (suffix : List UInt8) : Except Error Tag :=
  if handle.isEmpty then .ok ⟨suffix⟩
  else match handles.lookup handle with
    | some start => .ok ⟨start ++ suffix⟩
    | none => .error .undefinedTag

/-- What stands before a node, an anchor and a tag in either order, and what follows. -/
def readProps (handles : Handles) (ts : List Token) :
    Except Error (Props String × List Token) := do
  match ts with
  | .anchor a :: .tag h s :: rest => return ({ anchor := a, tag := ← fullTag handles h s }, rest)
  | .anchor a :: rest => return ({ anchor := a }, rest)
  | .tag h s :: .anchor a :: rest => return ({ anchor := a, tag := ← fullTag handles h s }, rest)
  | .tag h s :: rest => return ({ tag := ← fullTag handles h s }, rest)
  | _ => return ({}, ts)

/-- Tokens that follow a place where a node may be missing in a block collection. -/
def endsBlockItem : Option Token → Bool
  | some .key | some .value | some .blockEnd => true
  | _ => false

/-- Tokens that follow a place where a value may be missing in a flow collection. -/
def endsFlowItem (closing : Token) (t : Option Token) : Bool :=
  t == some .flowEntry || t == some closing

mutual

/-- A node.  Block collections stand only where `block` holds, and a block sequence that is not
indented only where `compact` holds. -/
def read (handles : Handles) (block compact : Bool) :
    Nat → List Token → Except Error (Node String × List Token)
  | 0, _ => .error .expectedNode
  | fuel + 1, ts => do
    if let .reference name :: rest := ts then return (.reference name, rest)
    let (props, ts) ← readProps handles ts
    match ts with
    | .scalar style text :: rest => return (.scalar props style text, rest)
    | .flowSequenceStart :: rest =>
      let (items, rest) ← readFlowSequence handles true fuel rest
      return (.sequence props items, rest)
    | .flowMappingStart :: rest =>
      let (pairs, rest) ← readFlowMapping handles true fuel rest
      return (.mapping props pairs, rest)
    | t :: rest =>
      if compact && t == .blockEntry then
        let (items, rest) ← readCompactSequence handles fuel ts
        return (.sequence props items, rest)
      else if block && t == .blockSequenceStart then
        let (items, rest) ← readBlockSequence handles fuel rest
        return (.sequence props items, rest)
      else if block && t == .blockMappingStart then
        let (pairs, rest) ← readBlockMapping handles fuel rest
        return (.mapping props pairs, rest)
      else if props.anchor.isSome || props.tag.isSome then return (.scalar props .plain "", ts)
      else throw .expectedNode
    | [] =>
      if props.anchor.isSome || props.tag.isSome then return (.scalar props .plain "", [])
      else throw .expectedNode

/-- The items of a block sequence up to its end. -/
def readBlockSequence (handles : Handles) :
    Nat → List Token → Except Error (List (Node String) × List Token)
  | 0, _ => .error .expectedEntry
  | fuel + 1, ts => do
    match ts with
    | .blockEnd :: rest => return ([], rest)
    | .blockEntry :: rest =>
      let (item, rest) ←
        match rest.head? with
        | some .blockEntry | some .blockEnd => pure (empty, rest)
        | _ => read handles true false fuel rest
      let (items, rest) ← readBlockSequence handles fuel rest
      return (item :: items, rest)
    | _ => throw .expectedEntry

/-- The items of a block sequence that stands in the column of its key. -/
def readCompactSequence (handles : Handles) :
    Nat → List Token → Except Error (List (Node String) × List Token)
  | 0, _ => .error .expectedEntry
  | fuel + 1, ts => do
    match ts with
    | .blockEntry :: rest =>
      let (item, rest) ←
        if rest.head? == some .blockEntry || endsBlockItem rest.head? then pure (empty, rest)
        else read handles true false fuel rest
      let (items, rest) ← readCompactSequence handles fuel rest
      return (item :: items, rest)
    | _ => return ([], ts)

/-- A key or a value of a block mapping, which may be missing. -/
def readBlockItem (handles : Handles) :
    Nat → List Token → Except Error (Node String × List Token)
  | 0, _ => .error .expectedNode
  | fuel + 1, ts =>
    if endsBlockItem ts.head? then .ok (empty, ts) else read handles true true fuel ts

/-- The pairs of a block mapping up to its end. -/
def readBlockMapping (handles : Handles) :
    Nat → List Token → Except Error (List (Node String × Node String) × List Token)
  | 0, _ => .error .expectedKey
  | fuel + 1, ts => do
    match ts with
    | .blockEnd :: rest => return ([], rest)
    | .key :: rest =>
      let (key, rest) ← readBlockItem handles fuel rest
      let (value, rest) ←
        match rest with
        | .value :: rest => readBlockItem handles fuel rest
        | _ => pure (empty, rest)
      let (pairs, rest) ← readBlockMapping handles fuel rest
      return ((key, value) :: pairs, rest)
    | _ => throw .expectedKey

/-- A value in a flow collection, which may be missing. -/
def readFlowValue (handles : Handles) (closing : Token) :
    Nat → List Token → Except Error (Node String × List Token)
  | 0, _ => .error .expectedNode
  | fuel + 1, ts =>
    match ts with
    | .value :: rest =>
      if endsFlowItem closing rest.head? then .ok (empty, rest)
      else read handles false false fuel rest
    | _ => .ok (empty, ts)

/-- The items of a flow sequence up to its end.  Behind a key mark an item is a mapping of one pair;
if the key is missing there, the token behind the mark counts as its place and is dropped. -/
def readFlowSequence (handles : Handles) (first : Bool) :
    Nat → List Token → Except Error (List (Node String) × List Token)
  | 0, _ => .error .unclosedFlow
  | fuel + 1, ts => do
    if ts.head? == some .flowSequenceEnd then return ([], ts.drop 1)
    let ts ←
      if first then pure ts
      else if ts.head? == some .flowEntry then pure (ts.drop 1)
      else throw .unclosedFlow
    match ts with
    | .flowSequenceEnd :: rest => return ([], rest)
    | .key :: rest =>
      let (key, rest) ←
        if rest.head? == some .value || endsFlowItem .flowSequenceEnd rest.head? then
          pure (empty, rest.drop 1)
        else read handles false false fuel rest
      let (value, rest) ← readFlowValue handles .flowSequenceEnd fuel rest
      let (items, rest) ← readFlowSequence handles false fuel rest
      return (.mapping {} [(key, value)] :: items, rest)
    | _ =>
      let (item, rest) ← read handles false false fuel ts
      let (items, rest) ← readFlowSequence handles false fuel rest
      return (item :: items, rest)

/-- The pairs of a flow mapping up to its end. -/
def readFlowMapping (handles : Handles) (first : Bool) :
    Nat → List Token → Except Error (List (Node String × Node String) × List Token)
  | 0, _ => .error .unclosedFlow
  | fuel + 1, ts => do
    if ts.head? == some .flowMappingEnd then return ([], ts.drop 1)
    let ts ←
      if first then pure ts
      else if ts.head? == some .flowEntry then pure (ts.drop 1)
      else throw .unclosedFlow
    match ts with
    | .flowMappingEnd :: rest => return ([], rest)
    | .key :: rest =>
      let (key, rest) ←
        if rest.head? == some .value || endsFlowItem .flowMappingEnd rest.head? then
          pure (empty, rest)
        else read handles false false fuel rest
      let (value, rest) ← readFlowValue handles .flowMappingEnd fuel rest
      let (pairs, rest) ← readFlowMapping handles false fuel rest
      return ((key, value) :: pairs, rest)
    | _ =>
      let (key, rest) ← read handles false false fuel ts
      let (pairs, rest) ← readFlowMapping handles false fuel rest
      return ((key, empty) :: pairs, rest)

end

/-- The directives before a document: the handles they declare, and what follows.  There is at most
one version, and no handle is declared twice. -/
def readDirectives : Bool → Handles → List Token → Except Error (Handles × List Token)
  | versioned, handles, .version major minor :: rest =>
    if versioned then .error .duplicateDirective
    else if major == 1 && (minor == 1 || minor == 2) then readDirectives true handles rest
    else .error .wrongVersion
  | versioned, handles, .tagHandle handle start :: rest =>
    if (handles.lookup handle).isSome then .error .duplicateDirective
    else readDirectives versioned (handles ++ [(handle, start)]) rest
  | _, handles, ts => .ok (handles, ts)

/-- Whether these tokens leave a document without content. -/
def endsDocument : Option Token → Bool
  | none | some .documentStart | some .documentEnd => true
  | some (.version ..) | some (.tagHandle ..) => true
  | _ => false

/-- The root of the document in a text, none if the text holds no document.  A text with a second
document is refused. -/
def ofTokens (ts : List Token) : Except Error (Option (Node String)) := do
  let fuel := 4 * ts.length + 4
  if ts.isEmpty then return none
  let (handles, rest) ← readDirectives false [] ts
  let handles := handles ++ standardHandles
  let (root, rest) ←
    if rest.head? == some .documentStart then
      let rest := rest.drop 1
      if endsDocument rest.head? then pure (empty, rest) else read handles true false fuel rest
    else if rest.length == ts.length then read handles true false fuel rest
    else throw .expectedDocument
  match rest.dropWhile (· == .documentEnd) with
  | [] => return some root
  | _ => throw .severalDocuments

end Node

end ThemeOptions.Yaml
