import ThemeOptions.Yaml.Core
import ThemeOptions.Yaml.Lexer

/-!
# Reading YAML documents

An anchor gets a slot, and an alias stands for what was last put into its slot.  A name that is used
again takes the slot that the next new name is going to have.  `parse` reads a text as a document
value; the other readers expect a certain shape and take scalars as they are written.
-/

namespace ThemeOptions.Yaml

/-- The anchors met so far, by name. -/
structure Slots where
  named : List (String × Nat) := []

namespace Slots

/-- The slot for the next anchor: the number of names so far. -/
def next (s : Slots) : Nat := s.named.length

/-- Gives a slot to an anchor. -/
def assign (name : String) (s : Slots) : Slots :=
  if s.named.any (·.1 == name) then
    ⟨s.named.map fun p => if p.1 == name then (name, s.next) else p⟩
  else ⟨s.named ++ [(name, s.next)]⟩

end Slots

namespace Node

/-- The slot of a node's anchor, if it has one. -/
def link? (p : Props String) : StateT Slots (Except Error) (Props Nat) := do
  match p.anchor with
  | none => return { tag := p.tag }
  | some name =>
    let slots ← get
    set (slots.assign name)
    return { anchor := slots.next, tag := p.tag }

mutual

/-- Replaces names by slots; an alias has to follow an anchor of its name. -/
def link : Node String → StateT Slots (Except Error) (Node Nat)
  | reference name => do
    match (← get).named.lookup name with
    | some slot => return reference slot
    | none => throw .unknownAnchor
  | scalar p style text => return scalar (← link? p) style text
  | sequence p items => do
    let p ← link? p
    return sequence p (← linkItems items)
  | mapping p pairs => do
    let p ← link? p
    return mapping p (← linkPairs pairs)

/-- Replaces names by slots in the items of a sequence. -/
def linkItems : List (Node String) → StateT Slots (Except Error) (List (Node Nat))
  | [] => return []
  | n :: rest => do
    let n ← link n
    return n :: (← linkItems rest)

/-- Replaces names by slots in the pairs of a mapping. -/
def linkPairs :
    List (Node String × Node String) → StateT Slots (Except Error) (List (Node Nat × Node Nat))
  | [] => return []
  | (k, v) :: rest => do
    let k ← link k
    let v ← link v
    return (k, v) :: (← linkPairs rest)

end

/-- A node under its own slot. -/
def underSlot (p : Props Nat) (n : Node Nat) : List (Nat × Node Nat) :=
  (p.anchor.map fun slot => (slot, n)).toList

mutual

/-- The nodes with anchors, in the order in which they start. -/
def anchored : Node Nat → List (Nat × Node Nat)
  | reference _ => []
  | scalar p style text => underSlot p (scalar p style text)
  | sequence p items => underSlot p (sequence p items) ++ anchoredItems items
  | mapping p pairs => underSlot p (mapping p pairs) ++ anchoredPairs pairs

/-- The nodes with anchors in a sequence. -/
def anchoredItems : List (Node Nat) → List (Nat × Node Nat)
  | [] => []
  | n :: rest => anchored n ++ anchoredItems rest

/-- The nodes with anchors in a mapping. -/
def anchoredPairs : List (Node Nat × Node Nat) → List (Nat × Node Nat)
  | [] => []
  | (k, v) :: rest => anchored k ++ anchored v ++ anchoredPairs rest

end

mutual

/-- The size of a document: scalars and aliases count once, collections twice. -/
def size : Node Nat → Nat
  | reference _ => 1
  | scalar .. => 1
  | sequence _ items => sizeItems items + 2
  | mapping _ pairs => sizePairs pairs + 2

/-- The size of the items of a sequence. -/
def sizeItems : List (Node Nat) → Nat
  | [] => 0
  | n :: rest => size n + sizeItems rest

/-- The size of the pairs of a mapping. -/
def sizePairs : List (Node Nat × Node Nat) → Nat
  | [] => 0
  | (k, v) :: rest => size k + size v + sizePairs rest

end

end Node

/-- Reading a document: it knows what is in the slots, the last first, and counts down the aliases
that may still be followed. -/
abbrev Reading := ReaderT (List (Nat × Node Nat)) (StateT Nat (Except Error))

/-- A type that can be read from nodes. -/
abbrev Reader (α : Type) := Node Nat → Reading α

namespace Reader

/-- How many collections may be nested. -/
def maxDepth : Nat := 128

/-- What a node stands for, an alias for what is in its slot. -/
def follow : Reader (Node Nat)
  | .reference slot => do
    let left ← get
    if left == 0 then throw .tooManyAliases
    set (left - 1)
    match (← read).lookup slot with
    | some n => return n
    | none => throw .unknownAnchor
  | n => return n

/-- The pairs of a mapping, whose keys have to be different. -/
def distinctPairs (item : Reader Document) :
    List (Document × Document) → List (Node Nat × Node Nat) → Reading (List (Document × Document))
  | before, [] => return before
  | before, (k, v) :: rest => do
    let key ← item k
    if before.any fun p => Document.sameKey key p.1 then throw .duplicateKey
    let value ← item v
    distinctPairs item (before ++ [(key, value)]) rest

/-- A document value, given how to read what is inside a collection. -/
def documentWith (item : Option (Reader Document)) : Reader Document := fun n => do
  match ← follow n with
  | .reference _ => throw .unknownAnchor
  | .scalar p style text =>
    match resolveScalar p.tag style text with
    | .ok d => return d
    | .error e => throw e
  | .sequence p items =>
    match item with
    | none => throw .tooDeep
    | some item => return underTag p.tag (.sequence (← items.mapM item))
  | .mapping p pairs =>
    match item with
    | none => throw .tooDeep
    | some item => return underTag p.tag (.mapping (← distinctPairs item [] pairs))

/-- A document value with up to this many collections inside each other. -/
def document : Nat → Reader Document
  | 0 => documentWith none
  | depth + 1 => documentWith (some (document depth))

/-- The text of a scalar as it is written. -/
def text : Reader String := fun n => do
  match ← follow n with
  | .scalar _ _ s => return s
  | _ => throw .expectedScalar

/-- A scalar that is plain, or a literal with this tag of the core schema. -/
def plainText (tag : String) : Reader (Option String) := fun n => do
  match ← follow n with
  | .scalar p style s =>
    return if style == .plain || (style == .literal && p.tag == some (.core tag)) then some s
      else none
  | _ => return none

/-- A truth value. -/
def bool : Reader Bool := fun n => do
  match (← plainText "bool" n).bind bool? with
  | some b => return b
  | none => throw .expectedBool

/-- A signed integer of 32 bits. -/
def int32 : Reader Int32 := fun n => do
  match (← plainText "int" n).bind integer? with
  | some i =>
    if Int32.minValue.toInt ≤ i && i ≤ Int32.maxValue.toInt then return Int32.ofInt i
    else throw .expectedInteger
  | none => throw .expectedInteger

/-- Whether a scalar is empty and plain, which stands for any empty collection. -/
def isBlank (style : Style) (text : String) : Bool := style == .plain && text.isEmpty

/-- The items of a sequence. -/
def items : Reader (List (Node Nat)) := fun n => do
  match ← follow n with
  | .sequence _ ns => return ns
  | .scalar _ style s => if isBlank style s then return [] else throw .expectedSequence
  | _ => throw .expectedSequence

/-- The pairs of a mapping. -/
def pairs : Reader (List (Node Nat × Node Nat)) := fun n => do
  match ← follow n with
  | .mapping _ ps => return ps
  | .scalar _ style s => if isBlank style s then return [] else throw .expectedMapping
  | _ => throw .expectedMapping

/-- The pairs of a mapping with scalar keys. -/
def fields : Reader (List (String × Node Nat)) := fun n => do
  (← pairs n).mapM fun (k, v) => return (← text k, v)

/-- The fields of a record with these names.  Unknown fields are refused if it is `strict`, and no
field may stand there twice. -/
def record (strict : Bool) (names : List String) : Reader (List (String × Node Nat)) := fun n => do
  let known ← (← fields n).filterM fun (name, _) =>
    if names.contains name then return true
    else if strict then throw (.unknownField name)
    else return false
  for name in names do
    if known.countP (·.1 == name) > 1 then throw (.duplicateField name)
  return known

/-- A field of a record, or what stands for it if it is missing. -/
def field {α : Type} (known : List (String × Node Nat)) (name : String) (missing : Reading α)
    (r : Reader α) : Reading α :=
  match known.lookup name with
  | some n => r n
  | none => missing

/-- A field that has to be there. -/
def required {α : Type} (known : List (String × Node Nat)) (name : String) (r : Reader α) :
    Reading α :=
  field known name (throw (.missingField name)) r

/-- The pairs of a mapping as document values. -/
def documentPairs (depth : Nat) : Reader (List (Document × Document)) := fun n => do
  distinctPairs (document depth) [] (← pairs n)

/-- A document value without tags, given how to read what is inside a collection.  The keys of its
mappings are texts, and of two equal keys the later one counts. -/
def plainDocumentWith (item : Option (Reader Document)) : Reader Document := fun n => do
  match ← follow n with
  | .reference _ => throw .unknownAnchor
  | .scalar p style s =>
    match resolveScalar p.tag style s with
    | .ok (.tagged ..) => throw .unexpectedTag
    | .ok d => return d
    | .error e => throw e
  | .sequence p ns =>
    if (localName? p.tag).isSome then throw .unexpectedTag
    match item with
    | none => throw .tooDeep
    | some item => return .sequence (← ns.mapM item)
  | .mapping p ps =>
    if (localName? p.tag).isSome then throw .unexpectedTag
    match item with
    | none => throw .tooDeep
    | some item =>
      let read ← ps.mapM fun (k, v) => return (Document.string (← text k), ← item v)
      return .mapping (read.foldl (fun before (k, v) => Document.setPair before k v) [])

/-- A document value without tags, with up to this many collections inside each other. -/
def plainDocument : Nat → Reader Document
  | 0 => plainDocumentWith none
  | depth + 1 => plainDocumentWith (some (plainDocument depth))

end Reader

/-- Reads the one document of a text; a text without a document is read like an empty scalar. -/
def readText {α : Type} (r : Reader α) (text : String) : Except Error α := do
  let root ← Node.ofTokens (← tokens text).toList
  let (root, _) ← (Node.link (root.getD Node.empty)).run {}
  let (result, _) ← ((r root).run (Node.anchored root).reverse).run (100 * root.size)
  return result

/-- The document value that a text holds. -/
def parse (text : String) : Except Error Document :=
  readText (Reader.document Reader.maxDepth) text

end ThemeOptions.Yaml
