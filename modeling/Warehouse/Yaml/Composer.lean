import Warehouse.Yaml.Token

/-!
From tokens to a document. A node may carry an anchor, by which references behind it mean it again. The
stream must hold one document, or none; nesting and the use of references are limited, so that no document
grows out of proportion to its text. So nodes are first composed as they stand, and references are
followed afterwards.
-/

namespace Warehouse.Yaml

/-- A node as it stands: a reference gives the number of the anchor that it names. -/
inductive Node where
  | scalar (s : Scalar)
  | list (form : Form) (items : List Node)
  | table (form : Form) (entries : List (Node × Node))
  | reference (number : Nat)

/-- The state of composing nodes: the tokens left, the prefixes of tag handles, the number of each
anchor, the place of the node that last took a number, the finished nodes with anchors by place, how many
of these have been begun, and how many marks of nodes have been read. -/
structure Composer where
  tokens : List Token
  handles : List (List Char × List Char) := []
  anchors : List (List Char × Nat) := []
  holders : List (Nat × Nat) := []
  nodes : List (Nat × Node) := []
  begun : Nat := 0
  marks : Nat := 0

/-- A step of composing, which may fail. -/
abbrev Compose (α : Type) := StateT Composer Option α

namespace Compose

/-- No further step: the tokens do not fit. -/
def refuse {α : Type} : Compose α := fun _ => none

/-- The next token. -/
def peek : Compose (Option Token) := fun c => some (c.tokens.head?, c)

/-- Takes a token. -/
def take : Compose Unit := fun c => some ((), { c with tokens := c.tokens.tail })

/-- Takes the next token if it is the one given. -/
def takeIf (t : Token) : Compose Bool := do
  if (← peek) = some t then
    take
    return true
  else return false

/-- Takes the token given, which must be next. -/
def expect (t : Token) : Compose Unit := do
  if ← takeIf t then return () else refuse

/-- Counts the marks of a node: one for a scalar or a reference, two for a collection. -/
def count (marks : Nat) : Compose Unit := fun c => some ((), { c with marks := c.marks + marks })

end Compose

open Compose

/-- The prefixes of the tag handles that need no definition. -/
def standardHandles : List (List Char × List Char) :=
  [(['!'], ['!']), (['!', '!'], "tag:yaml.org,2002:".toList)]

/-- What stands in front of a node: an anchor, a tag, or both. -/
structure Properties where
  anchor : Option (List Char) := none
  tag : Option (List Char) := none

/-- The tag of a handle and what follows it. A handle must be defined. -/
def resolveTag (handle suffix : List Char) : Compose (List Char) := fun c =>
  if handle.isEmpty then some (suffix, c)
  else
    match (c.handles ++ standardHandles).lookup handle with
    | some tagPrefix => some (tagPrefix ++ suffix, c)
    | none => none

/-- A tag, if one is next. -/
def tagProperty (p : Properties) : Compose Properties := do
  match ← peek with
  | some (.tag handle suffix) =>
    take
    let tag ← resolveTag handle suffix
    return { p with tag := some tag }
  | _ => return p

/-- An anchor, if one is next. -/
def anchorProperty (p : Properties) : Compose Properties := do
  match ← peek with
  | some (.anchor name) =>
    take
    return { p with anchor := some name }
  | _ => return p

/-- What stands in front of a node, in either order. -/
def properties : Compose Properties := do
  match ← peek with
  | some (.anchor _) => tagProperty (← anchorProperty {})
  | some (.tag _ _) => anchorProperty (← tagProperty {})
  | _ => return {}

/-- The form of a collection with the properties. -/
def Properties.form (p : Properties) : Form :=
  if (p.tag.map fun t => t.head? == some '!').getD false then .tagged else .written

/-- Begins a node, and gives its place if it has an anchor. The number of an anchor is the count of the
names before it. A name that is given again does not add to the count, and so the next new name shares
its number; references mean the node that took the number last. -/
def begin? (p : Properties) : Compose (Option Nat) := fun c =>
  match p.anchor with
  | none => some (none, c)
  | some name =>
    let number := c.anchors.length
    let others := c.anchors.filter fun (other, _) => other ≠ name
    some (some c.begun,
      { c with
        anchors := (name, number) :: others
        holders := (number, c.begun) :: c.holders
        begun := c.begun + 1 })

/-- The node, finished at its place. -/
def finish (place : Option Nat) (node : Node) : Compose Node := fun c =>
  match place with
  | none => some (node, c)
  | some n => some (node, { c with nodes := (n, node) :: c.nodes })

/-- A reference to an anchor, which must stand in front of it. -/
def referTo (name : List Char) : Compose Node := fun c =>
  (c.anchors.lookup name).map fun number => (.reference number, { c with marks := c.marks + 1 })

/-- A scalar of the properties. A bare exclamation mark is no tag of a scalar. -/
def scalarNode (p : Properties) (style : ScalarStyle) (text : List Char) (keepsBare : Bool) :
    Compose Node := do
  let place ← begin? p
  count 1
  let tag := if p.tag = some ['!'] && !keepsBare then none else p.tag
  finish place (.scalar ⟨style, tag.map String.ofList, String.ofList text⟩)

/-- The scalar where nothing is written. -/
def emptyNode : Compose Node := scalarNode {} .plain [] false

/-- A list of the items that are read. -/
def listNode (p : Properties) (items : Compose (List Node)) : Compose Node := do
  let place ← begin? p
  count 2
  finish place (.list p.form (← items))

/-- A table of the entries that are read. -/
def tableNode (p : Properties) (entries : Compose (List (Node × Node))) : Compose Node := do
  let place ← begin? p
  count 2
  finish place (.table p.form (← entries))

/-- Whether one of these tokens, or the end, is next. -/
def sees (tokens : List Token) : Compose Bool := do
  match ← peek with
  | none => return true
  | some t => return tokens.contains t

mutual

/-- A node. In block style it may be a block collection, and behind a key a list whose dashes stand
under the key. -/
def node (block underKey : Bool) : Nat → Compose Node
  | 0 => refuse
  | n + 1 => do
    match ← peek with
    | some (.reference name) =>
      take
      referTo name
    | _ =>
      let p ← properties
      match ← peek with
      | some .blockEntry =>
        if underKey then listNode p (dashedItems n) else bare p
      | some (.scalar style text) =>
        take
        scalarNode p style text false
      | some .flowSequenceStart =>
        take
        listNode p (flowItems true n)
      | some .flowMappingStart =>
        take
        tableNode p (flowEntries true n)
      | some .blockSequenceStart =>
        if block then
          take
          listNode p (blockItems n)
        else bare p
      | some .blockMappingStart =>
        if block then
          take
          tableNode p (blockEntries n)
        else bare p
      | _ => bare p

/-- A node of which only properties are written. -/
def bare (p : Properties) : Compose Node :=
  if p.anchor.isSome || p.tag.isSome then scalarNode p .plain [] true else refuse

/-- The items of a block list up to its end. -/
def blockItems : Nat → Compose (List Node)
  | 0 => refuse
  | n + 1 => do
    if ← takeIf .blockEntry then
      let item ← if ← sees [.blockEntry, .blockEnd] then emptyNode else node true false n
      return item :: (← blockItems n)
    else
      expect .blockEnd
      return []

/-- The items of a list whose dashes stand under its key; it ends where no dash follows. -/
def dashedItems : Nat → Compose (List Node)
  | 0 => refuse
  | n + 1 => do
    if ← takeIf .blockEntry then
      let item ←
        if ← sees [.blockEntry, .key, .value, .blockEnd] then emptyNode else node true false n
      return item :: (← dashedItems n)
    else return []

/-- The entries of a block table up to its end. -/
def blockEntries : Nat → Compose (List (Node × Node))
  | 0 => refuse
  | n + 1 => do
    let isOver ← sees [.blockEnd]
    if isOver then
      expect .blockEnd
      return []
    else
      expect .key
      let key ← if ← sees [.key, .value, .blockEnd] then emptyNode else node true true n
      let value ←
        if ← takeIf .value then
          if ← sees [.key, .value, .blockEnd] then emptyNode else node true true n
        else emptyNode
      return (key, value) :: (← blockEntries n)

/-- The items of a list in brackets up to its end. A key makes an item a table of one entry. -/
def flowItems (isFirst : Bool) : Nat → Compose (List Node)
  | 0 => refuse
  | n + 1 => do
    if ← takeIf .flowSequenceEnd then return []
    else
      if !isFirst then expect .flowEntry
      if ← takeIf .flowSequenceEnd then return []
      else
        let item ← if ← takeIf .key then pairNode n else node false false n
        return item :: (← flowItems false n)

/-- A table of one entry in a list in brackets. Where its key is not written, what follows is skipped. -/
def pairNode : Nat → Compose Node
  | 0 => refuse
  | n + 1 => do
    let key ←
      if ← sees [.value, .flowEntry, .flowSequenceEnd] then
        take
        emptyNode
      else node false false n
    let value ←
      if ← takeIf .value then
        if ← sees [.flowEntry, .flowSequenceEnd] then emptyNode else node false false n
      else emptyNode
    tableNode {} (pure [(key, value)])

/-- The entries of a table in braces up to its end. -/
def flowEntries (isFirst : Bool) : Nat → Compose (List (Node × Node))
  | 0 => refuse
  | n + 1 => do
    if ← takeIf .flowMappingEnd then return []
    else
      if !isFirst then expect .flowEntry
      if ← takeIf .flowMappingEnd then return []
      else
        let entry ←
          if ← takeIf .key then
            let key ←
              if ← sees [.value, .flowEntry, .flowMappingEnd] then emptyNode else node false false n
            let value ←
              if ← takeIf .value then
                if ← sees [.flowEntry, .flowMappingEnd] then emptyNode else node false false n
              else emptyNode
            pure (key, value)
          else
            let key ← node false false n
            pure (key, ← emptyNode)
        return entry :: (← flowEntries false n)

end

/-! ### The stream -/

/-- Takes the directives in front of a document. The version is the first or second of major version
one, and given once; a handle is defined once. -/
def directives : Nat → Bool → Compose Unit
  | 0, _ => refuse
  | n + 1, hasVersion => do
    match ← peek with
    | some (.versionDirective major minor) =>
      if hasVersion || major ≠ 1 || !(minor = 1 || minor = 2) then refuse
      else
        take
        directives n true
    | some (.tagDirective handle tagPrefix) =>
      let c ← get
      if (c.handles.lookup handle).isSome then refuse
      else
        set { c with handles := c.handles ++ [(handle, tagPrefix)] }
        take
        directives n hasVersion
    | _ => return ()

/-- Whether a directive or a mark of a document is next. -/
def seesDirective : Compose Bool := do
  match ← peek with
  | some (.versionDirective _ _) => return true
  | some (.tagDirective _ _) => return true
  | _ => return false

/-- Takes the marks that end a document. -/
def skipEnds : Nat → Compose Unit
  | 0 => return ()
  | n + 1 => do if ← takeIf .documentEnd then skipEnds n

/-- The one document of the stream; an empty stream is an empty scalar. -/
def stream (fuel : Nat) : Compose Node := do
  match ← peek with
  | none => emptyNode
  | some first =>
    let root ←
      if first = .documentStart || (← seesDirective) then
        directives fuel false
        expect .documentStart
        if (← seesDirective) || (← sees [.documentStart, .documentEnd]) then emptyNode
        else node true false fuel
      else node true false fuel
    skipEnds fuel
    match ← peek with
    | none => return root
    | some _ => refuse

/-! ### References -/

/-- A step of following references, with the number of references that may still be followed. -/
abbrev Follow (α : Type) := StateT Nat Option α

/-- The node itself, or the one that it refers to. -/
def target (meaning : Nat → Option Node) : Node → Follow Node
  | .reference number => fun left =>
    match left, meaning number with
    | n + 1, some node => some (node, n)
    | _, _ => none
  | node => pure node

/-- The document of a node, with collections nested to the depth given at most. -/
def follow (meaning : Nat → Option Node) : Nat → Node → Follow Document
  | 0, node => do
    match ← target meaning node with
    | .scalar s => return .scalar s
    | _ => fun _ => none
  | depth + 1, node => do
    match ← target meaning node with
    | .scalar s => return .scalar s
    | .list form items => return .list form (← items.mapM (follow meaning depth))
    | .table form entries =>
      return .table form (← entries.mapM fun (key, value) => do
        let key ← follow meaning depth key
        return (key, ← follow meaning depth value))
    | .reference _ => fun _ => none

/-- The node that a number of an anchor means in the end. -/
def Composer.meaning (c : Composer) (number : Nat) : Option Node :=
  (c.holders.lookup number).bind fun place => c.nodes.lookup place

/-- How deeply collections may be nested. -/
def maxDepth : Nat := 128

/-- The document that a text writes, unless nesting or references go beyond their limits. -/
def read? (text : String) : Option Document := do
  let tokens ← tokens? text.toList
  let (root, c) ← (stream (4 * tokens.length + 8)).run { tokens }
  let (document, _) ← (follow c.meaning maxDepth root).run (100 * c.marks)
  return document

end Warehouse.Yaml
