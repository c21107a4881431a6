import Driftwatch.Yaml.Token

/-!
# The document of a YAML text

A document is a tree of scalars, sequences and mappings. A node may carry an anchor, and an alias
refers to the node with that anchor. A pair without braces inside a sequence in brackets is refused.

## Anchors

An anchor is a name, and it gets a number: that of the different names before it. So an anchor that
is set again gets a number that the next new name may get too. An alias takes the number that its
name has where the alias stands, and it refers to the last node of the whole document whose anchor
has this number. It may be inside that node, so the tree that a document describes can be infinite
and is only unfolded as far as it is needed.

## Main definitions

* `Node`: a tree with aliases.
* `Document`: a tree and the nodes that its aliases refer to, with `Document.unfold`.
* `document?`: the document of a text, which may be empty.
-/

namespace Driftwatch.Yaml

/-- A tree of scalars, sequences and mappings. -/
inductive Node where
  | scalar (scalar : Scalar)
  | sequence (items : List Node)
  | mapping (entries : List (Node × Node))
  /-- A reference to the node whose anchor has this number. -/
  | reference (number : Nat)
  deriving Inhabited, Repr

namespace Node

/-- The node where nothing is written. -/
def empty : Node :=
  .scalar ⟨"", .plain, none⟩

end Node

/-- An anchor in a document. Its node is unknown until it was read. -/
structure Anchor where
  name : String
  number : Nat
  node : Option Node := none

/-- What is known while a document is read: the tags that handles stand for, the anchors seen so
far, the latest first, and how many different names they have. -/
structure Context where
  handles : List (String × Tag) := []
  anchors : List Anchor := []
  nameCount : Nat := 0

namespace Context

/-- The handles that every document has. -/
def standardHandles : List (String × Tag) :=
  [("!", .ofText "!"), ("!!", .ofText "tag:yaml.org,2002:")]

/-- The tag that a handle and a suffix stand for. -/
def resolve? (context : Context) (handle : String) (suffix : Tag) : Option Tag :=
  if handle = "" then some suffix
  else ((context.handles ++ standardHandles).lookup handle).map (· ++ suffix)

/-- The node for an alias. -/
def alias? (context : Context) (name : String) : Option Node :=
  (context.anchors.find? (·.name == name)).map fun anchor => .reference anchor.number

/-- Notes the anchor of a node that is about to be read. -/
def announce (context : Context) (anchor : Option String) : Context :=
  match anchor with
  | some name =>
    let isNew := context.anchors.all (·.name != name)
    { context with
      anchors := ⟨name, context.nameCount, none⟩ :: context.anchors
      nameCount := if isNew then context.nameCount + 1 else context.nameCount }
  | none => context

/-- Notes the node of the anchor that was announced when `count` anchors were known. -/
def complete (context : Context) (anchor : Option String) (count : Nat) (node : Node) : Context :=
  match anchor with
  | some _ =>
    let index := context.anchors.length - 1 - count
    { context with anchors := context.anchors.modify index fun a => { a with node := some node } }
  | none => context

end Context

/-- The anchor and the tag before a node. -/
structure Properties where
  anchor : Option String := none
  tag : Option Tag := none

/-- Reads an anchor and a tag, in either order. -/
def readProperties? (context : Context) : List Token → Option (Properties × List Token)
  | .anchor name :: .tag handle suffix :: rest => do
    return (⟨some name, some (← context.resolve? handle suffix)⟩, rest)
  | .tag handle suffix :: .anchor name :: rest => do
    return (⟨some name, some (← context.resolve? handle suffix)⟩, rest)
  | .anchor name :: rest => some (⟨some name, none⟩, rest)
  | .tag handle suffix :: rest => do
    return (⟨none, some (← context.resolve? handle suffix)⟩, rest)
  | rest => some ({}, rest)

/-- A scalar with the tag before it. -/
def taggedScalar (scalar : Scalar) (tag : Option Tag) : Node :=
  .scalar { scalar with tag := tag }

mutual

/-- Reads a node. `block` allows blocks, and `entries` allows a sequence whose dashes stand at the
column of the keys around it. -/
def readNode (block entries : Bool) : Nat → Context → List Token →
    Option (Node × Context × List Token)
  | 0, _, _ => none
  | fuel + 1, context, tokens =>
    match tokens with
    | .alias name :: rest => (context.alias? name).map (·, context, rest)
    | tokens => do
      let (properties, tokens) ← readProperties? context tokens
      let count := context.anchors.length
      let context := context.announce properties.anchor
      let (node, context, tokens) ←
        match tokens with
        | .scalar scalar :: rest => some (taggedScalar scalar properties.tag, context, rest)
        | .flowSequenceStart :: rest => do
          let (items, context, rest) ← readFlowItems true fuel context rest
          some (.sequence items, context, rest)
        | .flowMappingStart :: rest => do
          let (pairs, context, rest) ← readFlowPairs true fuel context rest
          some (.mapping pairs, context, rest)
        | .blockEntry :: rest =>
          if entries then do
            let (items, context, rest) ← readEntries false fuel context (.blockEntry :: rest)
            some (.sequence items, context, rest)
          else readNothing properties context tokens
        | .blockSequenceStart :: rest =>
          if block then do
            let (items, context, rest) ← readEntries true fuel context rest
            some (.sequence items, context, rest)
          else readNothing properties context tokens
        | .blockMappingStart :: rest =>
          if block then do
            let (pairs, context, rest) ← readPairs fuel context rest
            some (.mapping pairs, context, rest)
          else readNothing properties context tokens
        | tokens => readNothing properties context tokens
      return (node, context.complete properties.anchor count node, tokens)

/-- Where no node follows, there is an empty one if it has an anchor or a tag. -/
def readNothing (properties : Properties) (context : Context) (tokens : List Token) :
    Option (Node × Context × List Token) :=
  if properties.anchor.isSome || properties.tag.isSome then
    some (taggedScalar ⟨"", .plain, none⟩ properties.tag, context, tokens)
  else none

/-- Reads the entries of a block sequence. A `closed` one has a token of its own at its end. -/
def readEntries (closed : Bool) : Nat → Context → List Token →
    Option (List Node × Context × List Token)
  | 0, _, _ => none
  | fuel + 1, context, tokens =>
    match tokens with
    | .blockEntry :: rest => do
      let absent :=
        match rest with
        | .blockEntry :: _ | .blockEnd :: _ => true
        | .key :: _ | .value :: _ => !closed
        | _ => false
      let (item, context, rest) ←
        if absent then some (Node.empty, context, rest)
        else readNode true false fuel context rest
      let (items, context, rest) ← readEntries closed fuel context rest
      return (item :: items, context, rest)
    | .blockEnd :: rest => some ([], context, if closed then rest else .blockEnd :: rest)
    | tokens => if closed then none else some ([], context, tokens)

/-- Reads the key or the value of an entry of a block mapping. -/
def readPart : Nat → Context → List Token →
    Option (Node × Context × List Token)
  | 0, _, _ => none
  | fuel + 1, context, tokens =>
    match tokens with
    | .key :: _ | .value :: _ | .blockEnd :: _ => some (Node.empty, context, tokens)
    | tokens => readNode true true fuel context tokens

/-- Reads the entries of a block mapping. -/
def readPairs : Nat → Context → List Token →
    Option (List (Node × Node) × Context × List Token)
  | 0, _, _ => none
  | fuel + 1, context, tokens =>
    match tokens with
    | .key :: rest => do
      let (key, context, rest) ← readPart fuel context rest
      let (value, context, rest) ←
        match rest with
        | .value :: rest => readPart fuel context rest
        | rest => some (Node.empty, context, rest)
      let (pairs, context, rest) ← readPairs fuel context rest
      return ((key, value) :: pairs, context, rest)
    | .blockEnd :: rest => some ([], context, rest)
    | _ => none

/-- Reads the items of a sequence in brackets, which commas separate. -/
def readFlowItems (first : Bool) : Nat → Context → List Token →
    Option (List Node × Context × List Token)
  | 0, _, _ => none
  | fuel + 1, context, tokens =>
    match tokens with
    | .flowSequenceEnd :: rest => some ([], context, rest)
    | tokens => do
      let tokens ← if first then some tokens else
        match tokens with
        | .flowEntry :: rest => some rest
        | _ => none
      match tokens with
      | .flowSequenceEnd :: rest => some ([], context, rest)
      | .key :: _ => none
      | tokens =>
        let (item, context, rest) ← readNode false false fuel context tokens
        let (items, context, rest) ← readFlowItems false fuel context rest
        return (item :: items, context, rest)

/-- Reads the key or the value of an entry of a mapping in braces. -/
def readFlowPart (isKey : Bool) : Nat → Context → List Token →
    Option (Node × Context × List Token)
  | 0, _, _ => none
  | fuel + 1, context, tokens =>
    match tokens with
    | .flowEntry :: _ | .flowMappingEnd :: _ => some (Node.empty, context, tokens)
    | .value :: _ =>
      if isKey then some (Node.empty, context, tokens)
      else readNode false false fuel context tokens
    | tokens => readNode false false fuel context tokens

/-- Reads the entries of a mapping in braces. -/
def readFlowPairs (first : Bool) : Nat → Context → List Token →
    Option (List (Node × Node) × Context × List Token)
  | 0, _, _ => none
  | fuel + 1, context, tokens =>
    match tokens with
    | .flowMappingEnd :: rest => some ([], context, rest)
    | tokens => do
      let tokens ← if first then some tokens else
        match tokens with
        | .flowEntry :: rest => some rest
        | _ => none
      match tokens with
      | .flowMappingEnd :: rest => some ([], context, rest)
      | .key :: rest =>
        let (key, context, rest) ← readFlowPart true fuel context rest
        let (value, context, rest) ←
          match rest with
          | .value :: rest => readFlowPart false fuel context rest
          | rest => some (Node.empty, context, rest)
        let (pairs, context, rest) ← readFlowPairs false fuel context rest
        return ((key, value) :: pairs, context, rest)
      | tokens =>
        let (key, context, rest) ← readNode false false fuel context tokens
        let (pairs, context, rest) ← readFlowPairs false fuel context rest
        return ((key, Node.empty) :: pairs, context, rest)

end

/-- Reads the directives before a document: the handles they define and the tokens left. There may
be one version, which must be 1.1 or 1.2, and no handle may be defined twice. -/
def readDirectives? : List Token → (version : Bool) → List (String × Tag) →
    Option (List (String × Tag) × List Token)
  | .version major minor :: rest, version, handles =>
    if version || major ≠ 1 || (minor ≠ 1 && minor ≠ 2) then none
    else readDirectives? rest true handles
  | .tagDirective handle start :: rest, version, handles =>
    if (handles.lookup handle).isSome then none
    else readDirectives? rest version ((handle, start) :: handles)
  | rest, _, handles => some (handles, rest)

/-- Reads the content of a document after its start mark. -/
def readContent (fuel : Nat) (context : Context) (tokens : List Token) :
    Option (Node × Context × List Token) :=
  match tokens with
  | [] | .documentStart :: _ | .documentEnd :: _ | .version .. :: _ | .tagDirective .. :: _ =>
    some (Node.empty, context, tokens)
  | tokens => readNode true false fuel context tokens

/-- A tree and the anchors to which its aliases refer, the latest first. -/
structure Document where
  root : Node
  anchors : List Anchor := []

namespace Document

/-- The node that a node stands for. -/
def resolve (document : Document) (node : Node) : Node :=
  match node with
  | .reference number =>
    ((document.anchors.find? (·.number == number)).bind (·.node)).getD (.reference number)
  | node => node

/-- A node without aliases in the first levels below it. -/
def unfold (document : Document) : (levels : Nat) → Node → Node
  | 0, node => document.resolve node
  | levels + 1, node =>
    match document.resolve node with
    | .sequence items => .sequence (items.map (document.unfold levels))
    | .mapping entries =>
      .mapping
        (entries.map fun entry => (document.unfold levels entry.1, document.unfold levels entry.2))
    | node => node

end Document

/-- The document of a text. `none` in the result stands for a text without a document. A text with
more than one is refused. -/
def document? (text : String) : Option (Option Document) := do
  let tokens ← tokens? text
  if tokens.isEmpty then some none
  else
    let (handles, rest) ← readDirectives? tokens false []
    let fuel := 3 * tokens.length + 3
    let context : Context := { handles := handles }
    let (node, context, rest) ←
      match rest with
      | .documentStart :: rest => readContent fuel context rest
      | rest => if rest.length < tokens.length then none else readNode true false fuel context rest
    if rest.all (· == .documentEnd) then some (some ⟨node, context.anchors⟩) else none

end Driftwatch.Yaml
