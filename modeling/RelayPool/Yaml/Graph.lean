import RelayPool.Yaml.Tag
import RelayPool.Yaml.TokenStream

/-!
# Node graphs

The nodes of a document and how they are joined.  An alias joins a node that
has been named before, possibly one that is not complete yet, so a node may
hold itself.
-/

namespace RelayPool.Yaml

/-- What a node holds; other nodes are given by their numbers. -/
inductive Content
  | scalar (text : String)
  | sequence (items : List Nat)
  | mapping (entries : List (Nat × Nat))
  deriving DecidableEq, Repr, Inhabited

/-- A node with its type. -/
structure GraphNode where
  tag : Tag
  content : Content
  deriving DecidableEq, Repr, Inhabited

/-- The nodes of a document by their numbers, and the node that holds all. -/
structure Graph where
  nodes : Array GraphNode
  root : Nat
  deriving Repr

/-- The state of reading nodes: the tokens to come and the fault behind them,
the nodes so far, the names given to nodes, and what tag handles stand for. -/
structure Builder where
  tokens : List Token
  fault : Fault
  nodes : Array GraphNode
  anchors : List (String × Nat)
  handles : List (String × String)
  deriving Repr

/-- The name and the tag in front of a node. -/
structure Properties where
  anchor : Option String
  tag : Option String
  deriving DecidableEq, Repr

namespace Builder

/-- The next token. -/
def peek (builder : Builder) : Except Fault Token :=
  match builder.tokens with
  | token :: _ => .ok token
  | [] => .error builder.fault

/-- The state after the next token. -/
def skip (builder : Builder) : Builder :=
  { builder with tokens := builder.tokens.drop 1 }

/-- The next token is one of some tokens. -/
def at? (builder : Builder) (tokens : List Token) : Except Fault Bool := do
  return tokens.contains (← builder.peek)

/-- The state after a token that must come. -/
def expect (builder : Builder) (token : Token) : Except Fault Builder := do
  if (← builder.peek) = token then return builder.skip
  throw .malformed

/-- The state with a new node, and its number. -/
def add (builder : Builder) (tag : Tag) (content : Content) : Nat × Builder :=
  (builder.nodes.size, { builder with nodes := builder.nodes.push ⟨tag, content⟩ })

/-- The state with a name for a node. -/
def name (builder : Builder) (anchor : Option String) (node : Nat) : Builder :=
  match anchor with
  | some anchor => { builder with anchors := (anchor, node) :: builder.anchors }
  | none => builder

/-- The state with the content of a node that is complete. -/
def complete (builder : Builder) (node : Nat) (content : Content) : Builder :=
  { builder with nodes := builder.nodes.modify node fun kept => { kept with content } }

/-- An empty plain scalar. -/
def addEmpty (builder : Builder) : Nat × Builder :=
  builder.add (.ofPlain "") (.scalar "")

/-- The full name of a tag. -/
def tagName (builder : Builder) (handle : Option String) (suffix : String) :
    Except Fault String :=
  match handle with
  | none => .ok suffix
  | some handle =>
      match builder.handles.lookup handle with
      | some expansion => .ok (expansion ++ suffix)
      | none => .error .malformed

/-- An anchor, if one comes. -/
def readAnchor (builder : Builder) : Except Fault (Option String × Builder) := do
  match ← builder.peek with
  | .anchor anchor => return (some anchor, builder.skip)
  | _ => return (none, builder)

/-- A tag, if one comes. -/
def readTagMark (builder : Builder) :
    Except Fault (Option (Option String × String) × Builder) := do
  match ← builder.peek with
  | .tag handle suffix => return (some (handle, suffix), builder.skip)
  | _ => return (none, builder)

/-- The anchor and the tag in front of a node, in either order. -/
def readProperties (builder : Builder) : Except Fault (Properties × Builder) := do
  let (first, builder) ← builder.readAnchor
  let (mark, builder) ← builder.readTagMark
  let (second, builder) ←
    if first.isNone && mark.isSome then builder.readAnchor else pure (none, builder)
  let tag ←
    match mark with
    | none => pure none
    | some (handle, suffix) => some <$> builder.tagName handle suffix
  return ({ anchor := first.or second, tag }, builder)

/-- The tag leaves the type of a node to its form: it is absent or a single
exclamation mark. -/
def Properties.isOpen (properties : Properties) : Bool :=
  properties.tag.isNone || properties.tag == some "!"

/-- The type of a collection. -/
def collectionTag (properties : Properties) (default : Tag) : Tag :=
  if Properties.isOpen properties then default
  else .ofName (properties.tag.getD "")

/-- The type of a scalar.  A scalar in quotes is a text unless it is marked to
be taken by its form. -/
def scalarTag (properties : Properties) (plain : Bool) (text : String) : Tag :=
  match properties.tag with
  | none => if plain then .ofPlain text else .text
  | some tag => if tag = "!" then .ofPlain text else .ofName tag

/-- A scalar as a node. -/
def addScalar (builder : Builder) (properties : Properties) (plain : Bool)
    (text : String) : Nat × Builder :=
  let (node, builder) := builder.add (scalarTag properties plain text) (.scalar text)
  (node, builder.name properties.anchor node)

/-- The start of a collection as a node. -/
def addCollection (builder : Builder) (properties : Properties) (default : Tag)
    (content : Content) : Nat × Builder :=
  let (node, builder) := builder.add (collectionTag properties default) content
  (node, builder.name properties.anchor node)

mutual

/-- A node.  Collections in a block are read only where `block` says so, and a
sequence that is not indented only where `indentless` does. -/
def readNode : Nat → Bool → Bool → Builder → Except Fault (Nat × Builder)
  | 0, _, _, _ => .error .malformed
  | fuel + 1, block, indentless, builder => do
      match ← builder.peek with
      | .alias anchor =>
          match builder.anchors.lookup anchor with
          | some node => return (node, builder.skip)
          | none => throw .malformed
      | _ => do
          let (properties, builder) ← builder.readProperties
          let token ← builder.peek
          if let some anchor := properties.anchor then
            if (builder.anchors.lookup anchor).isSome then throw .malformed
          match token with
          | .scalar text plain =>
              return builder.skip.addScalar properties plain text
          | .flowSequenceStart => do
              let (node, builder) :=
                builder.skip.addCollection properties .sequence (.sequence [])
              let (items, builder) ← readFlowItems fuel true [] builder
              return (node, builder.complete node (.sequence items))
          | .flowMappingStart => do
              let (node, builder) :=
                builder.skip.addCollection properties .mapping (.mapping [])
              let (entries, builder) ← readFlowEntries fuel true [] builder
              return (node, builder.complete node (.mapping entries))
          | _ => do
              if indentless && token = .blockEntry then
                let (node, builder) :=
                  builder.addCollection properties .sequence (.sequence [])
                let (items, builder) ← readIndentlessItems fuel [] builder
                return (node, builder.complete node (.sequence items))
              else if block && token = .blockSequenceStart then
                let (node, builder) :=
                  builder.skip.addCollection properties .sequence (.sequence [])
                let (items, builder) ← readBlockItems fuel [] builder
                return (node, builder.complete node (.sequence items))
              else if block && token = .blockMappingStart then
                let (node, builder) :=
                  builder.skip.addCollection properties .mapping (.mapping [])
                let (entries, builder) ← readBlockEntries fuel [] builder
                return (node, builder.complete node (.mapping entries))
              else if properties.anchor.isSome || properties.tag.isSome then
                return builder.addScalar properties
                  (Properties.isOpen properties) ""
              else throw .malformed

/-- A node, or an empty scalar before one of the tokens that end its place. -/
def readNodeBefore : Nat → List Token → Bool → Bool → Builder →
    Except Fault (Nat × Builder)
  | 0, _, _, _, _ => .error .malformed
  | fuel + 1, ends, block, indentless, builder => do
      if ← builder.at? ends then return builder.addEmpty
      readNode fuel block indentless builder

/-- The value behind a key, or an empty scalar where the sign of a value is
missing. -/
def readValueBefore : Nat → List Token → Bool → Builder →
    Except Fault (Nat × Builder)
  | 0, _, _, _ => .error .malformed
  | fuel + 1, ends, block, builder => do
      if ← builder.at? [.value] then
        readNodeBefore fuel ends block block builder.skip
      else return builder.addEmpty

/-- The items of a block sequence up to its end, behind those in `items` in
reverse order. -/
def readBlockItems : Nat → List Nat → Builder → Except Fault (List Nat × Builder)
  | 0, _, _ => .error .malformed
  | fuel + 1, items, builder => do
      if ← builder.at? [.blockEntry] then
        let (item, builder) ←
          readNodeBefore fuel [.blockEntry, .blockEnd] true false builder.skip
        readBlockItems fuel (item :: items) builder
      else return (items.reverse, ← builder.expect .blockEnd)

/-- The items of a sequence that is not indented deeper than its mapping. -/
def readIndentlessItems : Nat → List Nat → Builder →
    Except Fault (List Nat × Builder)
  | 0, _, _ => .error .malformed
  | fuel + 1, items, builder => do
      if ← builder.at? [.blockEntry] then
        let (item, builder) ←
          readNodeBefore fuel [.blockEntry, .key, .value, .blockEnd] true false
            builder.skip
        readIndentlessItems fuel (item :: items) builder
      else return (items.reverse, builder)

/-- The entries of a block mapping up to its end, behind those in `entries` in
reverse order. -/
def readBlockEntries : Nat → List (Nat × Nat) → Builder →
    Except Fault (List (Nat × Nat) × Builder)
  | 0, _, _ => .error .malformed
  | fuel + 1, entries, builder => do
      if ← builder.at? [.key] then
        let ends := [.key, .value, .blockEnd]
        let (key, builder) ← readNodeBefore fuel ends true true builder.skip
        let (value, builder) ← readValueBefore fuel ends true builder
        readBlockEntries fuel ((key, value) :: entries) builder
      else return (entries.reverse, ← builder.expect .blockEnd)

/-- The items of a sequence in brackets up to its end.  An item with a key is
a mapping of one entry. -/
def readFlowItems : Nat → Bool → List Nat → Builder →
    Except Fault (List Nat × Builder)
  | 0, _, _, _ => .error .malformed
  | fuel + 1, first, items, builder => do
      if ← builder.at? [.flowSequenceEnd] then
        return (items.reverse, builder.skip)
      let builder ← if first then pure builder else builder.expect .flowEntry
      if ← builder.at? [.key] then
        let (node, builder) := builder.skip.add .mapping (.mapping [])
        let (key, builder) ←
          readNodeBefore fuel [.value, .flowEntry, .flowSequenceEnd] false false builder
        let (value, builder) ←
          readValueBefore fuel [.flowEntry, .flowSequenceEnd] false builder
        let builder := builder.complete node (.mapping [(key, value)])
        readFlowItems fuel false (node :: items) builder
      else if ← builder.at? [.flowSequenceEnd] then
        return (items.reverse, builder.skip)
      else do
        let (item, builder) ← readNode fuel false false builder
        readFlowItems fuel false (item :: items) builder

/-- The entries of a mapping in braces up to its end.  A node without a key
sign is a key with an empty value. -/
def readFlowEntries : Nat → Bool → List (Nat × Nat) → Builder →
    Except Fault (List (Nat × Nat) × Builder)
  | 0, _, _, _ => .error .malformed
  | fuel + 1, first, entries, builder => do
      if ← builder.at? [.flowMappingEnd] then
        return (entries.reverse, builder.skip)
      let builder ← if first then pure builder else builder.expect .flowEntry
      if ← builder.at? [.key] then
        let (key, builder) ←
          readNodeBefore fuel [.value, .flowEntry, .flowMappingEnd] false false
            builder.skip
        let (value, builder) ←
          readValueBefore fuel [.flowEntry, .flowMappingEnd] false builder
        readFlowEntries fuel false ((key, value) :: entries) builder
      else if ← builder.at? [.flowMappingEnd] then
        return (entries.reverse, builder.skip)
      else do
        let (key, builder) ← readNode fuel false false builder
        let (value, builder) := builder.addEmpty
        readFlowEntries fuel false ((key, value) :: entries) builder

end

/-- What tag handles stand for when no directive says otherwise. -/
def defaultHandles : List (String × String) :=
  [("!", "!"), ("!!", Tag.coreHandle)]

/-- The state after the directives of a document.  A version and a handle may
be given once, and the version must be 1. -/
def readDirectives (versioned : Bool) (handles : List (String × String))
    (builder : Builder) : List Token → Except Fault Builder
  | .directive directive :: rest =>
      match directive with
      | .version major =>
          if versioned || major != 1 then .error .malformed
          else readDirectives true handles builder rest
      | .tagHandle handle expansion =>
          if (handles.lookup handle).isSome then .error .malformed
          else readDirectives versioned ((handle, expansion) :: handles) builder rest
      | .other => readDirectives versioned handles builder rest
  | tokens => .ok { builder with tokens, handles := handles ++ defaultHandles }

/-- Only marks may stand behind the document.  Directives there are read up to
the token behind them before they are refused. -/
def expectEnd (builder : Builder) : List Token → Except Fault Unit
  | .documentEnd :: rest => expectEnd builder rest
  | .streamEnd :: _ => .ok ()
  | tokens => do
      let builder ← readDirectives false [] builder tokens
      discard builder.peek
      throw .malformed

/-- The node of the document, if the text holds one. -/
def readDocument (fuel : Nat) (builder : Builder) : Except Fault (Option Graph) := do
  let (root, builder) ←
    match ← builder.peek with
    | .streamEnd => return none
    | .directive _ | .documentStart => do
        let builder ← readDirectives false [] builder builder.tokens
        let builder ← builder.expect .documentStart
        match ← builder.peek with
        | .directive _ | .documentStart | .documentEnd | .streamEnd =>
            pure builder.addEmpty
        | _ => readNode fuel true false builder
    | _ => readNode fuel true false builder
  expectEnd builder builder.tokens
  return some ⟨builder.nodes, root⟩

end Builder

/-- The node graph of the document in a source, if it holds one. -/
def Graph.ofSource? (source : Source) : Except Fault (Option Graph) :=
  let stream := TokenStream.ofSource source
  match stream.fault with
  | some .malformed => .error .malformed
  | fault =>
      let builder : Builder :=
        { tokens := stream.tokens
          fault := fault.getD .malformed
          nodes := #[]
          anchors := []
          handles := Builder.defaultHandles }
      builder.readDocument (4 * stream.tokens.length + 4)

end RelayPool.Yaml
