import ResponsiveStyles.Yaml.Token

/-!
# Nodes of YAML documents

A document is a tree of scalars, sequences, mappings and aliases. Nodes with anchors stand at numbered
places, and an alias stands for the last node at the place of its anchor's name, wherever in the
document that node is. The place of an anchor is the number of names known before it. A name that is
known already thereby moves behind all known names, to the place that the next new name takes as well.
-/
namespace ResponsiveStyles.Yaml

inductive Node where
  | scalar (tag : Option Text) (style : ScalarStyle) (content : Text)
  | sequence (items : List Node)
  | mapping (members : List (Node × Node))
  /-- The last node at a place. -/
  | alias (place : Nat)

instance : Inhabited Node := ⟨.sequence []⟩

structure Anchored where
  name : Text
  place : Nat
  /-- The node, once it is complete. -/
  node : Option Node := none

structure Document where
  root : Node
  /-- The nodes with anchors, the one that begins last first. -/
  anchored : List Anchored := []

namespace Document

def resolve (d : Document) : Node → Node
  | .alias place => ((d.anchored.find? fun a => a.place = place).bind Anchored.node).getD default
  | n => n

end Document

namespace Node

/-- What is left of the tokens, with the nodes with anchors and the tag handles met so far. -/
structure Remainder where
  tokens : List Token
  anchored : List Anchored := []
  handles : List (Text × Text) := [("!".toList, "!".toList), ("!!".toList, "tag:yaml.org,2002:".toList)]

abbrev Reader := StateT Remainder Option

def peek : Reader (Option Token) :=
  return (← get).tokens.head?

def drop : Reader Unit :=
  modify fun s => { s with tokens := s.tokens.drop 1 }

def dropIf (t : Token) : Reader Bool := do
  if (← peek) = some t then
    drop
    return true
  else return false

def empty (tag : Option Text) : Node :=
  .scalar tag .plain []

def nextPlace (anchored : List Anchored) : Nat :=
  (anchored.map Anchored.name).eraseDups.length

def aliasOf (name : Text) : Reader Node := do
  match (← get).anchored.find? fun a => a.name = name with
  | some a => return .alias a.place
  | none => failure

def properties : Reader (Option Text × Option (Text × Text)) := do
  match ← peek with
  | some (.anchor name) =>
    drop
    match ← peek with
    | some (.tag handle suffix) =>
      drop
      return (some name, some (handle, suffix))
    | _ => return (some name, none)
  | some (.tag handle suffix) =>
    drop
    match ← peek with
    | some (.anchor name) =>
      drop
      return (some name, some (handle, suffix))
    | _ => return (none, some (handle, suffix))
  | _ => return (none, none)

def resolveTag (tag : Option (Text × Text)) : Reader (Option Text) := do
  match tag with
  | none => return none
  | some ([], suffix) => return some suffix
  | some (handle, suffix) =>
    match (← get).handles.find? fun h => h.1 = handle with
    | some (_, expansion) => return some (expansion ++ suffix)
    | none => failure

def withAnchor (anchor : Option Text) (read : Reader Node) : Reader Node := do
  match anchor with
  | none => read
  | some name =>
    let before := (← get).anchored
    let a : Anchored := { name, place := nextPlace before }
    modify fun s => { s with anchored := a :: s.anchored }
    let node ← read
    modify fun s =>
      let inner := s.anchored.take (s.anchored.length - before.length - 1)
      { s with anchored := inner ++ { a with node } :: before }
    return node

mutual

/-- Reads a node. A block node may be a block collection, and where `indentless` holds also a
sequence that is not indented. -/
def node (block indentless : Bool) : Nat → Reader Node
  | 0 => failure
  | fuel + 1 => do
    match ← peek with
    | some (.alias name) =>
      drop
      aliasOf name
    | _ =>
      let (anchor, tag) ← properties
      let marked := anchor.isSome || tag.isSome
      let tag ← resolveTag tag
      withAnchor anchor (content block indentless marked tag fuel)

def content (block indentless marked : Bool) (tag : Option Text) : Nat → Reader Node
  | 0 => failure
  | fuel + 1 => do
    match ← peek with
    | some (.scalar style text) =>
      drop
      return .scalar tag style text
    | some .flowSequenceStart =>
      drop
      return .sequence (← flowItems true fuel)
    | some .flowMappingStart =>
      drop
      return .mapping (← flowMembers true fuel)
    | some .blockSequenceStart =>
      if block then
        drop
        return .sequence (← blockItems fuel)
      else if marked then return empty tag
      else failure
    | some .blockMappingStart =>
      if block then
        drop
        return .mapping (← blockMembers fuel)
      else if marked then return empty tag
      else failure
    | some .blockEntry =>
      if indentless then return .sequence (← indentlessItems fuel)
      else if marked then return empty tag
      else failure
    | _ => if marked then return empty tag else failure

def blockItems : Nat → Reader (List Node)
  | 0 => failure
  | fuel + 1 => do
    if ← dropIf .blockEntry then
      let item ← match ← peek with
        | some .blockEntry => pure (empty none)
        | some .blockEnd => pure (empty none)
        | _ => node true false fuel
      return item :: (← blockItems fuel)
    else if ← dropIf .blockEnd then return []
    else failure

def indentlessItems : Nat → Reader (List Node)
  | 0 => failure
  | fuel + 1 => do
    if ← dropIf .blockEntry then
      let item ← match ← peek with
        | some .blockEntry => pure (empty none)
        | some .key => pure (empty none)
        | some .value => pure (empty none)
        | some .blockEnd => pure (empty none)
        | _ => node true false fuel
      return item :: (← indentlessItems fuel)
    else return []

/-- Reads what may be missing behind a key mark or a colon of a block mapping. -/
def blockPart : Nat → Reader Node
  | 0 => failure
  | fuel + 1 => do
    match ← peek with
    | some .key => return empty none
    | some .value => return empty none
    | some .blockEnd => return empty none
    | _ => node true true fuel

def blockMembers : Nat → Reader (List (Node × Node))
  | 0 => failure
  | fuel + 1 => do
    if ← dropIf .key then
      let k ← blockPart fuel
      let v ← if ← dropIf .value then blockPart fuel else pure (empty none)
      return (k, v) :: (← blockMembers fuel)
    else if ← dropIf .blockEnd then return []
    else failure

/-- Reads the items of a flow sequence and its end. An item with a colon is a mapping of one member. -/
def flowItems (first : Bool) : Nat → Reader (List Node)
  | 0 => failure
  | fuel + 1 => do
    if ← dropIf .flowSequenceEnd then return []
    else
      if !first then
        if !(← dropIf .flowEntry) then failure
      if ← dropIf .key then
        let k ← match ← peek with
          | some .value =>
            drop
            pure (empty none)
          | some .flowEntry =>
            drop
            pure (empty none)
          | some .flowSequenceEnd =>
            drop
            pure (empty none)
          | _ => node false false fuel
        let v ← if ← dropIf .value then
            match ← peek with
            | some .flowEntry => pure (empty none)
            | some .flowSequenceEnd => pure (empty none)
            | _ => node false false fuel
          else pure (empty none)
        return .mapping [(k, v)] :: (← flowItems false fuel)
      else if ← dropIf .flowSequenceEnd then return []
      else
        let item ← node false false fuel
        return item :: (← flowItems false fuel)

def flowPart (missing : List Token) : Nat → Reader Node
  | 0 => failure
  | fuel + 1 => do
    match ← peek with
    | some t => if t ∈ missing then return empty none else node false false fuel
    | none => failure

def flowMembers (first : Bool) : Nat → Reader (List (Node × Node))
  | 0 => failure
  | fuel + 1 => do
    if ← dropIf .flowMappingEnd then return []
    else
      if !first then
        if !(← dropIf .flowEntry) then failure
      if ← dropIf .key then
        let k ← flowPart [.value, .flowEntry, .flowMappingEnd] fuel
        let v ← if ← dropIf .value then flowPart [.flowEntry, .flowMappingEnd] fuel
          else pure (empty none)
        return (k, v) :: (← flowMembers false fuel)
      else if ← dropIf .flowMappingEnd then return []
      else
        let k ← node false false fuel
        return (k, empty none) :: (← flowMembers false fuel)

end

/-! ## Documents -/

def directives (versioned : Bool) (declared : List Text) : Nat → Reader Unit
  | 0 => failure
  | fuel + 1 => do
    match ← peek with
    | some (.versionDirective major minor) =>
      if versioned || major ≠ 1 || (minor ≠ 1 && minor ≠ 2) then failure
      else
        drop
        directives true declared fuel
    | some (.tagDirective handle expansion) =>
      if handle ∈ declared then failure
      else
        drop
        modify fun s => { s with handles := (handle, expansion) :: s.handles }
        directives versioned (handle :: declared) fuel
    | _ => return

def isBare : Option Token → Bool
  | some (.versionDirective _ _) => true
  | some (.tagDirective _ _) => true
  | some .documentStart => true
  | some .documentEnd => true
  | none => true
  | _ => false

def document (fuel : Nat) : Reader (Option Document) := do
  match ← peek with
  | none => return none
  | first =>
    let root ←
      if isBare first && first ≠ some .documentEnd then do
        directives false [] fuel
        if ← dropIf .documentStart then
          if isBare (← peek) then pure (empty none) else node true false fuel
        else failure
      else node true false fuel
    let s ← get
    if s.tokens.all (· = .documentEnd) then return some { root, anchored := s.anchored }
    else failure

end Node

namespace Document

/-- The document that tokens make up: none when they make up no single document, and no document when
there is nothing at all. -/
def ofTokens? (ts : List Token) : Option (Option Document) :=
  ((Node.document (4 * ts.length + 8)).run { tokens := ts }).map (·.1)

def ofText? (t : Text) : Option (Option Document) :=
  (Token.ofText? t).bind ofTokens?

end Document

end ResponsiveStyles.Yaml
