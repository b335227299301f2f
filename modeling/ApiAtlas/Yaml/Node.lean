import ApiAtlas.Yaml.Token

/-! # YAML nodes

A document is a tree of nodes. An anchor names a node, and an alias stands for the node that its name was
given to last. Anchors are numbered as they come: a name gets the number of names known so far, so that a
name given anew may share its number with the next new one.
-/

namespace ApiAtlas

namespace Yaml

inductive Node where
  | scalar (tag : Option String) (scalar : Scalar)
  | sequence (items : List Node)
  | mapping (fields : List (Node × Node))
  | alias (number : Nat)
  | anchored (number : Nat) (node : Node)
deriving Repr, Inhabited

namespace Node

/-- The node of a place where nothing is written: an empty plain scalar. -/
def absent : Node := .scalar none ⟨"", .plain⟩

/-- The tokens that are left, with what the tokens before them say about names. -/
structure Source where
  rest : List Token
  /-- The meanings of handles of tags. -/
  handles : List (String × String) := []
  /-- The numbers of anchors, by name. -/
  names : List (String × Nat) := []
deriving Repr, Inhabited

namespace Source

/-- The source with other tokens left. -/
def at' (source : Source) (rest : List Token) : Source := { source with rest }

/-- The source after an anchor, with the number of the anchor. -/
def named (source : Source) (name : String) : Nat × Source :=
  let number := source.names.length
  (number, { source with names := (name, number) :: source.names.filter (·.1 != name) })

def isNext (source : Source) (tokens : List Token) : Bool := source.rest.head?.any tokens.contains

end Source

/-- What stands before a node: an anchor, and a tag in full. -/
structure Properties where
  anchor : Option Nat := none
  tag : Option String := none
deriving Repr, Inhabited

def anchor (source : Source) : Option Nat × Source :=
  match source.rest with
  | .anchor name :: rest =>
    let (number, source) := (source.at' rest).named name
    (some number, source)
  | _ => (none, source)

/-- Reads a tag, whose handle has to have a meaning. -/
def tag? (source : Source) : Option (Option String × Source) :=
  match source.rest with
  | .tag tag :: rest => (tag.resolve? source.handles).map fun tag => (some tag, source.at' rest)
  | _ => some (none, source)

/-- Reads an anchor and a tag, in either order. -/
def properties? (source : Source) : Option (Properties × Source) := do
  match source.rest with
  | .anchor _ :: _ =>
    let (number, source) := anchor source
    let (tag, source) ← tag? source
    return ({ anchor := number, tag }, source)
  | _ =>
    let (tag, source) ← tag? source
    let (number, source) := if tag.isSome then anchor source else (none, source)
    return ({ anchor := number, tag }, source)

def under (properties : Properties) (node : Node) : Node :=
  match properties.anchor with
  | some number => .anchored number node
  | none => node

mutual
/-- Reads a node. Outside flow collections it may be a block collection, and beside keys it may be a
sequence at the column of the keys. -/
def read : (fuel : Nat) → (inBlock besideKeys : Bool) → Source → Option (Node × Source)
  | 0, _, _, _ => none
  | fuel + 1, inBlock, besideKeys, source =>
    match source.rest with
    | .alias name :: rest => (source.names.lookup name).map fun number => (.alias number, source.at' rest)
    | _ => do
      let (properties, source) ← properties? source
      let (node, source) ← content fuel inBlock besideKeys properties source
      return (node.under properties, source)

/-- Reads a node after its anchor and tag. -/
def content : (fuel : Nat) → (inBlock besideKeys : Bool) → Properties → Source →
    Option (Node × Source)
  | 0, _, _, _, _ => none
  | fuel + 1, inBlock, besideKeys, properties, source =>
    match source.rest with
    | .scalar written :: rest => some (.scalar properties.tag written, source.at' rest)
    | .flowSequence :: rest => flowItems fuel true [] (source.at' rest)
    | .flowMapping :: rest => flowFields fuel true [] (source.at' rest)
    | .entry :: _ =>
      if besideKeys then itemsBesideKeys fuel [] source else nothing properties source
    | .blockSequence :: rest =>
      if inBlock then blockItems fuel [] (source.at' rest) else nothing properties source
    | .blockMapping :: rest =>
      if inBlock then blockFields fuel [] (source.at' rest) else nothing properties source
    | _ => nothing properties source

/-- The node of a place where at most an anchor and a tag are written. -/
def nothing (properties : Properties) (source : Source) : Option (Node × Source) :=
  if properties.anchor.isSome || properties.tag.isSome then
    some (.scalar properties.tag ⟨"", .plain⟩, source)
  else none

/-- Reads a node, or nothing before one of some tokens. -/
def readUnless : (fuel : Nat) → (inBlock besideKeys : Bool) → List Token → Source →
    Option (Node × Source)
  | 0, _, _, _, _ => none
  | fuel + 1, inBlock, besideKeys, tokens, source =>
    if source.isNext tokens then some (absent, source) else read fuel inBlock besideKeys source

/-- Reads the entries of a block sequence up to its end. -/
def blockItems : (fuel : Nat) → (done : List Node) → Source → Option (Node × Source)
  | 0, _, _ => none
  | fuel + 1, done, source =>
    match source.rest with
    | .entry :: rest => do
      let (item, source) ← readUnless fuel true false [.entry, .blockEnd] (source.at' rest)
      blockItems fuel (item :: done) source
    | .blockEnd :: rest => some (.sequence done.reverse, source.at' rest)
    | _ => none

/-- Reads the entries of a sequence at the column of the keys around it, which ends before the next
key. -/
def itemsBesideKeys : (fuel : Nat) → (done : List Node) → Source → Option (Node × Source)
  | 0, _, _ => none
  | fuel + 1, done, source =>
    match source.rest with
    | .entry :: rest => do
      let (item, source) ←
        readUnless fuel true false [.entry, .key, .value, .blockEnd] (source.at' rest)
      itemsBesideKeys fuel (item :: done) source
    | _ => some (.sequence done.reverse, source)

/-- Reads the value after a key, or nothing if there is no colon. -/
def valueUnless : (fuel : Nat) → (inBlock : Bool) → List Token → Source → Option (Node × Source)
  | 0, _, _, _ => none
  | fuel + 1, inBlock, tokens, source =>
    match source.rest with
    | .value :: rest => readUnless fuel inBlock inBlock tokens (source.at' rest)
    | _ => some (absent, source)

def blockFields : (fuel : Nat) → (done : List (Node × Node)) → Source → Option (Node × Source)
  | 0, _, _ => none
  | fuel + 1, done, source =>
    match source.rest with
    | .key :: rest => do
      let (key, source) ← readUnless fuel true true [.key, .value, .blockEnd] (source.at' rest)
      let (value, source) ← valueUnless fuel true [.key, .value, .blockEnd] source
      blockFields fuel ((key, value) :: done) source
    | .blockEnd :: rest => some (.mapping done.reverse, source.at' rest)
    | _ => none

/-- Reads the items of a flow sequence up to its end. An item that is a key with a value is a mapping of its
own. -/
def flowItems : (fuel : Nat) → (isFirst : Bool) → (done : List Node) → Source →
    Option (Node × Source)
  | 0, _, _, _ => none
  | fuel + 1, isFirst, done, source =>
    match isFirst, source.rest with
    | _, .flowSequenceEnd :: rest => some (.sequence done.reverse, source.at' rest)
    | true, rest => flowItem fuel done (source.at' rest)
    | false, .comma :: rest => flowItem fuel done (source.at' rest)
    | false, _ => none

/-- Reads an item of a flow sequence and goes on, or ends the sequence. -/
def flowItem : (fuel : Nat) → (done : List Node) → Source → Option (Node × Source)
  | 0, _, _ => none
  | fuel + 1, done, source =>
    match source.rest with
    | .flowSequenceEnd :: rest => some (.sequence done.reverse, source.at' rest)
    | .key :: rest => do
      let source := source.at' rest
      let (key, source) ←
        if source.isNext [.value, .comma, .flowSequenceEnd] then
          some (absent, source.at' (source.rest.drop 1))
        else read fuel false false source
      let (value, source) ← valueUnless fuel false [.comma, .flowSequenceEnd] source
      flowItems fuel false (.mapping [(key, value)] :: done) source
    | _ => do
      let (item, source) ← read fuel false false source
      flowItems fuel false (item :: done) source

def flowFields : (fuel : Nat) → (isFirst : Bool) → (done : List (Node × Node)) → Source →
    Option (Node × Source)
  | 0, _, _, _ => none
  | fuel + 1, isFirst, done, source =>
    match isFirst, source.rest with
    | _, .flowMappingEnd :: rest => some (.mapping done.reverse, source.at' rest)
    | true, rest => flowField fuel done (source.at' rest)
    | false, .comma :: rest => flowField fuel done (source.at' rest)
    | false, _ => none

/-- Reads a field of a flow mapping and goes on, or ends the mapping. -/
def flowField : (fuel : Nat) → (done : List (Node × Node)) → Source → Option (Node × Source)
  | 0, _, _ => none
  | fuel + 1, done, source =>
    match source.rest with
    | .flowMappingEnd :: rest => some (.mapping done.reverse, source.at' rest)
    | .key :: rest => do
      let (key, source) ←
        readUnless fuel false false [.value, .comma, .flowMappingEnd] (source.at' rest)
      let (value, source) ← valueUnless fuel false [.comma, .flowMappingEnd] source
      flowFields fuel false ((key, value) :: done) source
    | _ => do
      let (key, source) ← read fuel false false source
      flowFields fuel false ((key, absent) :: done) source
end

/-! ## Documents -/

def isReadable (major minor : Nat) : Bool := major = 1 && (minor = 1 || minor = 2)

/-- Reads directives: at most one version, and at most one meaning for each handle. -/
def directives? (hasVersion : Bool) (handles : List (String × String)) :
    List Token → Option (List (String × String) × List Token)
  | .version major minor :: rest =>
    if hasVersion || !isReadable major minor then none else directives? true handles rest
  | .handle handle meaning :: rest =>
    if (handles.lookup handle).isSome then none
    else directives? hasVersion ((handle, meaning) :: handles) rest
  | rest => some (handles, rest)

/-- Whether a token is part of a document, rather than the start or the end of one. -/
def isContent : Token → Bool
  | .version .. => false
  | .handle .. => false
  | .documentStart => false
  | .documentEnd => false
  | _ => true

/-- Reads the node of a document. Where the document starts with a mark, there may be none. -/
def document? (tokens : List Token) : Option (Node × List Token) := do
  let fuel := 4 * tokens.length + 4
  let start := tokens.head?.any fun token => !isContent token && token != .documentEnd
  if !start then
    let (node, source) ← read fuel true false { rest := tokens }
    return (node, source.rest)
  else
    let (handles, rest) ← directives? false [] tokens
    match rest with
    | .documentStart :: rest =>
      if rest.head?.any isContent then
        let (node, source) ← read fuel true false { rest, handles }
        return (node, source.rest)
      else return (absent, rest)
    | _ => none

/-- The node of tokens that are one document, after which only ends of documents come. A text without
tokens is a document without content. -/
def ofTokens? (tokens : List Token) : Option Node :=
  if tokens.isEmpty then some absent
  else do
    let (node, rest) ← document? tokens
    if rest.all (· == .documentEnd) then return node else none

/-! ## Anchors -/

mutual
/-- The anchored nodes in a node, by their numbers, in the order in which they start. -/
def anchors : Node → List (Nat × Node)
  | .scalar .. => []
  | .alias _ => []
  | .sequence items => anchorsOfItems items
  | .mapping fields => anchorsOfFields fields
  | .anchored number node => (number, node) :: anchors node

def anchorsOfItems : List Node → List (Nat × Node)
  | [] => []
  | item :: rest => anchors item ++ anchorsOfItems rest

def anchorsOfFields : List (Node × Node) → List (Nat × Node)
  | [] => []
  | (key, value) :: rest => anchors key ++ (anchors value ++ anchorsOfFields rest)
end

end Node

end Yaml

/-- A value of a document: a node, and the nodes that aliases stand for, of equal numbers the last. -/
structure Yaml where
  node : Yaml.Node
  anchors : List (Nat × Yaml.Node) := []
deriving Repr, Inhabited

namespace Yaml

/-- The node itself, which is no alias and has no anchor. -/
def content (value : Yaml) : Node :=
  match value.node with
  | .anchored _ node => node
  | .alias number => (value.anchors.reverse.lookup number).getD .absent
  | node => node

def beside (value : Yaml) (node : Node) : Yaml := { value with node }

def parse? (text : String) : Option Yaml := do
  let node ← Node.ofTokens? (← tokens? text)
  return { node, anchors := node.anchors }

end Yaml

end ApiAtlas
