/-
# Nodes of a document

A document is a tree of scalars, sequences and mappings, each of a kind. Anchors
name nodes, and an alias stands for the node named before it. Inside of the node that
it names an alias stands for a node around, so that the tree is endless.

## Main definitions

* `Node` - the trees.
* `Node.isEndless` - whether a node is found inside of itself.
* `NodeReader` - reading with the tokens ahead and the anchors so far.
* `readNode` - a node of either style.
* `readDocument` - the node of the only document of a text, if there is one.
-/

import EntryPoint.Document.Yaml.Tag
import EntryPoint.Document.Yaml.Token.Lexer

namespace EntryPoint.Document.Yaml

/-- A scalar, a sequence or a mapping, with its kind, or a node around that an alias stands for. -/
inductive Node
  | scalar (tag : Tag) (text : String)
  | sequence (tag : Tag) (elements : List Node)
  | mapping (tag : Tag) (pairs : List (Node × Node))
  | enclosing
  deriving Inhabited

/-- The kind of a node. One around another is a collection. -/
def Node.tag : Node → Tag
  | .scalar tag _ | .sequence tag _ | .mapping tag _ => tag
  | .enclosing => .mapping

mutual

/-- Whether an alias inside of a node stands for a node around it. -/
def Node.isEndless : Node → Bool
  | .scalar _ _ => false
  | .sequence _ elements => isEndlessAny elements
  | .mapping _ pairs => isEndlessAnyPair pairs
  | .enclosing => true

def isEndlessAny : List Node → Bool
  | [] => false
  | element :: rest => element.isEndless || isEndlessAny rest

def isEndlessAnyPair : List (Node × Node) → Bool
  | [] => false
  | (key, value) :: rest => key.isEndless || value.isEndless || isEndlessAnyPair rest

end

/-- What stands where a node is missing. -/
def Node.missing : Node := .scalar .null ""

/-- What the handles of tags stand for. -/
abbrev Handles := List (String × String)

/-- The handles that are known without a directive. -/
def defaultHandles : Handles :=
  [("!", "!"), ("!!", tagStem)]

/-- The tokens ahead and the anchors so far. Until it ends, the node of an anchor is around all that
is read. -/
structure Reading where
  tokens : List Token
  anchors : List (String × Node) := []

/-- Reading from tokens. -/
abbrev NodeReader := StateT Reading (Except Flaw)

namespace NodeReader

/-- The next token. -/
def peek : NodeReader Token := do
  match (← get).tokens with
  | [] => throw .malformed
  | .flaw flaw :: _ => throw flaw
  | token :: _ => return token

/-- Passes over the next token. -/
def advance : NodeReader Unit :=
  modify fun reading => { reading with tokens := reading.tokens.drop 1 }

/-- Whether the next token is the given one. -/
def isNext (token : Token) : NodeReader Bool :=
  return (← peek) = token

/-- Passes over the next token if it is the given one. -/
def accept (token : Token) : NodeReader Bool := do
  let found ← isNext token
  if found then advance
  return found

/-- Passes over the next token, which must be the given one. -/
def expect (token : Token) : NodeReader Unit := do
  if !(← accept token) then throw .malformed

/-- Whether the next token is one of the given ones. -/
def isNextOf (tokens : List Token) : NodeReader Bool :=
  return tokens.contains (← peek)

end NodeReader

open NodeReader

/-! ### Properties -/

/-- The anchor and the full tag of a node. -/
structure Properties where
  anchor : Option String := none
  tag : Option String := none

/-- The full tag of a handle and what follows it. -/
def fullTag (handles : Handles) (handle : Option String) (suffix : String) :
    Except Flaw String :=
  match handle with
  | none => .ok suffix
  | some handle =>
    match handles.lookup handle with
    | some stem => .ok (stem ++ suffix)
    | none => .error .malformed

/-- The anchor here, if there is one. -/
def readAnchor : NodeReader (Option String) := do
  match ← peek with
  | .anchor name => advance; return some name
  | _ => return none

/-- The tag here as written, if there is one. -/
def readTag : NodeReader (Option (Option String × String)) := do
  match ← peek with
  | .tag handle suffix => advance; return some (handle, suffix)
  | _ => return none

/-- The anchor and the tag here, in either order. -/
def readProperties (handles : Handles) : NodeReader Properties := do
  let before ← readAnchor
  let tag ← readTag
  let after ← if before.isNone && tag.isSome then readAnchor else pure none
  let tag ← tag.mapM fun (handle, suffix) => fullTag handles handle suffix
  return ⟨before.or after, tag⟩

/-- The kind of a scalar: that of its tag, or the one found from its text if it is plain. -/
def scalarTag (tag : Option String) (text : String) (isPlain : Bool) : Tag :=
  match tag with
  | some "!" => .ofPlain text
  | some tag => .ofText tag
  | none => if isPlain then .ofPlain text else .text

/-- The kind of a collection: that of its tag, or the one of its form. -/
def collectionTag (tag : Option String) (form : Tag) : Tag :=
  match tag with
  | some "!" => form
  | some tag => .ofText tag
  | none => form

/-- Notes an anchor, whose node has yet to be read. No two anchors share a name. -/
def openAnchor (anchor : Option String) : NodeReader Unit := do
  match anchor with
  | none => return ()
  | some name =>
    if ((← get).anchors.lookup name).isSome then throw .malformed
    modify fun reading => { reading with anchors := (name, .enclosing) :: reading.anchors }

/-- Sets the node of an anchor. -/
def closeAnchor (anchor : Option String) (node : Node) : NodeReader Unit :=
  match anchor with
  | none => return ()
  | some name =>
    modify fun reading => { reading with anchors := (name, node) :: reading.anchors }

/-- The node that an alias stands for. -/
def aliased (name : String) : NodeReader Node := do
  match (← get).anchors.lookup name with
  | some node => return node
  | none => throw .malformed

/-! ### Nodes -/

mutual

/-- The node here. Blocks may start only where they are allowed, and a sequence without indentation
only as the key or the value of a block mapping. -/
def readNode (handles : Handles) (inBlock unindented : Bool) : Nat → NodeReader Node
  | 0 => throw .malformed
  | fuel + 1 => do
    match ← peek with
    | .alias name => advance; aliased name
    | _ =>
      let properties ← readProperties handles
      let token ← peek
      -- The anchor is noted before its node is read, so that an alias inside of the node finds it
      -- open.
      openAnchor properties.anchor
      let node ← readContent handles inBlock unindented properties token fuel
      closeAnchor properties.anchor node
      return node

/-- The content of a node behind its properties. It may be missing if there are any. -/
def readContent (handles : Handles) (inBlock unindented : Bool) (properties : Properties)
    (token : Token) : Nat → NodeReader Node
  | 0 => throw .malformed
  | fuel + 1 => do
    match token, inBlock with
    | .scalar text isPlain, _ =>
      advance
      return .scalar (scalarTag properties.tag text isPlain) text
    | .flowSequenceStart, _ =>
      advance
      return .sequence (collectionTag properties.tag .sequence)
        (← readFlowElements handles true fuel)
    | .flowMappingStart, _ =>
      advance
      return .mapping (collectionTag properties.tag .mapping) (← readFlowPairs handles true fuel)
    | .blockSequenceStart, true =>
      advance
      return .sequence (collectionTag properties.tag .sequence)
        (← readBlockElements handles true fuel)
    | .blockMappingStart, true =>
      advance
      return .mapping (collectionTag properties.tag .mapping) (← readBlockPairs handles fuel)
    | .blockEntry, _ =>
      if unindented then
        return .sequence (collectionTag properties.tag .sequence)
          (← readBlockElements handles false fuel)
      else missingContent properties
    | _, _ => missingContent properties

/-- What stands where the content of a node is missing. -/
def missingContent (properties : Properties) : NodeReader Node :=
  if properties.anchor.isSome || properties.tag.isSome then
    return .scalar (scalarTag properties.tag "" true) ""
  else throw .malformed

/-- The elements of a block sequence, with an end of its own or without indentation. -/
def readBlockElements (handles : Handles) (isIndented : Bool) : Nat → NodeReader (List Node)
  | 0 => throw .malformed
  | fuel + 1 => do
    if ← accept .blockEntry then
      let ends :=
        -- Without indentation the next key of the mapping around ends the sequence.
        if isIndented then [.blockEntry, .blockEnd] else [.blockEntry, .key, .value, .blockEnd]
      let element ← readUnless ends handles true false fuel
      return element :: (← readBlockElements handles isIndented fuel)
    else if isIndented then
      expect .blockEnd
      return []
    else return []

/-- The node here, or what stands where it is missing before one of some tokens. -/
def readUnless (ends : List Token) (handles : Handles) (inBlock unindented : Bool) :
    Nat → NodeReader Node
  | 0 => throw .malformed
  | fuel + 1 => do
    if ← isNextOf ends then return .missing
    else readNode handles inBlock unindented fuel

/-- The value here behind its mark, or what stands where it is missing. -/
def readValue (ends : List Token) (handles : Handles) (inBlock unindented : Bool) :
    Nat → NodeReader Node
  | 0 => throw .malformed
  | fuel + 1 => do
    if ← accept .value then readUnless ends handles inBlock unindented fuel
    else return .missing

/-- The pairs of a block mapping. -/
def readBlockPairs (handles : Handles) : Nat → NodeReader (List (Node × Node))
  | 0 => throw .malformed
  | fuel + 1 => do
    if ← accept .key then
      let key ← readUnless [.key, .value, .blockEnd] handles true true fuel
      let value ← readValue [.key, .value, .blockEnd] handles true true fuel
      return (key, value) :: (← readBlockPairs handles fuel)
    else
      expect .blockEnd
      return []

/-- The elements of a sequence in brackets. A pair in it is a mapping of its own. -/
def readFlowElements (handles : Handles) (isFirst : Bool) : Nat → NodeReader (List Node)
  | 0 => throw .malformed
  | fuel + 1 => do
    if ← accept .flowSequenceEnd then return []
    else
      if !isFirst then expect .flowEntry
      -- A comma may stand behind the last element.
      if ← accept .flowSequenceEnd then return []
      else
        let element ← readFlowElement handles fuel
        return element :: (← readFlowElements handles false fuel)

/-- An element of a sequence in brackets. -/
def readFlowElement (handles : Handles) : Nat → NodeReader Node
  | 0 => throw .malformed
  | fuel + 1 => do
    if ← accept .key then
      let key ← readUnless [.value, .flowEntry, .flowSequenceEnd] handles false false fuel
      let value ← readValue [.flowEntry, .flowSequenceEnd] handles false false fuel
      return .mapping .mapping [(key, value)]
    else readNode handles false false fuel

/-- The pairs of a mapping in braces. A key may come without a value. -/
def readFlowPairs (handles : Handles) (isFirst : Bool) : Nat → NodeReader (List (Node × Node))
  | 0 => throw .malformed
  | fuel + 1 => do
    if ← accept .flowMappingEnd then return []
    else
      if !isFirst then expect .flowEntry
      if ← accept .flowMappingEnd then return []
      else
        let pair ← readFlowPair handles fuel
        return pair :: (← readFlowPairs handles false fuel)

/-- A pair of a mapping in braces. -/
def readFlowPair (handles : Handles) : Nat → NodeReader (Node × Node)
  | 0 => throw .malformed
  | fuel + 1 => do
    if ← accept .key then
      let key ← readUnless [.value, .flowEntry, .flowMappingEnd] handles false false fuel
      let value ← readValue [.flowEntry, .flowMappingEnd] handles false false fuel
      return (key, value)
    else return (← readNode handles false false fuel, .missing)

end

/-! ### Documents -/

/-- The handles that the directives here declare, given those declared before and whether a version
was. There is one version at most, of the first kind, and every handle is declared once. -/
def readDirectives (declared : Handles) (hasVersion : Bool) : Nat → NodeReader Handles
  | 0 => throw .malformed
  | fuel + 1 => do
    match ← peek with
    | .directive directive =>
      advance
      match directive with
      | .version major =>
        if hasVersion || major ≠ 1 then throw .malformed
        else readDirectives declared true fuel
      | .handle name stem =>
        if (declared.lookup name).isSome then throw .malformed
        else readDirectives ((name, stem) :: declared) hasVersion fuel
      | .unknown => readDirectives declared hasVersion fuel
    | _ => return declared ++ defaultHandles

/-- Passes over the marks of the end of a document. -/
def skipDocumentEnds : Nat → NodeReader Unit
  | 0 => throw .malformed
  | fuel + 1 => do
    if ← accept .documentEnd then skipDocumentEnds fuel

/-- The directives here and the mark of the start of a document. -/
def readDocumentStart (size : Nat) : NodeReader Handles := do
  let handles ← readDirectives [] false size
  expect .documentStart
  return handles

/-- Passes over the end of the text, or refuses a second document. -/
def readTextEnd (size : Nat) : NodeReader Unit := do
  skipDocumentEnds size
  if !(← accept .textEnd) then
    let _ ← readDocumentStart size
    throw .malformed

/-- The node of the only document, if there is one. -/
def readDocument (size : Nat) : NodeReader (Option Node) := do
  match ← peek with
  | .textEnd => return none
  | token =>
    let isMarked := match token with
      | .directive _ | .documentStart => true
      | _ => false
    let handles ← if isMarked then readDocumentStart size else pure defaultHandles
    let isEmpty := match ← peek with
      | .directive _ | .documentStart | .documentEnd | .textEnd => isMarked
      | _ => false
    let node ← if isEmpty then pure .missing else readNode handles true false (4 * size)
    readTextEnd size
    return some node

/-- The node of the only document of a text, if there is one. -/
def nodeOf (text : List Char) : Except Flaw (Option Node) :=
  let tokens := tokens text
  ((readDocument (tokens.length + 1)).run' { tokens })

end EntryPoint.Document.Yaml
