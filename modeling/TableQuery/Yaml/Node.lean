import TableQuery.OrderedMap
import TableQuery.Yaml.Token.Lexer

/-!
Nodes of YAML documents.

A node is a scalar, a sequence, a mapping, or an alias. Anchors are numbered by the number of different names before
them, and an alias holds the number that its name has where the alias stands. It stands for the last node with that
number.
-/

namespace TableQuery.Yaml

/-- The anchor and the tag of a node. -/
structure Properties where
  anchor : Option Nat := none
  tag : Option (List Char) := none

inductive Node where
  | scalar (properties : Properties) (isPlain : Bool) (text : List Char)
  | sequence (properties : Properties) (items : List Node)
  | mapping (properties : Properties) (entries : List (Node × Node))
  | alias (number : Nat)
deriving Inhabited

namespace Node

/-- A node that is not written. -/
def empty : Node := .scalar {} true []

end Node

/-! ## Reading of nodes -/

/-- The tokens that are still to be read, and the numbers of the anchors so far. -/
structure Feed where
  tokens : List Token
  anchors : OrderedMap Nat := .empty

namespace Feed

def skip (f : Feed) : Feed := { f with tokens := f.tokens.drop 1 }

/-- Whether the next token is one of some tokens. -/
def nextIs (f : Feed) (candidates : List Token) : Bool := f.tokens.head?.any candidates.contains

/-- Passes a token, if it comes next. -/
def expect? (f : Feed) (token : Token) : Option Feed := if f.nextIs [token] then some f.skip else none

/-- Gives the next anchor its number. -/
def addAnchor (f : Feed) (name : List Char) : Nat × Feed :=
  (f.anchors.size, { f with anchors := f.anchors.insert (String.ofList name) f.anchors.size })

end Feed

/-- The meanings of the handles of tags in a document. -/
abbrev Handles := List (List Char × List Char)

namespace Handles

/-- The full form of a tag. -/
def resolve? (handles : Handles) (handle suffix : List Char) : Option (List Char) :=
  if handle.isEmpty then some suffix else (handles.lookup handle).map (· ++ suffix)

/-- What the tags of the common types start with. -/
def commonBase : List Char := "tag:yaml.org,2002:".toList

/-- The handles that need not be declared. -/
def default : Handles := [(['!'], ['!']), (['!', '!'], commonBase)]

end Handles

namespace Node

/-- Reads an anchor and a tag, each at most once and in any order. -/
def properties? (handles : Handles) (f : Feed) : Option (Properties × Feed) :=
  match f.tokens with
  | .anchor name :: .tag handle suffix :: rest | .tag handle suffix :: .anchor name :: rest => do
    let tag ← handles.resolve? handle suffix
    let (number, f) := { f with tokens := rest }.addAnchor name
    return (⟨some number, some tag⟩, f)
  | .anchor name :: rest =>
    let (number, f) := { f with tokens := rest }.addAnchor name
    some (⟨some number, none⟩, f)
  | .tag handle suffix :: rest => do
    let tag ← handles.resolve? handle suffix
    return (⟨none, some tag⟩, { f with tokens := rest })
  | _ => some ({}, f)

/-- The tag of a scalar that is not the tag without a name, which means the same as none. -/
def dropBareTag (p : Properties) : Properties := if p.tag = some ['!'] then { p with tag := none } else p

mutual

/-- Reads a node. Blocks are nodes only where `block` allows; sequences without indentation only in mappings. -/
def read (handles : Handles) (block indentless : Bool) : Nat → Feed → Option (Node × Feed)
  | 0, _ => none
  | fuel + 1, f =>
    match f.tokens with
    | .alias name :: _ => do
      return (.alias (← f.anchors.get? (String.ofList name)), f.skip)
    | _ => do
      let (p, f) ← properties? handles f
      match f.tokens with
      | .entry :: _ =>
        if indentless then readItems handles p false [] fuel f
        else emptyAt p f
      | .scalar isPlain text :: _ => return (.scalar (dropBareTag p) isPlain text, f.skip)
      | .flowSequenceStart :: _ => readFlowItems handles p true [] fuel f.skip
      | .flowMappingStart :: _ => readFlowEntries handles p true [] fuel f.skip
      | .sequenceStart :: _ => if block then readItems handles p true [] fuel f.skip else emptyAt p f
      | .mappingStart :: _ => if block then readEntries handles p [] fuel f.skip else emptyAt p f
      | _ => emptyAt p f

/-- A node of which only the properties are written; without properties there is no node. -/
def emptyAt (p : Properties) (f : Feed) : Option (Node × Feed) :=
  if p.anchor.isSome || p.tag.isSome then some (.scalar p true [], f) else none

/-- Reads a node, or an empty one before some tokens. -/
def readUnless (stops : List Token) (handles : Handles) (block indentless : Bool) : Nat → Feed → Option (Node × Feed)
  | 0, _ => none
  | fuel + 1, f => if f.nextIs stops then some (.empty, f) else read handles block indentless fuel f

/-- Reads the items of a block sequence, which ends with a token of its own if it is indented. -/
def readItems (handles : Handles) (p : Properties) (indented : Bool) (items : List Node) :
    Nat → Feed → Option (Node × Feed)
  | 0, _ => none
  | fuel + 1, f =>
    match f.tokens with
    | .entry :: _ => do
      let stops := if indented then [.entry, .blockEnd] else [.entry, .key, .value, .blockEnd]
      let (item, f) ← readUnless stops handles true false fuel f.skip
      readItems handles p indented (item :: items) fuel f
    | _ => do
      let f ← if indented then f.expect? .blockEnd else some f
      return (.sequence p items.reverse, f)

/-- Reads the entries of a block mapping. -/
def readEntries (handles : Handles) (p : Properties) (entries : List (Node × Node)) : Nat → Feed → Option (Node × Feed)
  | 0, _ => none
  | fuel + 1, f =>
    match f.tokens with
    | .key :: _ => do
      let stops : List Token := [.key, .value, .blockEnd]
      let (key, f) ← readUnless stops handles true true fuel f.skip
      let (value, f) ←
        if f.nextIs [.value] then readUnless stops handles true true fuel f.skip else some (.empty, f)
      readEntries handles p ((key, value) :: entries) fuel f
    | _ => do return (.mapping p entries.reverse, ← f.expect? .blockEnd)

/-- Reads the items of a flow sequence; an item may be a mapping with one entry. -/
def readFlowItems (handles : Handles) (p : Properties) (first : Bool) (items : List Node) :
    Nat → Feed → Option (Node × Feed)
  | 0, _ => none
  | fuel + 1, f => do
    if f.nextIs [.flowSequenceEnd] then return (.sequence p items.reverse, f.skip)
    let f ← if first then some f else f.expect? .flowEntry
    if f.nextIs [.flowSequenceEnd] then return (.sequence p items.reverse, f.skip)
    if f.nextIs [.key] then
      let (entry, f) ← readSingleEntry handles fuel f.skip
      readFlowItems handles p false (.mapping {} [entry] :: items) fuel f
    else
      let (item, f) ← read handles false false fuel f
      readFlowItems handles p false (item :: items) fuel f

/-- Reads the only entry of a mapping that is an item of a flow sequence. Where the key is not written, the token in its
place is passed. -/
def readSingleEntry (handles : Handles) : Nat → Feed → Option ((Node × Node) × Feed)
  | 0, _ => none
  | fuel + 1, f => do
    let (key, f) ←
      if f.nextIs [.value, .flowEntry, .flowSequenceEnd] then some (.empty, f.skip)
      else read handles false false fuel f
    let (value, f) ←
      if f.nextIs [.value] then readUnless [.flowEntry, .flowSequenceEnd] handles false false fuel f.skip
      else some (.empty, f)
    return ((key, value), f)

/-- Reads the entries of a flow mapping. A key without an indicator has no value. -/
def readFlowEntries (handles : Handles) (p : Properties) (first : Bool) (entries : List (Node × Node)) :
    Nat → Feed → Option (Node × Feed)
  | 0, _ => none
  | fuel + 1, f => do
    if f.nextIs [.flowMappingEnd] then return (.mapping p entries.reverse, f.skip)
    let f ← if first then some f else f.expect? .flowEntry
    if f.nextIs [.flowMappingEnd] then return (.mapping p entries.reverse, f.skip)
    if f.nextIs [.key] then
      let (key, f) ← readUnless [.value, .flowEntry, .flowMappingEnd] handles false false fuel f.skip
      let (value, f) ←
        if f.nextIs [.value] then readUnless [.flowEntry, .flowMappingEnd] handles false false fuel f.skip
        else some (.empty, f)
      readFlowEntries handles p false ((key, value) :: entries) fuel f
    else
      let (key, f) ← read handles false false fuel f
      readFlowEntries handles p false ((key, .empty) :: entries) fuel f

end

mutual

/-- The nodes with an anchor inside a node and the node itself, in the order in which they begin. -/
def anchored : Node → List (Nat × Node)
  | .scalar p isPlain text => (p.anchor.map fun number => (number, .scalar p isPlain text)).toList
  | .sequence p items => (p.anchor.map fun number => (number, .sequence p items)).toList ++ anchoredItems items
  | .mapping p entries => (p.anchor.map fun number => (number, .mapping p entries)).toList ++ anchoredEntries entries
  | .alias _ => []

def anchoredItems : List Node → List (Nat × Node)
  | [] => []
  | item :: rest => anchored item ++ anchoredItems rest

def anchoredEntries : List (Node × Node) → List (Nat × Node)
  | [] => []
  | (key, value) :: rest => anchored key ++ anchored value ++ anchoredEntries rest

end

mutual

/-- The number of events of a node: one for a scalar or an alias, and two around the contents of all others. -/
def events : Node → Nat
  | .scalar .. | .alias _ => 1
  | .sequence _ items => eventsOfItems items + 2
  | .mapping _ entries => eventsOfEntries entries + 2

def eventsOfItems : List Node → Nat
  | [] => 0
  | item :: rest => events item + eventsOfItems rest

def eventsOfEntries : List (Node × Node) → Nat
  | [] => 0
  | (key, value) :: rest => events key + events value + eventsOfEntries rest

end

end Node

/-! ## Documents -/

/-- Whether a node of a document follows, and not another document or the end. -/
def Feed.hasContent (f : Feed) : Bool :=
  match f.tokens.head? with
  | none | some (.version ..) | some (.tagHandle ..) | some .documentStart | some .documentEnd => false
  | _ => true

/-- Reads the directives before a document. The version comes at most once and has to be known, and no handle is
declared twice. -/
def Handles.read (versioned : Bool) (handles : Handles) : List Token → Option (Handles × List Token)
  | .version major minor :: rest =>
    if versioned || major != 1 || (minor != 1 && minor != 2) then none else read true handles rest
  | .tagHandle handle base :: rest =>
    if (handles.lookup handle).isSome then none else read versioned (handles ++ [(handle, base)]) rest
  | tokens => some (handles, tokens)

/-- The root of the only document of a text, or nothing if the text has no document; fails if there are several. Of four
nested calls at least one takes a token, which bounds the nesting. -/
def Node.ofTokens? (tokens : List Token) : Option (Option Node) :=
  if tokens.isEmpty then some none
  else do
    let (declared, behind) ← Handles.read false [] tokens
    let handles := declared ++ Handles.default
    let f : Feed ←
      if behind.length = tokens.length && behind.head? != some .documentStart then some { tokens }
      else Feed.expect? { tokens := behind } .documentStart
    let explicit := f.tokens.length < tokens.length
    let (root, f) ←
      if explicit && !f.hasContent then some (.empty, f)
      else Node.read handles true false (4 * tokens.length + 4) f
    if (f.tokens.dropWhile (· = .documentEnd)).isEmpty then return some root else none

end TableQuery.Yaml
