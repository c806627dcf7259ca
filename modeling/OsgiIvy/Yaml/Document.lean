import OsgiIvy.Yaml.Node
import OsgiIvy.Yaml.Token

/-!
# Documents

The node that the tokens of a YAML text spell.  A reference stands for a copy of the node of its
name.  What is left out where a node could stand is an empty plain text.
-/

namespace OsgiIvy.Yaml.Node

/-! ### What is still to be read -/

/-- The tokens that are left, what handles stand for, and the nodes with names.  A name whose node
is still being read has none yet. -/
structure Reading where
  tokens : List Token
  handles : Directive.Handles
  named : List (List Char × Option Node)

abbrev Reader := StateT Reading (Except Fault)

/-- The fault of a token that cannot stand where it does. -/
def faultOf : List Token → Fault
  | ⟨.broken fault, _⟩ :: _ => fault
  | t :: _ => .malformed t.line
  | [] => .malformed 0

/-- Fails because of the next token. -/
def fail {α : Type} : Reader α := do throw (faultOf (← get).tokens)

/-- Fails because of something in front of the next token. -/
def failBefore {α : Type} : Reader α := do
  throw (.malformed (((← get).tokens.head?.map Token.line).getD 0))

def next? : Reader (Option Token.Kind) := return (← get).tokens.head?.map Token.kind

/-- The next token is of one of these kinds. -/
def nextIs (kinds : List Token.Kind) : Reader Bool := return (← next?).any kinds.contains

def drop : Reader Unit := modify fun r => { r with tokens := r.tokens.drop 1 }

/-! ### Properties -/

/-- What stands in front of a node. -/
structure Properties where
  name : Option (List Char)
  tag : Option (List Char)

namespace Properties

def isEmpty (p : Properties) : Bool := p.name.isNone && p.tag.isNone

/-- The kind that a node is to be of.  An exclamation mark alone leaves it to the form of the node.
-/
def kind (p : Properties) (form : Kind) : Kind :=
  match p.tag with
  | none => form
  | some tag => if tag = ['!'] then form else .ofTag tag

/-- The kind that a text is to be of: without a tag, one between marks is a text. -/
def textKind (p : Properties) (isPlain : Bool) : Kind :=
  if p.tag.isNone && !isPlain then .text else p.kind .plain

end Properties

def readName? : Reader (Option (List Char)) := do
  match ← next? with
  | some (.name name) => drop; pure (some name)
  | _ => pure none

def readTag? : Reader (Option Tag) := do
  match ← next? with
  | some (.tag tag) => drop; pure (some tag)
  | _ => pure none

/-- Fails if the text cannot be read on. -/
def checkNext : Reader Unit := do
  match ← next? with
  | some (.broken _) => fail
  | _ => pure ()

/-- A tag written out. -/
def fullTag (tag : Tag) : Reader (List Char) := do
  match tag.handle with
  | none => pure tag.rest
  | some handle =>
    match (← get).handles.lookup handle with
    | some start => pure (start ++ tag.rest)
    | none => failBefore

/-- Reads the name and the tag of a node, which stand in any order. -/
def readProperties : Reader Properties := do
  let first ← readName?
  let tag ← readTag?
  let name ←
    if first.isSome || tag.isNone then pure first
    else do
      checkNext
      readName?
  return ⟨name, ← tag.mapM fullTag⟩

/-- A node of this name begins; no other has it. -/
def openName (name : Option (List Char)) : Reader Unit := do
  match name with
  | none => pure ()
  | some name =>
    checkNext
    if ((← get).named.lookup name).isSome then failBefore
    else modify fun r => { r with named := (name, none) :: r.named }

/-- The node of this name was read. -/
def closeName (name : Option (List Char)) (node : Node) : Reader Unit :=
  match name with
  | none => pure ()
  | some name => modify fun r => { r with named := (name, some node) :: r.named }

/-- The node of a name that was given before.  A node cannot stand in itself. -/
def resolve (name : List Char) : Reader Node := do
  match (← get).named.lookup name with
  | some (some node) => pure node
  | _ => failBefore

/-! ### Nodes by place -/

/-- Where a node may be left out: at the ends of entries of lists and mappings. -/
def endsItem : List Token.Kind := [.item, .blockEnd]

def endsLooseItem : List Token.Kind := [.item, .key, .value, .blockEnd]

def endsEntry : List Token.Kind := [.key, .value, .blockEnd]

/-- How a node stands: inside of brackets, in a list or mapping by indentation, or as part of an
entry of such a mapping, where a list need not be indented. -/
inductive Place
  | flow
  | block
  | entry
deriving DecidableEq, Repr

mutual

/-- Reads one node.  The fuel bounds the depth of the calls. -/
def read : Nat → Place → Reader Node
  | 0, _ => fail
  | fuel + 1, place => do
    match ← next? with
    | some (.reference name) =>
      drop
      resolve name
    | _ =>
      let properties ← readProperties
      openName properties.name
      let node ← readContent fuel place properties
      closeName properties.name node
      pure node

/-- Reads what stands behind the properties of a node. -/
def readContent : Nat → Place → Properties → Reader Node
  | 0, _, _ => fail
  | fuel + 1, place, properties => do
    match ← next?, place with
    | some (.text ps isPlain), _ =>
      drop
      pure (.text (properties.textKind isPlain) ps)
    | some .flowListStart, _ =>
      drop
      return .list (properties.kind .list) (← readFlowItems fuel true)
    | some .flowMappingStart, _ =>
      drop
      return .mapping (properties.kind .mapping) (← readFlowEntries fuel true)
    | some .item, .entry => return .list (properties.kind .list) (← readLooseItems fuel)
    | some .blockListStart, .block | some .blockListStart, .entry =>
      drop
      return .list (properties.kind .list) (← readItems fuel)
    | some .blockMappingStart, .block | some .blockMappingStart, .entry =>
      drop
      return .mapping (properties.kind .mapping) (← readEntries fuel)
    | some (.broken _), _ => fail
    | _, _ => if properties.isEmpty then fail else pure (.text (properties.kind .plain) [])

/-- Reads a node that may be left out in front of the given tokens. -/
def readOptional : Nat → Place → List Token.Kind → Reader Node
  | 0, _, _ => fail
  | fuel + 1, place, ends => do
    if ← nextIs ends then pure empty else read fuel place

/-- The value behind a key. -/
def readValue : Nat → Place → List Token.Kind → Reader Node
  | 0, _, _ => fail
  | fuel + 1, place, ends => do
    if ← nextIs [.value] then
      drop
      readOptional fuel place ends
    else pure empty

def readItems : Nat → Reader (List Node)
  | 0 => fail
  | fuel + 1 => do
    match ← next? with
    | some .item =>
      drop
      let item ← readOptional fuel .block endsItem
      return item :: (← readItems fuel)
    | some .blockEnd =>
      drop
      pure []
    | _ => fail

/-- The items of a list that is not indented; it ends with the last. -/
def readLooseItems : Nat → Reader (List Node)
  | 0 => fail
  | fuel + 1 => do
    if ← nextIs [.item] then
      drop
      let item ← readOptional fuel .block endsLooseItem
      return item :: (← readLooseItems fuel)
    else pure []

def readEntries : Nat → Reader (List (Node × Node))
  | 0 => fail
  | fuel + 1 => do
    match ← next? with
    | some .key =>
      drop
      let key ← readOptional fuel .entry endsEntry
      let value ← readValue fuel .entry endsEntry
      return (key, value) :: (← readEntries fuel)
    | some .blockEnd =>
      drop
      pure []
    | _ => fail

/-- A key and its value between brackets of which the given token is the closing one. -/
def readFlowEntry : Nat → Token.Kind → Reader (Node × Node)
  | 0, _ => fail
  | fuel + 1, closing => do
    let key ← readOptional fuel .flow [.value, .separator, closing]
    let value ← readValue fuel .flow [.separator, closing]
    pure (key, value)

/-- Passes over what stands between two parts in brackets, and tells whether there is a part behind
it. -/
def readSeparator (isFirst : Bool) (closing : Token.Kind) : Reader Bool := do
  if ← nextIs [closing] then
    drop
    pure false
  else if isFirst then pure true
  else if ← nextIs [.separator] then
    drop
    if ← nextIs [closing] then
      drop
      pure false
    else pure true
  else fail

/-- Items between brackets; a key among them makes a mapping of one entry. -/
def readFlowItems : Nat → Bool → Reader (List Node)
  | 0, _ => fail
  | fuel + 1, isFirst => do
    if ← readSeparator isFirst .flowListEnd then
      let item ←
        if ← nextIs [.key] then do
          drop
          pure (.mapping .mapping [← readFlowEntry fuel .flowListEnd])
        else read fuel .flow
      return item :: (← readFlowItems fuel false)
    else pure []

/-- Entries between brackets; one without a key's mark has an empty value. -/
def readFlowEntries : Nat → Bool → Reader (List (Node × Node))
  | 0, _ => fail
  | fuel + 1, isFirst => do
    if ← readSeparator isFirst .flowMappingEnd then
      let entry ←
        if ← nextIs [.key] then do
          drop
          readFlowEntry fuel .flowMappingEnd
        else do
          pure (← read fuel .flow, empty)
      return entry :: (← readFlowEntries fuel false)
    else pure []

end

/-! ### Whole documents -/

/-- Reads the directives in front of a document. -/
def readDirectives : Reader Unit := do
  let isDirective (t : Token) : Bool := match t.kind with
    | .directive _ => true
    | _ => false
  let r ← get
  let directives := (r.tokens.takeWhile isDirective).filterMap fun t => match t.kind with
    | .directive d => some d
    | _ => none
  match Directive.handles? directives with
  | some handles => set { r with tokens := r.tokens.dropWhile isDirective, handles := handles }
  | none => failBefore

/-- Reads a document that begins with a mark, which directives may stand in front of. -/
def readMarkedDocument (fuel : Nat) : Reader Node := do
  readDirectives
  if ← nextIs [.documentStart] then
    drop
    match ← next? with
    | none | some .documentStart | some .documentEnd | some (.directive _) => pure empty
    | _ => read fuel .block
  else fail

/-- Reads the only document, if there is one. -/
def readDocument (fuel : Nat) : Reader (Option Node) := do
  match ← next? with
  | none => pure none
  | some first =>
    let node ←
      match first with
      | .directive _ | .documentStart => readMarkedDocument fuel
      | _ => read fuel .block
    modify fun r => { r with tokens := r.tokens.dropWhile (·.kind == .documentEnd) }
    if (← next?).isNone then pure (some node)
    else do
      readDirectives
      fail

/-- The node of the only document, if there is one. -/
def ofTokens (ts : List Token) : Except Fault (Option Node) :=
  (readDocument (6 * ts.length + 6)).run' ⟨ts, Directive.usualHandles, []⟩

end OsgiIvy.Yaml.Node
