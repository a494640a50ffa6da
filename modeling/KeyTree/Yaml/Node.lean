import KeyTree.Yaml.Token

/-!
# `KeyTree.Yaml.Node`: YAML text as nodes

A node is a scalar, a sequence or a mapping, or an alias, which stands for a
node with an anchor. `Node.ofText?` reads a text that holds one document.

Anchors are numbered: a name gets the count of the names there are already,
again when it is given again, and an alias stands for the last node in the
document that got the number of its name.
-/

set_option autoImplicit false

namespace KeyTree.Yaml

/-- What may be written in front of a node. -/
structure Marks where
  /-- The number of the node's anchor. -/
  anchor : Option Nat
  tag : Option Tag
  deriving DecidableEq, Repr

/-- A node without marks. -/
def Marks.none : Marks := ⟨.none, .none⟩

/-- Whether there are none. -/
def Marks.isEmpty (marks : Marks) : Bool := marks.anchor.isNone && marks.tag.isNone

/-- A node of a document. -/
inductive Node where
  | alias (anchor : Nat)
  | scalar (marks : Marks) (plain : Bool) (text : String)
  | sequence (marks : Marks) (items : List Node)
  | mapping (marks : Marks) (entries : List (Node × Node))
  deriving Repr

namespace Node

/-- What stands where a node is left out. -/
def empty (marks : Marks) : Node := .scalar marks true ""

mutual

/-- The number of scalars, aliases, and starts and ends of collections. -/
def events : Node → Nat
  | .alias _ | .scalar _ _ _ => 1
  | .sequence _ items => 2 + eventsOfItems items
  | .mapping _ entries => 2 + eventsOfEntries entries
termination_by structural node => node

/-- The same for the items of a sequence. -/
def eventsOfItems : List Node → Nat
  | [] => 0
  | item :: rest => events item + eventsOfItems rest
termination_by structural items => items

/-- The same for the entries of a mapping. -/
def eventsOfEntries : List (Node × Node) → Nat
  | [] => 0
  | (key, value) :: rest => events key + events value + eventsOfEntries rest
termination_by structural entries => entries

end

/-- A node with the number of its anchor, if it has one. -/
def withAnchor (marks : Marks) (node : Node) : List (Nat × Node) :=
  marks.anchor.toList.map (·, node)

mutual

/-- The nodes with anchors, in the order of the text. -/
def anchored : Node → List (Nat × Node)
  | .alias _ => []
  | .scalar marks plain text => withAnchor marks (.scalar marks plain text)
  | .sequence marks items =>
    withAnchor marks (.sequence marks items) ++ anchoredItems items
  | .mapping marks entries =>
    withAnchor marks (.mapping marks entries) ++ anchoredEntries entries
termination_by structural node => node

/-- The same among the items of a sequence. -/
def anchoredItems : List Node → List (Nat × Node)
  | [] => []
  | item :: rest => anchored item ++ anchoredItems rest
termination_by structural items => items

/-- The same among the entries of a mapping. -/
def anchoredEntries : List (Node × Node) → List (Nat × Node)
  | [] => []
  | (key, value) :: rest => anchored key ++ anchored value ++ anchoredEntries rest
termination_by structural entries => entries

end

end Node

/-! ### Tokens as nodes -/

/-- What is left to read, and what the text has said so far. -/
structure Composer where
  tokens : List Token
  handles : List TagHandle
  /-- The names of anchors with their numbers, the last one first. -/
  anchors : List (String × Nat)

/-- Reading nodes fails at the first token that does not fit. -/
abbrev Compose := StateT Composer Option

namespace Compose

/-- The next token, if there is one. -/
def peek : Compose (Option Token) := do pure (← get).tokens.head?

/-- Passes the next token. -/
def skip : Compose Unit := modify fun s => { s with tokens := s.tokens.drop 1 }

/-- Whether the next token is one of some. -/
def nextIs (tokens : List Token) : Compose Bool := do pure ((← peek).any tokens.contains)

/-- Passes the next token, which has to be a certain one. -/
def expect (token : Token) : Compose Unit := do
  if ← nextIs [token] then skip else failure

/-- Numbers the anchor of a node. -/
def declare (name : String) : Compose Nat := do
  let s ← get
  let number := (s.anchors.map (·.1)).eraseDups.length
  set { s with anchors := (name, number) :: s.anchors }
  pure number

/-- The tag that is written. -/
def resolve (written : TagText) : Compose Tag := do
  let resolved : Option Tag := written.resolve? (← get).handles
  resolved

/-- The anchor and the tag of a node, in either order. -/
def marks : Compose Marks := do
  match ← peek with
  | some (.anchor name) =>
    skip
    match ← peek with
    | some (.tag written) =>
      skip
      let tag ← resolve written
      pure ⟨some (← declare name), some tag⟩
    | _ => pure ⟨some (← declare name), none⟩
  | some (.tag written) =>
    skip
    let tag ← resolve written
    match ← peek with
    | some (.anchor name) =>
      skip
      pure ⟨some (← declare name), some tag⟩
    | _ => pure ⟨none, some tag⟩
  | _ => pure .none

/-- Where a node stands. -/
inductive Place where
  /-- Outside of brackets, but for the next case. -/
  | block
  /-- The key or value of a block mapping, where the items of a sequence need
  not be indented. -/
  | entry
  /-- Inside brackets. -/
  | flow
  deriving DecidableEq

mutual

/-- A node; the fuel of this and the next functions bounds their depth. -/
def node : Nat → Place → Compose Node
  | 0, _ => failure
  | fuel + 1, place => do
    if let some (.alias name) ← peek then
      skip
      let number : Option Nat := (← get).anchors.lookup name
      return .alias (← number)
    let marks ← marks
    match ← peek, place with
    | some .item, .entry => return .sequence marks (← looseItems fuel)
    | some (.scalar plain text), _ =>
      skip
      return .scalar marks plain text
    | some .openSequence, _ =>
      skip
      return .sequence marks (← flowItems fuel true)
    | some .openMapping, _ =>
      skip
      return .mapping marks (← flowEntries fuel true)
    | some .openBlockSequence, .block | some .openBlockSequence, .entry =>
      skip
      return .sequence marks (← blockItems fuel)
    | some .openBlockMapping, .block | some .openBlockMapping, .entry =>
      skip
      return .mapping marks (← blockEntries fuel)
    | _, _ => if marks.isEmpty then failure else return .empty marks

/-- A node, or an empty one if one of some tokens follows. -/
def nodeUnless : Nat → Place → List Token → Compose Node
  | 0, _, _ => failure
  | fuel + 1, place, ends => do
    if ← nextIs ends then return .empty .none else node fuel place

/-- The items of an indented sequence. -/
def blockItems : Nat → Compose (List Node)
  | 0 => failure
  | fuel + 1 => do
    if ← nextIs [.closeBlock] then
      skip
      return []
    expect .item
    let item ← nodeUnless fuel .block [.item, .closeBlock]
    return item :: (← blockItems fuel)

/-- The items of a sequence that is no deeper than the mapping around it. -/
def looseItems : Nat → Compose (List Node)
  | 0 => failure
  | fuel + 1 => do
    if ← nextIs [.item] then
      skip
      let item ← nodeUnless fuel .block [.item, .key, .value, .closeBlock]
      return item :: (← looseItems fuel)
    else return []

/-- The entries of a block mapping. -/
def blockEntries : Nat → Compose (List (Node × Node))
  | 0 => failure
  | fuel + 1 => do
    if ← nextIs [.closeBlock] then
      skip
      return []
    expect .key
    let ends := [Token.key, .value, .closeBlock]
    let key ← nodeUnless fuel .entry ends
    let value ← valueUnless fuel .entry ends
    return (key, value) :: (← blockEntries fuel)

/-- The value behind a key, which may be missing. -/
def valueUnless : Nat → Place → List Token → Compose Node
  | 0, _, _ => failure
  | fuel + 1, place, ends => do
    if ← nextIs [.value] then
      skip
      nodeUnless fuel place ends
    else return .empty .none

/-- The items of a sequence in brackets; the flag tells that none came
before. An item may be a mapping of one entry. -/
def flowItems : Nat → Bool → Compose (List Node)
  | 0, _ => failure
  | fuel + 1, first => do
    if ! (← nextIs [.closeSequence]) ∧ ! first then expect .comma
    if ← nextIs [.closeSequence] then
      skip
      return []
    let item ← if ← nextIs [.key] then do
        skip
        pure (.mapping .none [← pair fuel])
      else node fuel .flow
    return item :: (← flowItems fuel false)

/-- A single entry among the items of a sequence. Where its key is left
out, the token behind the mark of the key is lost. -/
def pair : Nat → Compose (Node × Node)
  | 0 => failure
  | fuel + 1 => do
    let key ← if ← nextIs [.value, .comma, .closeSequence] then do
        skip
        pure (Node.empty .none)
      else node fuel .flow
    return (key, ← valueUnless fuel .flow [.comma, .closeSequence])

/-- The entries of a mapping in braces; the flag tells that none came
before. A key without its mark has no value. -/
def flowEntries : Nat → Bool → Compose (List (Node × Node))
  | 0, _ => failure
  | fuel + 1, first => do
    if ! (← nextIs [.closeMapping]) ∧ ! first then expect .comma
    if ← nextIs [.closeMapping] then
      skip
      return []
    let entry ← if ← nextIs [.key] then do
        skip
        let key ← nodeUnless fuel .flow [.value, .comma, .closeMapping]
        pure (key, ← valueUnless fuel .flow [.comma, .closeMapping])
      else do pure (← node fuel .flow, .empty .none)
    return entry :: (← flowEntries fuel false)

end

/-! ### Documents -/

/-- The handles that directives declare, none of them twice. There may be
one directive for the version, which is 1.1 or 1.2. -/
def declaredHandles? : Bool → List TagHandle → List Directive → Option (List TagHandle)
  | _, handles, [] => some handles
  | versioned, handles, .version major minor :: rest =>
    if versioned || major ≠ 1 || (minor ≠ 1 && minor ≠ 2) then none
    else declaredHandles? true handles rest
  | versioned, handles, .handle declared :: rest =>
    if handles.any (·.handle = declared.handle) then none
    else declaredHandles? versioned (declared :: handles) rest

/-- The directives that come first. -/
def directives : List Token → List Directive
  | .directive d :: rest => d :: directives rest
  | _ => []

/-- The root of a text's only document. Only a document with directives
needs a line that starts it. -/
def document : Compose Node := do
  let s ← get
  let found := directives s.tokens
  let declared : Option (List TagHandle) := declaredHandles? false [] found
  set { s with tokens := s.tokens.drop found.length, handles := (← declared) ++ TagHandle.standing }
  let fuel := 4 * s.tokens.length + 4
  let root ←
    if ! found.isEmpty || (← nextIs [.documentStart]) then do
      expect .documentStart
      match ← peek with
      | none | some (.directive _) | some .documentStart | some .documentEnd =>
        pure (Node.empty .none)
      | _ => node fuel .block
    else node fuel .block
  if (← get).tokens.all (· = .documentEnd) then pure root else failure

end Compose

/-- The root of the only document in a text. -/
def Node.ofText? (text : String) : Option Node := do
  let tokens ← Token.scan text
  let (root, _) ← Compose.document.run ⟨tokens, [], []⟩
  some root

end KeyTree.Yaml
