import Stencil.Yaml.Lexing

/-!
# Nodes of documents

The tree that a document describes: scalars, sequences, mappings, and aliases for nodes that have an
anchor. Tokens are read by recursive descent, one function for each kind of collection.

An anchor is known by the number of different names that were given before it, so a name that is
given again gets a new number, which later names may share.
-/

namespace Stencil.Yaml

/-- How a node is tagged and anchored. -/
structure Mark where
  tag : Option String
  anchor : Option Nat
  deriving DecidableEq, Repr

/-- A node. A plain scalar was written without quotes and block indicators. -/
inductive Node
  | scalar (mark : Mark) (text : String) (plain : Bool)
  | sequence (mark : Mark) (items : List Node)
  | mapping (mark : Mark) (pairs : List (Node × Node))
  | alias (anchor : Nat)

/-- A document: its root, if it has one. -/
structure Document where
  root : Option Node

/-- The beginnings that tag handles stand for. -/
abbrev Handles := List (String × String)

/-- What is left to read, with the anchors met so far. -/
structure Parser where
  tokens : List Token
  handles : Handles
  anchors : List (String × Nat)

/-- A part of the reading, which fails on malformed documents. -/
abbrev Parse := StateT Parser Option

namespace Parse

/-- Fails. -/
def refuse {α : Type} : Parse α := fun _ => none

/-- The next token. -/
def peek : Parse Token := fun s =>
  match s.tokens with
  | t :: _ => some (t, s)
  | [] => none

/-- Passes over a token. -/
def advance : Parse Unit :=
  modify fun s => { s with tokens := s.tokens.drop 1 }

/-- The scalar that stands where there is nothing. -/
def nothing (mark : Mark) : Node :=
  .scalar mark "" true

/-- The mark of an unmarked node. -/
def unmarked : Mark := ⟨none, none⟩

/-- Gives an anchor its number. -/
def anchorNumber (name : String) : Parse Nat := do
  let n := (← get).anchors.length
  modify fun s => { s with anchors := s.anchors.filter (·.1 != name) ++ [(name, n)] }
  return n

/-- The whole tag that a handle and a suffix stand for. -/
def tagText (handle suffix : String) : Parse String := do
  if handle = "" then return suffix
  else
    match (← get).handles.lookup handle with
    | some beginning => return beginning ++ suffix
    | none => refuse

/-- Reads an anchor and a tag, in any order. -/
def properties : Parse (Option String × Option String) := do
  let anchor? : Parse (Option String) := do
    match ← peek with
    | .anchor name => advance; return some name
    | _ => return none
  let tag? : Parse (Option String) := do
    match ← peek with
    | .tag handle suffix => do
      advance
      let text ← tagText handle suffix
      return some text
    | _ => return none
  match ← anchor? with
  | some a => return (some a, ← tag?)
  | none =>
    let t ← tag?
    return (← anchor?, t)

/-- The tag of a scalar: the tag `!` says no more than none. -/
def scalarTag (tag : Option String) : Option String :=
  if tag = some "!" then none else tag

mutual

/-- Reads a node. `block` allows block collections, and `indentless` a sequence in the column of the
mapping around it. -/
def node (block indentless : Bool) : (fuel : Nat) → Parse Node
  | 0 => refuse
  | fuel + 1 => do
    match ← peek with
    | .alias name =>
      advance
      match (← get).anchors.lookup name with
      | some n => return .alias n
      | none => refuse
    | _ =>
      let (anchor, tag) ← properties
      let number ←
        match anchor with
        | some a => some <$> anchorNumber a
        | none => pure none
      let mark : Mark := ⟨tag, number⟩
      match ← peek with
      | .blockEntry =>
        if indentless then return .sequence mark (← indentlessItems fuel)
        else if tag.isSome || anchor.isSome then return nothing mark
        else refuse
      | .scalar text plain =>
        advance
        return .scalar ⟨scalarTag tag, number⟩ text plain
      | .flowSequenceStart =>
        advance
        return .sequence mark (← flowItems true fuel)
      | .flowMappingStart =>
        advance
        return .mapping mark (← flowPairs true fuel)
      | .blockSequenceStart =>
        if block then
          advance
          return .sequence mark (← blockItems fuel)
        else if tag.isSome || anchor.isSome then return nothing mark
        else refuse
      | .blockMappingStart =>
        if block then
          advance
          return .mapping mark (← blockPairs fuel)
        else if tag.isSome || anchor.isSome then return nothing mark
        else refuse
      | _ =>
        if tag.isSome || anchor.isSome then return nothing mark else refuse

/-- Reads the items of a block sequence. -/
def blockItems : (fuel : Nat) → Parse (List Node)
  | 0 => refuse
  | fuel + 1 => do
    match ← peek with
    | .blockEntry =>
      advance
      let item ←
        match ← peek with
        | .blockEntry => pure (nothing unmarked)
        | .blockEnd => pure (nothing unmarked)
        | _ => node true false fuel
      return item :: (← blockItems fuel)
    | .blockEnd =>
      advance
      return []
    | _ => refuse

/-- Reads the items of a sequence in the column of its mapping. -/
def indentlessItems : (fuel : Nat) → Parse (List Node)
  | 0 => refuse
  | fuel + 1 => do
    match ← peek with
    | .blockEntry =>
      advance
      let item ←
        match ← peek with
        | .blockEntry => pure (nothing unmarked)
        | .key => pure (nothing unmarked)
        | .value => pure (nothing unmarked)
        | .blockEnd => pure (nothing unmarked)
        | _ => node true false fuel
      return item :: (← indentlessItems fuel)
    | _ => return []

/-- Reads a key or a value of a block mapping, which may be missing. -/
def blockPart : (fuel : Nat) → Parse Node
  | 0 => refuse
  | fuel + 1 => do
    match ← peek with
    | .key => return nothing unmarked
    | .value => return nothing unmarked
    | .blockEnd => return nothing unmarked
    | _ => node true true fuel

/-- Reads the pairs of a block mapping. -/
def blockPairs : (fuel : Nat) → Parse (List (Node × Node))
  | 0 => refuse
  | fuel + 1 => do
    match ← peek with
    | .key =>
      advance
      let k ← blockPart fuel
      let v ←
        match ← peek with
        | .value => do
          advance
          blockPart fuel
        | _ => pure (nothing unmarked)
      return (k, v) :: (← blockPairs fuel)
    | .blockEnd =>
      advance
      return []
    | _ => refuse

/-- Reads the value of a pair in a flow collection that `close` ends. -/
def flowValue (close : Token) : (fuel : Nat) → Parse Node
  | 0 => refuse
  | fuel + 1 => do
    match ← peek with
    | .value =>
      advance
      let t ← peek
      if t = .flowEntry || t = close then return nothing unmarked
      else node false false fuel
    | _ => return nothing unmarked

/-- Reads the items of a flow sequence; a pair in it is a mapping of its own. -/
def flowItems (first : Bool) : (fuel : Nat) → Parse (List Node)
  | 0 => refuse
  | fuel + 1 => do
    if (← peek) = .flowSequenceEnd then
      advance
      return []
    else
      if !first then
        if (← peek) = .flowEntry then advance else refuse
      match ← peek with
      | .key =>
        advance
        let t ← peek
        let k ←
          if t = .value || t = .flowEntry || t = .flowSequenceEnd then do
            advance
            pure (nothing unmarked)
          else node false false fuel
        let v ← flowValue .flowSequenceEnd fuel
        return .mapping unmarked [(k, v)] :: (← flowItems false fuel)
      | .flowSequenceEnd =>
        advance
        return []
      | _ =>
        let item ← node false false fuel
        return item :: (← flowItems false fuel)

/-- Reads the pairs of a flow mapping. -/
def flowPairs (first : Bool) : (fuel : Nat) → Parse (List (Node × Node))
  | 0 => refuse
  | fuel + 1 => do
    if (← peek) = .flowMappingEnd then
      advance
      return []
    else
      if !first then
        if (← peek) = .flowEntry then advance else refuse
      match ← peek with
      | .key =>
        advance
        let t ← peek
        let k ←
          if t = .value || t = .flowEntry || t = .flowMappingEnd then pure (nothing unmarked)
          else node false false fuel
        let v ← flowValue .flowMappingEnd fuel
        return (k, v) :: (← flowPairs false fuel)
      | .flowMappingEnd =>
        advance
        return []
      | _ =>
        let k ← node false false fuel
        return (k, nothing unmarked) :: (← flowPairs false fuel)

end

/-- The handles that need no directive. -/
def defaultHandles : Handles :=
  [("!", "!"), ("!!", "tag:yaml.org,2002:")]

/-- Reads the directives before a document; gives whether there were any. Neither the version nor a
handle may be given twice. -/
def directives (versioned : Bool) (handles : Handles) : (fuel : Nat) → Parse Handles
  | 0 => refuse
  | fuel + 1 => do
    match ← peek with
    | .version major minor =>
      if versioned || major != 1 || (minor != 1 && minor != 2) then refuse
      else
        advance
        directives true handles fuel
    | .tagDirective handle beginning =>
      if (handles.lookup handle).isSome then refuse
      else
        advance
        directives versioned (handles ++ [(handle, beginning)]) fuel
    | _ => return handles

/-- Reads the only document of a stream, up to the end of the stream. -/
def document (fuel : Nat) : Parse Document := do
  let endOfStream : Parse Unit := do
    if (← peek) = .streamEnd then pure () else refuse
  let endOfDocument : Parse Unit := do
    modify fun s => { s with tokens := s.tokens.dropWhile (· = .documentEnd) }
    endOfStream
  match ← peek with
  | .streamEnd => return ⟨none⟩
  | t =>
    let explicit :=
      match t with
      | .version _ _ => true
      | .tagDirective _ _ => true
      | .documentStart => true
      | _ => false
    if explicit then
      let handles ← directives false [] fuel
      modify fun s => { s with handles := handles ++ defaultHandles }
      if (← peek) = .documentStart then advance else refuse
      let root ←
        match ← peek with
        | .version _ _ => pure (nothing unmarked)
        | .tagDirective _ _ => pure (nothing unmarked)
        | .documentStart => pure (nothing unmarked)
        | .documentEnd => pure (nothing unmarked)
        | .streamEnd => pure (nothing unmarked)
        | _ => node true false fuel
      endOfDocument
      return ⟨some root⟩
    else
      let root ← node true false fuel
      endOfDocument
      return ⟨some root⟩

end Parse

/-- The only document of a text, or `none` where the text is malformed or holds several. -/
def document? (text : String) : Option Document := do
  let tokens ← tokens? text
  let n := tokens.size
  let (d, _) ← (Parse.document (4 * n + 8)).run ⟨tokens.toList, Parse.defaultHandles, []⟩
  pure d

/-- The nodes with an anchor, in the order of the text. -/
def Node.anchored : Node → List (Nat × Node)
  | .scalar m t p => (m.anchor.map fun n => (n, Node.scalar m t p)).toList
  | .sequence m items =>
    (m.anchor.map fun n => (n, Node.sequence m items)).toList ++ anchoredItems items
  | .mapping m pairs =>
    (m.anchor.map fun n => (n, Node.mapping m pairs)).toList ++ anchoredPairs pairs
  | .alias _ => []
where
  /-- The nodes with an anchor among several. -/
  anchoredItems : List Node → List (Nat × Node)
    | [] => []
    | n :: ns => n.anchored ++ anchoredItems ns
  /-- The nodes with an anchor among pairs. -/
  anchoredPairs : List (Node × Node) → List (Nat × Node)
    | [] => []
    | (k, v) :: ps => k.anchored ++ (v.anchored ++ anchoredPairs ps)

/-- The number of beginnings and ends of nodes. -/
def Node.events : Node → Nat
  | .scalar _ _ _ => 1
  | .sequence _ items => 2 + eventsItems items
  | .mapping _ pairs => 2 + eventsPairs pairs
  | .alias _ => 1
where
  /-- The events of several nodes. -/
  eventsItems : List Node → Nat
    | [] => 0
    | n :: ns => n.events + eventsItems ns
  /-- The events of pairs. -/
  eventsPairs : List (Node × Node) → Nat
    | [] => 0
    | (k, v) :: ps => k.events + (v.events + eventsPairs ps)

end Stencil.Yaml
