import Muster.Yaml.Token
/-!
The one document of a YAML text as a tree. Anchored nodes are also kept by number, and an alias names
the number of the last node that was anchored under its name before it.
-/
namespace Muster.Yaml

/-- A node. A tag is given in full. -/
inductive Node
  | scalar (tag : Option String) (style : Style) (text : String)
  | sequence (items : List Node)
  | mapping (entries : List (Node × Node))
  | alias (number : Nat)
deriving Repr, Inhabited

/-- The tree of a text, none for a text without any node, and the anchored nodes. -/
structure Document where
  root : Option Node
  anchored : List (Nat × Node)
deriving Repr

def emptyNode : Node :=
  .scalar none .plain ""

/-- What is known while a document is read: the full beginnings of tags by handle, the numbers of
anchors by name, latest first, and the anchored nodes that are complete. -/
structure Names where
  leads : List (String × String)
  anchors : List (String × Nat)
  anchored : List (Nat × Node)

/-- The handles that every document knows. -/
def standardLeads : List (String × String) :=
  [("!", "!"), ("!!", "tag:yaml.org,2002:")]

/-- The full tag for a handle and the rest of a tag. The bare exclamation mark is no tag. -/
def Names.fullTag? (names : Names) (handle rest : String) : Option (Option String) :=
  if handle.isEmpty then some (if rest = "!" then none else some rest)
  else (names.leads.lookup handle).map fun lead => some (lead ++ rest)

/-- A number for a name that is anchored, and the names with it: as many as there are names, so that
names may come to share a number once one of them is anchored again. -/
def Names.anchor (names : Names) (name : String) : Nat × Names :=
  let number := names.anchors.length
  let others := names.anchors.filter (·.1 ≠ name)
  (number, { names with anchors := (name, number) :: others })

/-- Keeps an anchored node that is complete, given the names known where it began. Of nodes that share
a number the one that began last is kept. -/
def Names.keep (names before : Names) (number : Nat) (node : Node) : Names :=
  let since := names.anchored.take (names.anchored.length - before.anchored.length)
  if since.any (·.1 = number) then names
  else { names with anchored := (number, node) :: names.anchored }

/-- The anchor and tag in front of a node, in either order. -/
def takeProperties (names : Names) (tokens : List Token) :
    Option (Option String × Option (Option String) × List Token) :=
  match tokens with
  | .anchor name :: .tag handle rest :: tokens =>
      (names.fullTag? handle rest).map fun tag => (some name, some tag, tokens)
  | .anchor name :: tokens => some (some name, none, tokens)
  | .tag handle rest :: .anchor name :: tokens =>
      (names.fullTag? handle rest).map fun tag => (some name, some tag, tokens)
  | .tag handle rest :: tokens =>
      (names.fullTag? handle rest).map fun tag => (none, some tag, tokens)
  | tokens => some (none, none, tokens)

/-- Where a node stands: in a block, in a block where a sequence need not be indented, or between
brackets. -/
inductive Place
  | block
  | mappingBlock
  | flow
deriving Repr, DecidableEq

/-- Does the next token end an entry of a block mapping? -/
def endsMappingEntry : List Token → Bool
  | .key :: _ | .value :: _ | .blockEnd :: _ => true
  | _ => false

/-- The empty node, if anything was said about it. -/
def ifAnyProperty (properties : Option (Option String)) (names : Names) (tokens : List Token) :
    Option (Node × Names × List Token) :=
  properties.map fun tag => (.scalar tag .plain "", names, tokens)

mutual

/-- The node that the tokens begin with. The first argument bounds the recursion; four times the
number of tokens is enough. -/
def readNode : Nat → Place → Names → List Token → Option (Node × Names × List Token)
  | 0, _, _, _ => none
  | fuel + 1, place, names, tokens =>
      match tokens with
      | .alias name :: rest => do
          let number ← names.anchors.lookup name
          some (.alias number, names, rest)
      | _ => do
          let (anchor, tag, rest) ← takeProperties names tokens
          match anchor with
          | none => readContent fuel place tag names rest
          | some name =>
              let (number, inside) := names.anchor name
              let (node, names, rest) ← readContent fuel place (some (tag.getD none)) inside rest
              some (node, names.keep inside number node, rest)

/-- The node behind its anchor and tag. A node with either of them may be empty. -/
def readContent : Nat → Place →
    Option (Option String) → Names → List Token → Option (Node × Names × List Token)
  | 0, _, _, _, _ => none
  | fuel + 1, place, properties, names, tokens =>
      match place, tokens with
      | .mappingBlock, .blockEntry :: _ => do
          let (items, names, rest) ← readBlockItems fuel true names tokens
          some (.sequence items, names, rest)
      | _, .scalar style text :: rest =>
          some (.scalar (properties.getD none) style text, names, rest)
      | _, .flowSequence :: rest => do
          let (items, names, rest) ← readFlowItems fuel true names rest
          some (.sequence items, names, rest)
      | _, .flowMapping :: rest => do
          let (entries, names, rest) ← readFlowEntries fuel true names rest
          some (.mapping entries, names, rest)
      | .flow, _ => ifAnyProperty properties names tokens
      | _, .blockSequence :: rest => do
          let (items, names, rest) ← readBlockItems fuel false names rest
          some (.sequence items, names, rest)
      | _, .blockMapping :: rest => do
          let (entries, names, rest) ← readBlockEntries fuel names rest
          some (.mapping entries, names, rest)
      | _, _ => ifAnyProperty properties names tokens

/-- The items of a block sequence. One that is not indented ends with the first other token. -/
def readBlockItems : Nat → Bool → Names → List Token → Option (List Node × Names × List Token)
  | 0, _, _, _ => none
  | fuel + 1, unindented, names, tokens =>
      match tokens with
      | .blockEntry :: rest => do
          let isEmpty := match rest with
            | .blockEntry :: _ | .blockEnd :: _ => true
            | .key :: _ | .value :: _ => unindented
            | _ => false
          let (item, names, rest) ←
            if isEmpty then some (emptyNode, names, rest) else readNode fuel .block names rest
          let (items, names, rest) ← readBlockItems fuel unindented names rest
          some (item :: items, names, rest)
      | .blockEnd :: rest => some ([], names, if unindented then tokens else rest)
      | _ => if unindented then some ([], names, tokens) else none

def readBlockEntries : Nat → Names → List Token → Option (List (Node × Node) × Names × List Token)
  | 0, _, _ => none
  | fuel + 1, names, tokens =>
      match tokens with
      | .key :: rest => do
          let (key, names, rest) ←
            if endsMappingEntry rest then some (emptyNode, names, rest)
            else readNode fuel .mappingBlock names rest
          let (value, names, rest) ← match rest with
            | .value :: rest =>
                if endsMappingEntry rest then some (emptyNode, names, rest)
                else readNode fuel .mappingBlock names rest
            | _ => some (emptyNode, names, rest)
          let (entries, names, rest) ← readBlockEntries fuel names rest
          some ((key, value) :: entries, names, rest)
      | .blockEnd :: rest => some ([], names, rest)
      | _ => none

/-- The items between square brackets. A key there makes a mapping of one entry. -/
def readFlowItems : Nat → Bool → Names → List Token → Option (List Node × Names × List Token)
  | 0, _, _, _ => none
  | fuel + 1, isFirst, names, tokens =>
      match isFirst, tokens with
      | _, .flowSequenceEnd :: rest => some ([], names, rest)
      | false, .flowEntry :: .flowSequenceEnd :: rest => some ([], names, rest)
      | false, .flowEntry :: rest => readFlowItem fuel names rest
      | true, _ => readFlowItem fuel names tokens
      | false, _ => none

/-- An item between square brackets, and those behind it. -/
def readFlowItem : Nat → Names → List Token → Option (List Node × Names × List Token)
  | 0, _, _ => none
  | fuel + 1, names, tokens => do
      let (item, names, rest) ← match tokens with
        | .key :: rest => do
            let (key, names, rest) ← match rest with
              | .value :: rest | .flowEntry :: rest | .flowSequenceEnd :: rest =>
                  some (emptyNode, names, rest)
              | _ => readNode fuel .flow names rest
            let (value, names, rest) ← match rest with
              | .value :: .flowEntry :: _ | .value :: .flowSequenceEnd :: _ =>
                  some (emptyNode, names, rest.drop 1)
              | .value :: rest => readNode fuel .flow names rest
              | _ => some (emptyNode, names, rest)
            some (.mapping [(key, value)], names, rest)
        | _ => readNode fuel .flow names tokens
      let (items, names, rest) ← readFlowItems fuel false names rest
      some (item :: items, names, rest)

def readFlowEntries : Nat → Bool → Names → List Token →
    Option (List (Node × Node) × Names × List Token)
  | 0, _, _, _ => none
  | fuel + 1, isFirst, names, tokens =>
      match isFirst, tokens with
      | _, .flowMappingEnd :: rest => some ([], names, rest)
      | false, .flowEntry :: .flowMappingEnd :: rest => some ([], names, rest)
      | false, .flowEntry :: rest => readFlowEntry fuel names rest
      | true, _ => readFlowEntry fuel names tokens
      | false, _ => none

/-- An entry between braces, and those behind it. Without a mark for its key it has no value. -/
def readFlowEntry : Nat → Names → List Token → Option (List (Node × Node) × Names × List Token)
  | 0, _, _ => none
  | fuel + 1, names, tokens => do
      let (key, value, names, rest) ← match tokens with
        | .key :: rest => do
            let (key, names, rest) ← match rest with
              | .value :: _ | .flowEntry :: _ | .flowMappingEnd :: _ =>
                  some (emptyNode, names, rest)
              | _ => readNode fuel .flow names rest
            let (value, names, rest) ← match rest with
              | .value :: .flowEntry :: _ | .value :: .flowMappingEnd :: _ =>
                  some (emptyNode, names, rest.drop 1)
              | .value :: rest => readNode fuel .flow names rest
              | _ => some (emptyNode, names, rest)
            some (key, value, names, rest)
        | _ => do
            let (key, names, rest) ← readNode fuel .flow names tokens
            some (key, emptyNode, names, rest)
      let (entries, names, rest) ← readFlowEntries fuel false names rest
      some ((key, value) :: entries, names, rest)

end

/-- The handles that the directives at the head define, and the tokens behind them. The version may
be given once, and must be 1.1 or 1.2; a handle may be defined once. -/
def readDirectives : List Token → Bool → List (String × String) →
    Option (List (String × String) × Bool × List Token)
  | .version major minor :: rest, versionSeen, leads =>
      if versionSeen ∨ major ≠ 1 ∨ (minor ≠ 1 ∧ minor ≠ 2) then none
      else (readDirectives rest true leads).map fun (leads, _, rest) => (leads, true, rest)
  | .tagLead handle lead :: rest, versionSeen, leads =>
      if (leads.lookup handle).isSome then none
      else (readDirectives rest versionSeen ((handle, lead) :: leads)).map
        fun (leads, _, rest) => (leads, true, rest)
  | tokens, _, leads => some (leads, false, tokens)

def onlyEnds (tokens : List Token) : Bool :=
  tokens.all (· = .documentEnd)

/-- Does the content of a document end before it begins? -/
def isNoContent : List Token → Bool
  | [] | .documentStart :: _ | .documentEnd :: _ | .version _ _ :: _ | .tagLead _ _ :: _ => true
  | _ => false

/-- The document that the tokens make up; there must be at most one. -/
def Document.ofTokens? (tokens : List Token) : Option Document := do
  let (leads, anyDirective, rest) ← readDirectives tokens false []
  let names : Names := ⟨leads ++ standardLeads, [], []⟩
  let fuel := 4 * tokens.length + 4
  match anyDirective, rest with
  | false, [] => some ⟨none, []⟩
  | _, .documentStart :: rest =>
      if isNoContent rest then
        if onlyEnds rest then some ⟨some emptyNode, []⟩ else none
      else finish (← readNode fuel .block names rest)
  | false, rest => finish (← readNode fuel .block names rest)
  | true, _ => none
where
  finish : Node × Names × List Token → Option Document
    | (node, names, rest) => if onlyEnds rest then some ⟨some node, names.anchored⟩ else none

def Document.read? (text : String) : Option Document := do
  Document.ofTokens? (← tokens? text.toList)

/-- The node that an alias stands for; every other node stands for itself. -/
def Document.resolve (document : Document) : Node → Option Node
  | .alias number => document.anchored.lookup number
  | node => some node

end Muster.Yaml
