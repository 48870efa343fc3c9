import GlyphGloss.Yaml.Token

/-!
# Nodes of a document

The tokens of a document make up one node: a scalar, a sequence, or a mapping whose keys are nodes
themselves. A missing key, item or value is the empty plain scalar.

## Main definitions

* `Yaml.Node`: the nodes.
* `Yaml.Node.parse`: one node from the tokens that start with it, and the tokens behind it.
* `Yaml.Node.ofTokens`: the node of a document, if it has one.
-/

namespace GlyphGloss.Yaml

/-- A node of a document. -/
inductive Node where
  | scalar (plain : Bool) (text : Text)
  | sequence (items : List Node)
  | mapping (entries : List (Node × Node))

namespace Node

/-- What a missing node is. -/
def empty : Node :=
  .scalar true []

/-- What is wrong where a token does not fit. -/
def misfit : List Token → Fault
  | .fault cause :: _ => cause
  | _ => .malformed

/-- Whether the first token is one of some tokens. -/
def startsWith (tokens : List Token) (choices : List Token) : Bool :=
  match tokens with
  | t :: _ => choices.contains t
  | [] => false

mutual

/-- One node. Outside flow collections it can be a block, and behind a key or a value also a row of
items without indentation of its own. -/
def parse : (fuel : Nat) → (block bare : Bool) → List Token → Except Fault (Node × List Token)
  | 0, _, _, _ => .error .malformed
  | fuel + 1, block, bare, tokens =>
    match tokens with
    | .scalar plain text :: rest => .ok (.scalar plain text, rest)
    | .flowSequenceStart :: rest => do
      let (items, rest) ← flowItems fuel true rest
      return (.sequence items, rest)
    | .flowMappingStart :: rest => do
      let (entries, rest) ← flowEntries fuel true rest
      return (.mapping entries, rest)
    | .blockSequenceStart :: rest =>
      if block then do
        let (items, rest) ← blockItems fuel rest
        return (.sequence items, rest)
      else .error .malformed
    | .blockMappingStart :: rest =>
      if block then do
        let (entries, rest) ← blockEntries fuel rest
        return (.mapping entries, rest)
      else .error .malformed
    | .blockEntry :: _ =>
      if bare then do
        let (items, rest) ← bareItems fuel tokens
        return (.sequence items, rest)
      else .error .malformed
    | _ => .error (misfit tokens)

/-- One node, which is missing if the next token is one of some tokens. -/
def parseUnless : (fuel : Nat) → (block bare : Bool) → (stops : List Token) → List Token →
    Except Fault (Node × List Token)
  | 0, _, _, _, _ => .error .malformed
  | fuel + 1, block, bare, stops, tokens =>
    if startsWith tokens stops then .ok (empty, tokens) else parse fuel block bare tokens

/-- The value behind a key, missing without the mark of a value. -/
def parseValue : (fuel : Nat) → (block : Bool) → (stops : List Token) → List Token →
    Except Fault (Node × List Token)
  | 0, _, _, _ => .error .malformed
  | fuel + 1, block, stops, tokens =>
    match tokens with
    | .value :: rest => parseUnless fuel block block stops rest
    | _ => .ok (empty, tokens)

/-- The items of a block. -/
def blockItems : (fuel : Nat) → List Token → Except Fault (List Node × List Token)
  | 0, _ => .error .malformed
  | fuel + 1, tokens =>
    match tokens with
    | .blockEntry :: rest => do
      let (item, rest) ← parseUnless fuel true false [.blockEntry, .blockEnd] rest
      let (items, rest) ← blockItems fuel rest
      return (item :: items, rest)
    | .blockEnd :: rest => .ok ([], rest)
    | _ => .error (misfit tokens)

/-- The items of a row without indentation of its own. -/
def bareItems : (fuel : Nat) → List Token → Except Fault (List Node × List Token)
  | 0, _ => .error .malformed
  | fuel + 1, tokens =>
    match tokens with
    | .blockEntry :: rest => do
      let (item, rest) ← parseUnless fuel true false [.blockEntry, .key, .value, .blockEnd] rest
      let (items, rest) ← bareItems fuel rest
      return (item :: items, rest)
    | _ => .ok ([], tokens)

/-- The keys and values of a block. -/
def blockEntries : (fuel : Nat) → List Token → Except Fault (List (Node × Node) × List Token)
  | 0, _ => .error .malformed
  | fuel + 1, tokens =>
    match tokens with
    | .key :: rest => do
      let stops := [.key, .value, .blockEnd]
      let (key, rest) ← parseUnless fuel true true stops rest
      let (value, rest) ← parseValue fuel true stops rest
      let (entries, rest) ← blockEntries fuel rest
      return ((key, value) :: entries, rest)
    | .blockEnd :: rest => .ok ([], rest)
    | _ => .error (misfit tokens)

/-- The items of a flow sequence, separated by commas. A key makes its item a mapping of one
entry. -/
def flowItems : (fuel : Nat) → (first : Bool) → List Token →
    Except Fault (List Node × List Token)
  | 0, _, _ => .error .malformed
  | fuel + 1, first, tokens =>
    match tokens with
    | .flowSequenceEnd :: rest => .ok ([], rest)
    | _ => do
      let tokens ←
        if first then pure tokens
        else
          match tokens with
          | .flowEntry :: rest => pure rest
          | _ => throw (misfit tokens)
      match tokens with
      | .flowSequenceEnd :: rest => return ([], rest)
      | .key :: rest =>
        let (key, rest) ← parseUnless fuel false false [.value, .flowEntry, .flowSequenceEnd] rest
        let (value, rest) ← parseValue fuel false [.flowEntry, .flowSequenceEnd] rest
        let (items, rest) ← flowItems fuel false rest
        return (.mapping [(key, value)] :: items, rest)
      | _ =>
        let (item, rest) ← parse fuel false false tokens
        let (items, rest) ← flowItems fuel false rest
        return (item :: items, rest)

/-- The entries of a flow mapping, separated by commas. A node without the mark of a key is a key
without a value. -/
def flowEntries : (fuel : Nat) → (first : Bool) → List Token →
    Except Fault (List (Node × Node) × List Token)
  | 0, _, _ => .error .malformed
  | fuel + 1, first, tokens =>
    match tokens with
    | .flowMappingEnd :: rest => .ok ([], rest)
    | _ => do
      let tokens ←
        if first then pure tokens
        else
          match tokens with
          | .flowEntry :: rest => pure rest
          | _ => throw (misfit tokens)
      match tokens with
      | .flowMappingEnd :: rest => return ([], rest)
      | .key :: rest =>
        let (key, rest) ← parseUnless fuel false false [.value, .flowEntry, .flowMappingEnd] rest
        let (value, rest) ← parseValue fuel false [.flowEntry, .flowMappingEnd] rest
        let (entries, rest) ← flowEntries fuel false rest
        return ((key, value) :: entries, rest)
      | _ =>
        let (key, rest) ← parse fuel false false tokens
        let (entries, rest) ← flowEntries fuel false rest
        return ((key, empty) :: entries, rest)

end

/-- The tokens behind the markers of a document's end. -/
def dropEnds : List Token → List Token
  | .documentEnd :: rest => dropEnds rest
  | tokens => tokens

/-- The node of a document whose content starts here. Nothing but markers of its end may follow. -/
def content (tokens : List Token) : Except Fault (Option Node) := do
  let (node, rest) ← parse (3 * tokens.length + 3) true false tokens
  match dropEnds rest with
  | .streamEnd :: _ => return some node
  | rest => throw (misfit rest)

/-- The node of a document, if it has one. -/
def ofTokens (tokens : List Token) : Except Fault (Option Node) :=
  match tokens with
  | .streamEnd :: _ => .ok none
  | .documentStart :: rest =>
    if startsWith rest [.documentStart, .documentEnd, .streamEnd] then
      match dropEnds rest with
      | .streamEnd :: _ => .ok (some empty)
      | rest => .error (misfit rest)
    else content rest
  | _ => content tokens

end Node

end GlyphGloss.Yaml
