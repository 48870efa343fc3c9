import GlyphGloss.Yaml.Node
import GlyphGloss.Yaml.Scalar

/-!
# Documents

A settings document is a text of printable code points with one node, whose value is the value of
the document; without a node the value is missing. The keys of a mapping have to be scalars. The
nodes are looked at level by level, so that of several faults the one closest to the root counts,
and of those on one level the first.

A document that is read from a file comes in pieces. A fault of the file, be it a code point that
documents cannot hold or bytes that are no text, is met when reading gets to its piece; a fault
before it comes first.

## Main definitions

* `Yaml.isAllowed`: the code points of documents.
* `Yaml.Node.value`: the value of a node without faults.
* `Yaml.Node.levels`, `Yaml.Node.fault?`: the nodes level by level, and the first fault in them.
* `Yaml.Source`, `Yaml.load`: the pieces of a document, and its value.
* `Yaml.Source.ofText`: a document in one piece.
-/

namespace GlyphGloss.Yaml

/-- The code points that a document may hold. -/
def isAllowed (c : Char) : Bool :=
  let n := c.toNat
  n == 0x09 || n == 0x0A || n == 0x0D || (0x20 ≤ n && n ≤ 0x7E) || n == 0x85 ||
    (0xA0 ≤ n && n ≤ 0xD7FF) || (0xE000 ≤ n && n ≤ 0xFFFD) || 0x10000 ≤ n

namespace Node

/-- The text of the plain scalar that stands for the default key of a mapping. -/
def defaultKey : Text := ['=']

/-- The text of the plain scalar that stands for the keys of another mapping. -/
def mergeKey : Text := ['<', '<']

/-! ### Faults -/

/-- The value of a node that is a scalar. The scalars that stand for keys of other mappings have no
value. -/
def scalarValue : Node → Except Fault Scalar
  | .scalar false t => .ok (.text t)
  | .scalar true t => if t = defaultKey ∨ t = mergeKey then .error .malformed else resolve t
  | _ => .error .malformed

/-- The value of a node that is a key, which has to be a scalar. -/
def keyValue : Node → Except Fault Scalar
  | .scalar true t => if t = defaultKey then .ok (.text t) else scalarValue (.scalar true t)
  | n => scalarValue n

/-- Whether a node is the scalar that stands for the keys of another mapping. -/
def isMerge : Node → Bool
  | .scalar true t => t == mergeKey
  | _ => false

/-- The fault of a result. -/
def faultOf {α : Type} : Except Fault α → Option Fault
  | .ok _ => none
  | .error cause => some cause

/-- The fault of a node that is a scalar. -/
def scalarFault? (n : Node) : Option Fault :=
  match n with
  | .scalar _ _ => faultOf n.scalarValue
  | _ => none

/-- The first fault among the keys and scalars that stand directly in a node. -/
def ownFault? : Node → Option Fault
  | .scalar _ _ => none
  | .sequence items => items.findSome? scalarFault?
  | .mapping entries =>
    if entries.any fun (k, _) => k.isMerge then some .malformed
    else entries.findSome? fun (k, n) => (faultOf k.keyValue).or n.scalarFault?

/-- Levels joined one by one. -/
def joinLevels : List (List Node) → List (List Node) → List (List Node)
  | [], more => more
  | levels, [] => levels
  | level :: levels, next :: more => (level ++ next) :: joinLevels levels more

mutual

/-- A node, the nodes directly in it, the nodes in those, and so on. -/
def levels : Node → List (List Node)
  | .scalar plain t => [[.scalar plain t]]
  | .sequence items => [.sequence items] :: itemLevels items
  | .mapping entries => [.mapping entries] :: entryLevels entries

/-- The levels of items. -/
def itemLevels : List Node → List (List Node)
  | [] => []
  | n :: rest => joinLevels (levels n) (itemLevels rest)

/-- The levels of the values of entries. -/
def entryLevels : List (Node × Node) → List (List Node)
  | [] => []
  | (_, n) :: rest => joinLevels (levels n) (entryLevels rest)

end

/-- The first fault in a node, level by level. -/
def fault? (n : Node) : Option Fault :=
  n.scalarFault?.or (n.levels.flatten.findSome? ownFault?)

/-! ### Values -/

/-- A scalar, the missing value if it has a fault. -/
def orNull : Except Fault Scalar → Scalar
  | .ok s => s
  | .error _ => .null

mutual

/-- The value of a node without faults. -/
def value : Node → Value
  | .scalar plain t => .scalar (orNull (scalarValue (.scalar plain t)))
  | .sequence items => .list (values items)
  | .mapping entries => .ofEntries (entryValues entries)

/-- The values of nodes in order. -/
def values : List Node → List Value
  | [] => []
  | n :: rest => value n :: values rest

/-- The keys and values of the entries of a mapping in order. -/
def entryValues : List (Node × Node) → List (Scalar × Value)
  | [] => []
  | (k, n) :: rest => (orNull k.keyValue, value n) :: entryValues rest

end

end Node

/-- A document in pieces, which a fault of its file may cut off. -/
structure Source where
  /-- The pieces that can be read. -/
  pieces : List Text
  /-- The fault of the file behind them. -/
  cut : Option Fault := none

/-- A document in one piece. -/
def Source.ofText (t : Text) : Source :=
  { pieces := [t] }

/-- The pieces before the first one with a code point that documents cannot hold. -/
def Source.allowed (s : Source) : Source :=
  let pieces := s.pieces.takeWhile (·.all isAllowed)
  { pieces, cut := if pieces.length < s.pieces.length then some .malformed else s.cut }

/-- The value of a document. -/
def load (s : Source) : Except Fault Value := do
  let s := s.allowed
  match ← Node.ofTokens (tokens s.pieces.flatten s.cut) with
  | some node =>
    match node.fault? with
    | some cause => throw cause
    | none => return node.value
  | none => return .null

end GlyphGloss.Yaml
