import GlyphGloss.Text.Basic
import GlyphGloss.Number.Binary64

/-!
# Setting values

The values that a settings document can hold: scalars, lists, tuples, sets of scalars, and mappings
whose keys are scalars. A mapping keeps its entries in order, and no two of its keys are the same
value. Scalars are the missing value, truth values, numbers, texts, bytes, and values such as dates,
of which settings make no use of their own.

## Main definitions

* `Stamp`, `Scalar`, `Value`: the values, with the patterns `Value.null`, `Value.bool`,
  `Value.int`, `Value.float`, `Value.text`, `Value.bytes` and `Value.stamp`.
* `Scalar.same`: equality of values, across numeric types.
* `Value.insertEntry`: an entry added to a mapping, the last one winning.
* `Value.get?`, `Value.at?`: the value under a key, and under a path of keys.
* `Value.isTruthy`: the values that count as set.
* `Value.elements?`: the values that iterating over a value gives.
* `Value.sequence?`: the items of a value that has its items in places.
* `Value.kind`, `Value.fullKind`: the name of a value's type.

## Main results

* `Value.elements?_of_sequence?`: iterating over a value gives its items.
-/

namespace GlyphGloss

/-- A value of a type of its own, such as a date, by its type and the ways in which it is written.
It counts as set, is no number, and has no elements. -/
structure Stamp where
  /-- The name of its type. -/
  kind : String
  /-- The name of its type behind that of its module. -/
  fullKind : String
  /-- Its literal form. -/
  literal : Text
  /-- Its plain form. -/
  plain : Text
deriving DecidableEq

/-- A value without parts. -/
inductive Scalar where
  /-- The missing value. -/
  | null
  | bool (b : Bool)
  | int (n : Int)
  | float (x : Binary64)
  | text (t : Text)
  | bytes (bs : List UInt8)
  | stamp (x : Stamp)
deriving DecidableEq

namespace Scalar

/-- The whole number that a truth value or a whole number counts as. -/
def toInt? : Scalar → Option Int
  | .bool b => some (if b then 1 else 0)
  | .int n => some n
  | _ => none

/-- Equality of values: numbers of different types are compared by value, and a truth value counts
as zero or one. -/
def same : Scalar → Scalar → Bool
  | .null, .null => true
  | .text s, .text t => s == t
  | .bytes s, .bytes t => s == t
  | .stamp x, .stamp y => x == y
  | .float x, .float y => x.same y
  | .float x, y => y.toInt?.any x.equalsInt
  | x, .float y => x.toInt?.any y.equalsInt
  | x, y =>
    match x.toInt?, y.toInt? with
    | some m, some n => m == n
    | _, _ => false

end Scalar

/-- A value of a settings document. -/
inductive Value where
  /-- A value without parts. -/
  | scalar (s : Scalar)
  /-- A list of values. -/
  | list (items : List Value)
  /-- A list of values that does not change. -/
  | tuple (items : List Value)
  /-- A set of scalars, in the order in which iterating over it gives them. -/
  | set (items : List Scalar)
  /-- A mapping, with its entries in order. -/
  | mapping (entries : List (Scalar × Value))

namespace Value

instance : Inhabited Value := ⟨.scalar .null⟩

/-- The missing value. -/
@[match_pattern]
abbrev null : Value := .scalar .null

/-- A truth value. -/
@[match_pattern]
abbrev bool (b : Bool) : Value := .scalar (.bool b)

/-- A whole number. -/
@[match_pattern]
abbrev int (n : Int) : Value := .scalar (.int n)

/-- A floating-point number. -/
@[match_pattern]
abbrev float (x : Binary64) : Value := .scalar (.float x)

/-- A text. -/
@[match_pattern]
abbrev text (t : Text) : Value := .scalar (.text t)

/-- Bytes. -/
@[match_pattern]
abbrev bytes (bs : List UInt8) : Value := .scalar (.bytes bs)

/-- A value of a type of its own. -/
@[match_pattern]
abbrev stamp (x : Stamp) : Value := .scalar (.stamp x)

/-- The name of a value's type. -/
def kind : Value → String
  | .null => "NoneType"
  | .bool _ => "bool"
  | .int _ => "int"
  | .float _ => "float"
  | .text _ => "str"
  | .bytes _ => "bytes"
  | .stamp x => x.kind
  | .list _ => "list"
  | .tuple _ => "tuple"
  | .set _ => "set"
  | .mapping _ => "dict"

/-- The name of a value's type behind that of its module, where it has one. -/
def fullKind : Value → String
  | .stamp x => x.fullKind
  | v => v.kind

/-- The entries with the value under a key replaced, or with a new entry at the end. -/
def insertEntry (k : Scalar) (v : Value) : List (Scalar × Value) → List (Scalar × Value)
  | [] => [(k, v)]
  | (k', v') :: rest => if k.same k' then (k', v) :: rest else (k', v') :: insertEntry k v rest

/-- The mapping with these entries, where of two entries with one key the first gives the place
and the last gives the value. -/
def ofEntries (entries : List (Scalar × Value)) : Value :=
  .mapping (entries.foldl (fun acc (k, v) => insertEntry k v acc) [])

/-- The value under a text key of a list of entries. -/
def find? (key : Text) : List (Scalar × Value) → Option Value
  | [] => none
  | (.text t, v) :: rest => if t = key then some v else find? key rest
  | _ :: rest => find? key rest

/-- The value under a text key of a mapping. -/
def get? (v : Value) (key : Text) : Option Value :=
  match v with
  | .mapping entries => find? key entries
  | _ => none

/-- The value under a path of keys. -/
def at? : Value → List Text → Option Value
  | v, [] => some v
  | v, key :: rest => (v.get? key).bind fun next => next.at? rest

/-- The value under a key, where the missing value counts as absent. -/
def present? (v : Value) (key : Text) : Option Value :=
  match v.get? key with
  | some .null => none
  | found => found

/-- The values that count as set: neither missing, false, zero nor empty. -/
def isTruthy : Value → Bool
  | .null => false
  | .bool b => b
  | .int n => n != 0
  | .float x => !x.isZero
  | .text t => !t.isEmpty
  | .bytes bs => !bs.isEmpty
  | .stamp _ => true
  | .list items => !items.isEmpty
  | .tuple items => !items.isEmpty
  | .set items => !items.isEmpty
  | .mapping entries => !entries.isEmpty

/-- The values that iterating over a value gives: the code points of a text, the numbers of bytes,
the items of a list, a tuple or a set, and the keys of a mapping. -/
def elements? : Value → Option (List Value)
  | .text t => some (t.map fun c => .text [c])
  | .bytes bs => some (bs.map fun b => .int b.toNat)
  | .list items => some items
  | .tuple items => some items
  | .set items => some (items.map .scalar)
  | .mapping entries => some (entries.map fun (k, _) => .scalar k)
  | _ => none

/-- The items of a value that has its items in places: of a list, a tuple or bytes. A text does not
count as one. -/
def sequence? : Value → Option (List Value)
  | .bytes bs => some (bs.map fun b => .int b.toNat)
  | .list items => some items
  | .tuple items => some items
  | _ => none

/-- Iterating over a value gives its items. -/
theorem elements?_of_sequence? {v : Value} {items : List Value} (h : v.sequence? = some items) :
    v.elements? = some items := by
  unfold sequence? at h
  split at h
  · exact h
  · exact h
  · exact h
  · cases h

end Value

end GlyphGloss
