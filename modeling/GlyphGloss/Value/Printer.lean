import GlyphGloss.Value.Basic
import GlyphGloss.Number.Shortest
import GlyphGloss.Text.Quoted

/-!
# Printed forms of setting values

A value is shown in messages in its literal form: texts and bytes are quoted, lists stand in
brackets, tuples in parentheses, sets and mappings in braces. The plain form differs from it for a
text, which stands for itself, and for a value with a plain form of its own. A value with a whole
number of too many digits is not shown in messages.

## Main definitions

* `Value.literal`, `Value.plain`: the two forms.
* `Value.isWritable`: whether a value is shown in messages.
-/

namespace GlyphGloss

/-- The literal form of a scalar. -/
def Scalar.literal : Scalar → Text
  | .null => "None".toList
  | .bool true => "True".toList
  | .bool false => "False".toList
  | .int n => Text.ofInt n
  | .float x => x.text
  | .text t => t.quoted
  | .bytes bs => Text.quotedBytes bs
  | .stamp x => x.literal

/-- Whether a scalar is no whole number with too many digits to be written. -/
def Scalar.isWritable : Scalar → Bool
  | .int n => Numeral.isWritable n
  | _ => true

namespace Value

/-- The separator between the parts of a list or a mapping. -/
def comma : Text := [',', ' ']

/-- What stands between the parentheses of a tuple: a single item has a comma behind it. -/
def tupleBody : List Text → Text
  | [form] => form ++ [',']
  | forms => Text.join comma forms

/-- The literal form of a set of scalars. -/
def setLiteral (items : List Scalar) : Text :=
  if items.isEmpty then "set()".toList
  else '\x7b' :: Text.join comma (items.map (·.literal)) ++ ['\x7d']

mutual

/-- The literal form of a value. -/
def literal : Value → Text
  | .scalar s => s.literal
  | .list items => '[' :: Text.join comma (literals items) ++ [']']
  | .tuple items => '(' :: tupleBody (literals items) ++ [')']
  | .set items => setLiteral items
  | .mapping entries => '\x7b' :: Text.join comma (entryLiterals entries) ++ ['\x7d']

/-- The literal forms of values in order. -/
def literals : List Value → List Text
  | [] => []
  | v :: rest => literal v :: literals rest

/-- The literal forms of entries in order. -/
def entryLiterals : List (Scalar × Value) → List Text
  | [] => []
  | (k, v) :: rest => (k.literal ++ [':', ' '] ++ literal v) :: entryLiterals rest

end

/-- The plain form of a value. -/
def plain : Value → Text
  | .text t => t
  | .stamp x => x.plain
  | v => v.literal

mutual

/-- Whether all whole numbers in a value have few enough digits to be written. -/
def isWritable : Value → Bool
  | .scalar s => s.isWritable
  | .list items => areWritable items
  | .tuple items => areWritable items
  | .set items => items.all (·.isWritable)
  | .mapping entries => entriesWritable entries

/-- Whether values are all shown in messages. -/
def areWritable : List Value → Bool
  | [] => true
  | v :: rest => isWritable v && areWritable rest

/-- Whether the keys and values of entries are all shown in messages. -/
def entriesWritable : List (Scalar × Value) → Bool
  | [] => true
  | (k, v) :: rest => k.isWritable && isWritable v && entriesWritable rest

end

end Value

end GlyphGloss
