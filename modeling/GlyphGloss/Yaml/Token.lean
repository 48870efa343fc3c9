import GlyphGloss.Yaml.Flow

/-!
# Tokens of a document

A document is read as a row of tokens: the scalars, the marks between them, and the starts and ends
of blocks, which its indentation gives. A scalar or flow collection becomes the key of a mapping
only when the mark of a value turns up behind it, on the same line and not too far on; until then
its place is kept as that of a possible key. A possible key that starts a line of a block mapping
has to become one. A document can be cut off by a fault in its file, which is met when reading gets
there.

## Main definitions

* `Yaml.Token`: the tokens.
* `Yaml.Lexer`: how far a document was read.
* `Yaml.Lexer.next`: one more step.
* `Yaml.Lexer.settled`: the tokens that no possible key can still change.
* `Yaml.tokens`: all tokens of a document, the last of which is its end or a fault.
-/

namespace GlyphGloss.Yaml

/-- The tokens of a document. -/
inductive Token where
  | documentStart
  | documentEnd
  | blockSequenceStart
  | blockMappingStart
  | blockEnd
  | flowSequenceStart
  | flowSequenceEnd
  | flowMappingStart
  | flowMappingEnd
  /-- The hyphen of an item. -/
  | blockEntry
  /-- The comma between items. -/
  | flowEntry
  /-- The mark of a key. -/
  | key
  /-- The colon of a value. -/
  | value
  | scalar (plain : Bool) (text : Text)
  | streamEnd
  /-- What cannot be read on. -/
  | fault (cause : Fault)
deriving DecidableEq, Repr

/-- The place of a possible key. -/
structure KeyPlace where
  /-- The number of tokens before it. -/
  before : Nat
  /-- Whether it has to become a key. -/
  required : Bool
  /-- The number of code points before it. -/
  index : Nat
  /-- The number of lines before it. -/
  line : Nat
  /-- The number of columns before it. -/
  column : Nat

/-- How far a document was read. -/
structure Lexer where
  /-- The place in the document. -/
  cursor : Cursor
  /-- The indentation of the block, `-1` outside all blocks. -/
  indent : Int := -1
  /-- The indentations of the blocks around. -/
  outer : List Int := []
  /-- Whether a key may start here. -/
  keyAllowed : Bool := true
  /-- The possible keys, one for each flow collection and one for the block around. -/
  keys : List (Option KeyPlace) := [none]
  /-- The tokens, the last one first. -/
  tokens : List Token := []
  /-- The number of tokens. -/
  count : Nat := 0
  /-- The fault that cuts off the document at its end, if there is one. -/
  cut : Option Fault := none

namespace Lexer

/-- Whether the place is inside a flow collection. -/
def inFlow (l : Lexer) : Bool :=
  l.keys.length != 1

/-- The column of the place. -/
def column (l : Lexer) : Nat :=
  l.cursor.column

/-- With one more token. -/
def push (l : Lexer) (t : Token) : Lexer :=
  { l with tokens := t :: l.tokens, count := l.count + 1 }

/-- With a token of `n` code points read. -/
def pushSkip (l : Lexer) (n : Nat) (t : Token) : Lexer :=
  { l.push t with cursor := l.cursor.skip n }

/-- With a token put behind the first `before` tokens. -/
def insert (l : Lexer) (before : Nat) (t : Token) : Lexer :=
  let (later, earlier) := l.tokens.splitAt (l.count - before)
  { l with tokens := later ++ t :: earlier, count := l.count + 1 }

/-! ### Indentation -/

/-- The ends of the blocks that are indented deeper than a column. -/
def closeBlocks (column : Int) : (outer : List Int) → Lexer → Lexer
  | [], l => l
  | around :: outer, l =>
    if column < l.indent then
      closeBlocks column outer { l.push .blockEnd with indent := around, outer := outer }
    else l

/-- With the blocks closed that are indented deeper than a column. Flow collections close none. -/
def unwind (l : Lexer) (column : Int) : Lexer :=
  if l.inFlow then l else closeBlocks column l.outer l

/-- With a block opened at a column, and whether there was none yet. -/
def openBlock (l : Lexer) (column : Nat) : Lexer × Bool :=
  if l.indent < column then ({ l with indent := column, outer := l.indent :: l.outer }, true)
  else (l, false)

/-! ### Possible keys -/

/-- The number of code points after which a key has to have its value. -/
def keyReach : Nat := 1024

/-- A possible key at a later place: gone if its line is over or it is too far behind. -/
def KeyPlace.age (c : Cursor) : Option KeyPlace → Except Fault (Option KeyPlace)
  | none => .ok none
  | some k =>
    if k.line ≠ c.line ∨ c.index - k.index > keyReach then
      if k.required then .error .malformed else .ok none
    else .ok (some k)

/-- Without the possible keys that are too old. -/
def dropOldKeys (l : Lexer) : Except Fault Lexer := do
  let keys ← l.keys.mapM (KeyPlace.age l.cursor)
  return { l with keys }

/-- Without the possible key of this collection, which must not be required. -/
def dropKey (l : Lexer) : Except Fault Lexer :=
  match l.keys with
  | some k :: keys => if k.required then .error .malformed else .ok { l with keys := none :: keys }
  | _ => .ok l

/-- With a possible key at this place, if one may start here. -/
def saveKey (l : Lexer) : Except Fault Lexer :=
  if l.keyAllowed then do
    let required := !l.inFlow && l.indent == l.column
    let l ← l.dropKey
    let c := l.cursor
    let k : KeyPlace := ⟨l.count, required, c.index, c.line, c.column⟩
    return { l with keys := some k :: l.keys.drop 1 }
  else .ok l

/-! ### Between tokens -/

/-- The place behind blanks and comments, and whether they hold a line break. -/
def skipBlanks : (fuel : Nat) → Cursor → Cursor × Bool
  | 0, c => (c, false)
  | fuel + 1, c =>
    let c := c.skipSpaces
    let c :=
      if c.peek 0 = some '#' then c.skip (c.rest.takeWhile (!isBreak ·)).length else c
    match c.takeBreak with
    | none => (c, false)
    | some (_, c) => ((skipBlanks fuel c).1, true)

/-- At the next token. Behind a line break of a block a key may start. -/
def toNextToken (l : Lexer) : Lexer :=
  let c := if l.cursor.index = 0 ∧ l.cursor.peek 0 = some '\uFEFF' then l.cursor.skip 1
    else l.cursor
  let (c, broken) := skipBlanks (c.left + 1) c
  { l with cursor := c, keyAllowed := l.keyAllowed || (broken && !l.inFlow) }

/-! ### Tokens -/

/-- A place from which some code points can be read, if the document is not cut off before. -/
def reach (l : Lexer) (count : Nat) : Except Fault Lexer :=
  match l.cut with
  | some cause => if l.cursor.left < count then .error cause else .ok l
  | none => .ok l

/-- A marker between documents. -/
def marker (l : Lexer) (t : Token) : Except Fault Lexer := do
  let l ← (l.unwind (-1)).dropKey
  return { l.pushSkip 3 t with keyAllowed := false }

/-- The opening mark of a flow collection. -/
def flowStart (l : Lexer) (t : Token) : Except Fault Lexer := do
  let l ← l.saveKey
  return { l.pushSkip 1 t with keys := none :: l.keys, keyAllowed := true }

/-- The closing mark of a flow collection. -/
def flowEnd (l : Lexer) (t : Token) : Except Fault Lexer := do
  let l ← (← l.dropKey).reach 2
  match l.keys with
  | _ :: k :: keys => return { l.pushSkip 1 t with keys := k :: keys, keyAllowed := false }
  | _ => throw .malformed

/-- The comma between items of a flow collection. -/
def flowEntry (l : Lexer) : Except Fault Lexer := do
  let l ← l.dropKey
  return { l.pushSkip 1 .flowEntry with keyAllowed := true }

/-- The mark of an item, or of a key, with the start of its block if it is the first one. -/
def blockMark (l : Lexer) (start mark : Token) (keyAllowed : Bool) : Except Fault Lexer := do
  let l ←
    if l.inFlow then pure l
    else if !l.keyAllowed then throw .malformed
    else
      let (l, opened) := l.openBlock l.column
      pure (if opened then l.push start else l)
  let l ← l.dropKey
  return { l.pushSkip 1 mark with keyAllowed }

/-- The colon of a value. Behind a possible key it makes it one; elsewhere it stands for itself. -/
def value (l : Lexer) : Except Fault Lexer :=
  match l.keys with
  | some k :: keys =>
    let l := { l.insert k.before .key with keys := none :: keys, keyAllowed := false }
    let l :=
      if l.inFlow then l
      else
        let (l, opened) := l.openBlock k.column
        if opened then l.insert k.before .blockMappingStart else l
    .ok (l.pushSkip 1 .value)
  | _ => l.blockMark .blockMappingStart .value (!l.inFlow)

/-- A scalar in quotes. -/
def quoted (l : Lexer) (double : Bool) : Except Fault Lexer := do
  let l ← l.saveKey
  let (text, cursor) ← quotedScalar double l.cursor
  return { l.push (.scalar false text) with cursor, keyAllowed := false }

/-- A plain scalar. -/
def plain (l : Lexer) : Except Fault Lexer := do
  let l ← l.saveKey
  let found := plainScalar l.inFlow l.indent l.cursor
  let l := { l.push (.scalar true found.text) with
    cursor := found.cursor, keyAllowed := found.broken }
  l.reach found.lookahead

/-- Whether a plain scalar can start with a code point before another one. -/
def startsPlain (inFlow : Bool) (c : Char) (next : Option Char) : Bool :=
  !(isSpaceOrEnd (some c) || "-?:,[]\x7b\x7d#&*!|>'\"%@\x60".toList.contains c) ||
    (!isSpaceOrEnd next && (c == '-' || (!inFlow && (c == '?' || c == ':'))))

/-- The token that starts with a code point. -/
def token (l : Lexer) (c : Char) : Except Fault Lexer :=
  let next := l.cursor.peek 1
  let apart := isSpaceOrEnd next
  if l.column = 0 ∧ l.cursor.atMarker then
    l.marker (if c = '-' then .documentStart else .documentEnd)
  else if c = '[' then l.flowStart .flowSequenceStart
  else if c = '{' then l.flowStart .flowMappingStart
  else if c = ']' then l.flowEnd .flowSequenceEnd
  else if c = '}' then l.flowEnd .flowMappingEnd
  else if c = ',' then l.flowEntry
  else if c = '-' ∧ apart then l.blockMark .blockSequenceStart .blockEntry true
  else if c = '?' ∧ (l.inFlow ∨ apart) then l.blockMark .blockMappingStart .key (!l.inFlow)
  else if c = ':' ∧ (l.inFlow ∨ apart) then l.value
  else if c = '\'' then l.quoted false
  else if c = '"' then l.quoted true
  else if startsPlain l.inFlow c next then l.plain
  else .error .malformed

/-- The end of the document. -/
def finish (l : Lexer) : Except Fault Lexer :=
  (l.unwind (-1)).dropKey

/-- The number of code points that tell which token starts with a code point. -/
def lookahead (l : Lexer) (c : Char) : Nat :=
  if l.column = 0 ∧ l.cursor.atMarker then 4
  else if l.column = 0 ∧ (c = '-' ∨ c = '.') then 3
  else if "-\t|>%@\x60".toList.contains c ∨ (!l.inFlow ∧ (c = '?' ∨ c = ':')) then 2
  else 1

/-- The fault that a fault in the text comes to: that of the file if a scalar is cut off. -/
def faultOf (l : Lexer) : Fault → Fault
  | .unfinished => l.cut.getD .unfinished
  | cause => cause

/-- One more step: to the next token, or to the end, where there is no next step. -/
def next (l : Lexer) : Except Fault (Lexer × Bool) := do
  let l ← (← l.toNextToken.reach 1).dropOldKeys
  let l := l.unwind l.column
  match l.cursor.peek 0 with
  | none => return ((← l.finish).push .streamEnd, true)
  | some c =>
    let l ← l.reach (l.lookahead c)
    let l ← (l.token c).mapError l.faultOf
    return (← l.reach 1, false)

/-- The tokens that no possible key can still change, the last one first. -/
def settled (l : Lexer) : List Token :=
  match (l.keys.filterMap fun k => k.map (·.before)).min? with
  | some before => l.tokens.drop (l.count - before)
  | none => l.tokens

/-- The tokens from a place on, the last one first. A fault is behind the settled ones. -/
def run : (fuel : Nat) → Lexer → List Token
  | 0, l => .fault .malformed :: l.tokens
  | fuel + 1, l =>
    match l.dropOldKeys with
    | .error cause => .fault cause :: l.tokens
    | .ok l =>
      match l.next with
      | .error cause => .fault cause :: l.settled
      | .ok (l, true) => l.tokens
      | .ok (l, false) => run fuel l

end Lexer

/-- The tokens of a document that a fault may cut off. The last one is its end or a fault. -/
def tokens (t : Text) (cut : Option Fault) : List Token :=
  (Lexer.run (t.length + 1) { cursor := .start t, cut }).reverse

end GlyphGloss.Yaml
