import GlyphGloss.Files.Entry

/-!
# Files read in pieces

A file can be read in pieces, the first of which is twice as long as the others. A fault in the
bytes of the file is met by the piece that needs their block, so that the pieces before it can be
used. A block is as large as should hold what its piece still lacks, going by the block before, and
has at least the usual size.

## Main definitions

* `Pieces`: the pieces of a file, and the fault behind them.
* `Text.cutPieces`: the pieces of a text.
* `Feed`, `Feed.more`, `Feed.take`: how far a file was read, one more block, and one more piece.
* `Pieces.ofBytes`: the pieces of the bytes of a file.
-/

namespace GlyphGloss

/-- The pieces of a file that can be read, and the fault that ends them. -/
structure Pieces where
  /-- The pieces. -/
  pieces : List Text
  /-- The fault behind them. -/
  fault : Option Utf8.Fault

/-- The number of code points of a piece. -/
def Pieces.size : Nat := 4096

/-! ### Texts -/

namespace Text

/-- The pieces behind the first one, the number of code points being a bound on their number. -/
def morePieces : (fuel : Nat) → Text → List Text
  | 0, _ => []
  | _ + 1, [] => []
  | fuel + 1, t => t.take Pieces.size :: morePieces fuel (t.drop Pieces.size)

/-- The pieces of a text. -/
def cutPieces (t : Text) : List Text :=
  t.take (2 * Pieces.size) :: morePieces t.length (t.drop (2 * Pieces.size))

end Text

/-! ### Bytes -/

/-- How far a file was read. -/
structure Feed where
  /-- The bytes that no block has taken. -/
  bytes : List UInt8
  /-- The bytes of an incomplete character at the end of the last block. -/
  carried : List UInt8 := []
  /-- Whether the last block ended in a carriage return, which may belong to a line break. -/
  atReturn : Bool := false
  /-- The text that no piece has taken. -/
  waiting : Text := []
  /-- The number of bytes of the last block. -/
  blockBytes : Nat := 0
  /-- The number of code points of the last block. -/
  blockPoints : Nat := 0

namespace Feed

/-- The number of bytes of the next block, of which some code points are needed. -/
def blockSize (f : Feed) (needed : Nat) : Nat :=
  max Utf8.blockSize (f.blockBytes * needed / f.blockPoints)

/-- With the text of a block behind what is waiting. A carriage return at its end waits for the next
block. -/
def addBlock (f : Feed) (count : Nat) (t : Text) : Feed :=
  let t := if f.atReturn && !t.isEmpty then '\r' :: t else t
  let atReturn := if t.isEmpty then f.atReturn else t.getLast? == some '\r'
  let found := Text.normalizeBreaks (if t.getLast? = some '\r' then t.dropLast else t)
  { f with
    atReturn, waiting := f.waiting ++ found, blockBytes := count, blockPoints := found.length }

/-- The text of bytes without a fault. -/
def textOf (bytes : List UInt8) : Text :=
  (String.fromUTF8? ⟨bytes.toArray⟩).elim [] String.toList

/-- With one more block, or nothing if the file is over. -/
def more (f : Feed) (needed : Nat) : Except Utf8.Fault (Option Feed) :=
  match f.bytes, f.carried with
  | [], b :: rest => .error (Utf8.faultAtEnd b rest)
  | [], [] =>
    if f.atReturn then
      .ok (some { f with
        atReturn := false, waiting := f.waiting ++ ['\n'], blockBytes := 0, blockPoints := 1 })
    else .ok none
  | bytes, carried =>
    let taken := bytes.take (f.blockSize needed)
    let block := carried ++ taken
    let f := { f with bytes := bytes.drop taken.length }
    match Utf8.readBlock block.length 0 block with
    | .bad fault => .error fault
    | .clean => .ok (some ({ f with carried := [] }.addBlock taken.length (textOf block)))
    | .cut carried =>
      let whole := block.take (block.length - carried.length)
      .ok (some ({ f with carried }.addBlock taken.length (textOf whole)))

/-- One more piece, empty if the file is over. -/
def take : (fuel : Nat) → Feed → Except Utf8.Fault (Text × Feed)
  | 0, f => .ok (f.waiting, { f with waiting := [] })
  | fuel + 1, f =>
    if Pieces.size ≤ f.waiting.length then
      .ok (f.waiting.take Pieces.size, { f with waiting := f.waiting.drop Pieces.size })
    else do
      match ← f.more (Pieces.size - f.waiting.length) with
      | some f => take fuel f
      | none => return (f.waiting, { f with waiting := [] })

/-- The pieces up to a fault. -/
def pieces : (fuel : Nat) → Feed → Pieces
  | 0, _ => ⟨[], none⟩
  | fuel + 1, f =>
    match f.take (f.bytes.length + 2) with
    | .error fault => ⟨[], some fault⟩
    | .ok ([], _) => ⟨[], none⟩
    | .ok (piece, f) =>
      let found := pieces fuel f
      { found with pieces := piece :: found.pieces }

end Feed

/-- Pieces of which the first two are one, or none if only one can be read before a fault. -/
def Pieces.joinFirst (p : Pieces) : Pieces :=
  match p.pieces, p.fault with
  | first :: second :: rest, _ => { p with pieces := (first ++ second) :: rest }
  | [_], some _ => { p with pieces := [] }
  | _, _ => p

/-- The pieces of the bytes of a file, with line breaks normalized. -/
def Pieces.ofBytes (bytes : ByteArray) : Pieces :=
  match Utf8.decode bytes with
  | .ok t => ⟨t.normalizeBreaks.cutPieces, none⟩
  | .error _ =>
    let all := bytes.toList
    (Feed.pieces (all.length + 1) { bytes := all }).joinFirst

end GlyphGloss
