import GlyphGloss.Text.Basic

/-!
# Decoding files

Files are read as UTF-8. A file that is not valid is refused with the first fault in it: a byte that
starts no character, a character with a byte that does not continue it, or an incomplete character
at the end. A file is read in blocks, and the place of a fault counts from the start of its block,
into which an incomplete character at the end of the block before is carried.

## Main definitions

* `Utf8.decode`: the text of a file.
* `Utf8.Fault`, `Utf8.findFault`: the first fault in a file.

## Main results

* `Utf8.decode_toUTF8`: the bytes of a text are decoded to the text.
-/

namespace GlyphGloss

namespace Utf8

/-- Why bytes are no characters. -/
inductive Reason where
  /-- A byte starts no character. -/
  | badStart
  /-- A character is broken off by a byte that does not continue it. -/
  | badContinuation
  /-- The file stops inside a character. -/
  | incomplete
deriving DecidableEq, Repr

/-- A fault of a file. -/
structure Fault where
  /-- The first byte of the fault. -/
  byte : UInt8
  /-- The place of the first byte in its block. -/
  start : Nat
  /-- The place behind the last byte. -/
  stop : Nat
  /-- What is wrong. -/
  reason : Reason
deriving DecidableEq, Repr

/-- How a character with a first byte goes on: the number of further bytes, and the range of the
first of them. -/
def continuation? (b : UInt8) : Option (Nat × UInt8 × UInt8) :=
  if b < 0x80 then some (0, 0x80, 0xBF)
  else if b < 0xC2 then none
  else if b < 0xE0 then some (1, 0x80, 0xBF)
  else if b = 0xE0 then some (2, 0xA0, 0xBF)
  else if b = 0xED then some (2, 0x80, 0x9F)
  else if b < 0xF0 then some (2, 0x80, 0xBF)
  else if b = 0xF0 then some (3, 0x90, 0xBF)
  else if b < 0xF4 then some (3, 0x80, 0xBF)
  else if b = 0xF4 then some (3, 0x80, 0x8F)
  else none

/-- What the bytes behind a first byte come to. -/
inductive Tail where
  /-- A whole character, with the bytes behind it. -/
  | whole (rest : List UInt8)
  /-- A byte does not continue the character, after as many that do. -/
  | broken (good : Nat)
  /-- The bytes stop inside the character. -/
  | short

/-- Reads the given number of continuation bytes, the first in a range. -/
def readTail (low high : UInt8) : Nat → List UInt8 → Tail
  | 0, rest => .whole rest
  | _ + 1, [] => .short
  | n + 1, b :: rest =>
    if low ≤ b ∧ b ≤ high then
      match readTail 0x80 0xBF n rest with
      | .broken good => .broken (good + 1)
      | tail => tail
    else .broken 0

/-- What the bytes of a block come to. -/
inductive Block where
  /-- Whole characters only. -/
  | clean
  /-- Whole characters and an incomplete one at the end. -/
  | cut (carried : List UInt8)
  /-- A fault. -/
  | bad (fault : Fault)

/-- Whether bytes are the first two of three that would name a surrogate. -/
def isCutSurrogate : List UInt8 → Bool
  | [first, second] => first == 0xED && 0xA0 ≤ second && second ≤ 0xBF
  | _ => false

/-- Reads a block from a place on, the number of bytes being a bound on the number of characters.
The first bytes of a surrogate at the end of the block count as an incomplete character. -/
def readBlock : (fuel : Nat) → (place : Nat) → List UInt8 → Block
  | 0, _, _ => .clean
  | _ + 1, _, [] => .clean
  | fuel + 1, place, b :: rest =>
    match continuation? b with
    | none => .bad ⟨b, place, place + 1, .badStart⟩
    | some (n, low, high) =>
      match readTail low high n rest with
      | .whole next => readBlock fuel (place + n + 1) next
      | .broken good =>
        if isCutSurrogate (b :: rest) then .cut (b :: rest)
        else .bad ⟨b, place, place + good + 1, .badContinuation⟩
      | .short => .cut (b :: rest)

/-- The number of bytes of a block. -/
def blockSize : Nat := 8192

/-- The fault of the first byte of an incomplete character and its other bytes, at the end of a
file. -/
def faultAtEnd (b : UInt8) (more : List UInt8) : Fault :=
  if isCutSurrogate (b :: more) then ⟨b, 0, 1, .badContinuation⟩
  else ⟨b, 0, more.length + 1, .incomplete⟩

/-- The first fault in bytes of which some were carried from the block before. -/
def findFault : (fuel : Nat) → (carried : List UInt8) → List UInt8 → Option Fault
  | 0, _, _ => none
  | _ + 1, [], [] => none
  | _ + 1, b :: more, [] => some (faultAtEnd b more)
  | fuel + 1, carried, bytes =>
    let block := carried ++ bytes.take blockSize
    match readBlock block.length 0 block with
    | .clean => findFault fuel [] (bytes.drop blockSize)
    | .cut carried => findFault fuel carried (bytes.drop blockSize)
    | .bad fault => some fault

/-- The text of a file, or the fault that it is refused with. -/
def decode (bytes : ByteArray) : Except Fault Text :=
  match String.fromUTF8? bytes with
  | some s => .ok s.toList
  | none =>
    let all := bytes.toList
    .error ((findFault (all.length + 2) [] all).getD ⟨0, 0, 1, .badStart⟩)

/-- The bytes of a text are decoded to the text. -/
theorem decode_toUTF8 (s : String) : decode s.toUTF8 = .ok s.toList := by
  have h : String.fromUTF8? s.toUTF8 = some s := by
    simp [String.fromUTF8?, String.toUTF8, String.fromUTF8, s.isValidUTF8]
  unfold decode
  rw [h]

end Utf8

end GlyphGloss
