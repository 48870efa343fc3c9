import GlyphGloss.Text.Basic

/-!
# Whole numbers in decimal

Whole numbers are printed in decimal without leading zeros. A numeral is read more freely: blanks
around it, a sign, leading zeros, the decimal digits of any script, and single underscores between
digits are accepted.

## Main definitions

* `Text.ofNat`, `Text.ofInt`: the decimal form of a number.
* `digitValue?`: the value of a decimal digit of any script.
* `Numeral.read`, `Numeral.readBytes`: the number that a numeral names.
* `Numeral.isWritable`: whether a number has few enough digits to be written in a message.
-/

namespace GlyphGloss

/-- The decimal form of a natural number. -/
def Text.ofNat (n : Nat) : Text :=
  Nat.toDigits 10 n

/-- The decimal form of a whole number. -/
def Text.ofInt (n : Int) : Text :=
  if n < 0 then '-' :: Text.ofNat n.natAbs else Text.ofNat n.natAbs

/-- The code points of the digit zero in each script; the other nine digits follow it. -/
def zeroDigits : List Nat :=
  [0x30, 0x660, 0x6F0, 0x7C0, 0x966, 0x9E6, 0xA66, 0xAE6, 0xB66, 0xBE6, 0xC66, 0xCE6, 0xD66, 0xDE6,
    0xE50, 0xED0, 0xF20, 0x1040, 0x1090, 0x17E0, 0x1810, 0x1946, 0x19D0, 0x1A80, 0x1A90, 0x1B50,
    0x1BB0, 0x1C40, 0x1C50, 0xA620, 0xA8D0, 0xA900, 0xA9D0, 0xA9F0, 0xAA50, 0xABF0, 0xFF10,
    0x104A0, 0x10D30, 0x11066, 0x110F0, 0x11136, 0x111D0, 0x112F0, 0x11450, 0x114D0, 0x11650,
    0x116C0, 0x11730, 0x118E0, 0x11950, 0x11C50, 0x11D50, 0x11DA0, 0x16A60, 0x16AC0, 0x16B50,
    0x1D7CE, 0x1D7D8, 0x1D7E2, 0x1D7EC, 0x1D7F6, 0x1E140, 0x1E2F0, 0x1E950, 0x1FBF0]

/-- The value of a decimal digit of any script. -/
def digitValue? (c : Char) : Option Nat :=
  zeroDigits.findSome? fun start =>
    if start ≤ c.toNat ∧ c.toNat < start + 10 then some (c.toNat - start) else none

/-- The value of a digit up to `f` in either case. -/
def hexDigitValue? (c : Char) : Option Nat :=
  if '0' ≤ c ∧ c ≤ '9' then some (c.toNat - '0'.toNat)
  else if 'a' ≤ c ∧ c ≤ 'f' then some (c.toNat - 'a'.toNat + 10)
  else if 'A' ≤ c ∧ c ≤ 'F' then some (c.toNat - 'A'.toNat + 10)
  else none

namespace Numeral

/-- The number with these digits in a base, the most significant first. -/
def ofDigits (base : Nat) (digits : List Nat) : Nat :=
  digits.foldl (fun n d => n * base + d) 0

/-- The values of digits with single underscores between them. -/
def digits? : Text → Option (List Nat)
  | [] => none
  | [c] => (digitValue? c).map ([·])
  | c :: '_' :: rest => do
    let d ← digitValue? c
    let ds ← digits? rest
    return d :: ds
  | c :: rest => do
    let d ← digitValue? c
    let ds ← digits? rest
    return d :: ds

/-- The blanks that may surround a numeral. -/
def isMargin (c : Char) : Bool :=
  isBlank c && !(0x1C ≤ c.toNat && c.toNat ≤ 0x1F)

/-- The largest number of digits that is read, and that is written in a message. -/
def digitLimit : Nat := 4300

/-- Whether a whole number has few enough digits to be written in a message. -/
def isWritable (n : Int) : Bool :=
  n.natAbs < Nat.pow 10 digitLimit

/-- The message on a number with too many digits, whose count is known of a numeral that is read. -/
def limitMessage (digits : Option Nat) : Text :=
  let found :=
    match digits with
    | some count => ": value has ".toList ++ Text.ofNat count ++ " digits".toList
    | none => []
  "Exceeds the limit (".toList ++ Text.ofNat digitLimit ++
    " digits) for integer string conversion".toList ++ found ++
    "; use sys.set_int_max_str_digits() to increase the limit".toList

/-- Why a text names no number. -/
inductive Fault where
  /-- The text is no numeral. -/
  | malformed
  /-- The numeral has more digits than are read. -/
  | tooLong (digits : Nat)
deriving DecidableEq, Repr

/-- The sign of a numeral, `true` for negative, and what follows it. -/
def sign : Text → Bool × Text
  | '-' :: rest => (true, rest)
  | '+' :: rest => (false, rest)
  | rest => (false, rest)

/-- Whether a code point can stand in the digits of a numeral. -/
def isDigitMark (c : Char) : Bool :=
  c == '_' || (digitValue? c).isSome

/-- The number that a numeral names. Digits that are too many are not read on, whatever follows
them. -/
def read (t : Text) : Except Fault Int :=
  let (negative, body) := sign (Text.dropEndWhile isMargin (t.dropWhile isMargin))
  let run := body.takeWhile isDigitMark
  match digits? run with
  | none => .error .malformed
  | some digits =>
    if digits.length > digitLimit then .error (.tooLong digits.length)
    else if run.length < body.length then .error .malformed
    else
      let n : Int := ofDigits 10 digits
      .ok (if negative then -n else n)

/-- The number that a numeral in bytes names, which has to be ASCII. -/
def readBytes (bytes : List UInt8) : Except Fault Int :=
  if bytes.all (· < 0x80) then read (bytes.map fun b => .ofNat b.toNat) else .error .malformed

end Numeral

end GlyphGloss
