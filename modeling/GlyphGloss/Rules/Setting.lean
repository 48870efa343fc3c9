import GlyphGloss.ErrorReport
import GlyphGloss.Value.Printer

/-!
# Rule settings

A rule setting gives one formula to the phrase lengths of a range. Settings are written as a list of
mappings with a `formula` and either a `length_equal` or a `length_in_range`. The entries are
checked first, all faults of all entries being reported together, and only then converted. The
conversion of a single mapping is freer than the check: it also reads numerals and truncates
fractions.

## Main definitions

* `RuleSetting`: a formula with a range of lengths.
* `RuleSetting.entryFaults`: what is wrong with an entry.
* `RuleSetting.ofMapping`: the conversion of one entry without the check.
* `RuleSetting.ofEntries`: the checked conversion of a list of entries.
* `RuleSetting.standardEntries`: the entries that hold where none are configured.

## Main results

* `RuleSetting.mem_lengths_iff`: the lengths that a setting covers.
-/

namespace GlyphGloss

/-- A formula for the phrase lengths from `least` to `greatest`. -/
structure RuleSetting where
  /-- The formula as it was given, not yet read. -/
  formula : Value
  /-- The least length. -/
  least : Int
  /-- The greatest length. -/
  greatest : Int

namespace RuleSetting

/-- The lengths that a setting covers, in increasing order. -/
def lengths (s : RuleSetting) : List Int :=
  (List.range (s.greatest + 1 - s.least).toNat).map fun (i : Nat) => s.least + i

/-- A setting covers the lengths of its range. -/
theorem mem_lengths_iff (s : RuleSetting) (n : Int) :
    n ∈ s.lengths ↔ s.least ≤ n ∧ n ≤ s.greatest := by
  simp only [lengths, List.mem_map, List.mem_range]
  constructor
  · rintro ⟨i, hi, rfl⟩
    omega
  · rintro ⟨hl, hg⟩
    exact ⟨(n - s.least).toNat, by omega, by omega⟩

/-- The key of the formula in an entry. -/
def formulaKey : Text := "formula".toList

/-- The key of an exact length in an entry. -/
def equalKey : Text := "length_equal".toList

/-- The key of a range of lengths in an entry. -/
def rangeKey : Text := "length_in_range".toList

/-! ### Checking entries -/

/-- What is wrong with an entry. -/
inductive Fault where
  /-- The entry is no mapping. -/
  | notMapping (kind : String)
  /-- The formula is no text, or empty. -/
  | noFormula
  /-- Not exactly one of the two length keys has a value. -/
  | lengthKeys
  /-- The exact length is no positive whole number. -/
  | badLength (v : Value)
  /-- The range is no pair of positive whole numbers. -/
  | badRange (v : Value)
  /-- The range ends before it starts. -/
  | inverted (low high : Int)

/-- A fault in words. -/
def Fault.message : Fault → Text
  | .notMapping kind => "expected a mapping, got ".toList ++ kind.toList
  | .noFormula => "missing formula".toList
  | .lengthKeys => "expected exactly one of length_equal or length_in_range".toList
  | .badLength v => "invalid length_equal ".toList ++ v.literal
  | .badRange v => "invalid length_in_range ".toList ++ v.literal
  | .inverted low high =>
    "inverted length_in_range ".toList ++ (Value.list [.int low, .int high]).literal

/-- Whether a fault can be put in words. -/
def Fault.isWritable : Fault → Bool
  | .badLength v => v.isWritable
  | .badRange v => v.isWritable
  | .inverted low high => Numeral.isWritable low && Numeral.isWritable high
  | _ => true

/-- A fault of an entry, by the place of the entry counted from one. -/
structure Defect where
  /-- The place of the entry. -/
  place : Nat
  /-- What is wrong with it. -/
  fault : Fault

/-- A defect in words. -/
def Defect.message (d : Defect) : Text :=
  "Rule ".toList ++ Text.ofNat d.place ++ ": ".toList ++ d.fault.message

/-- What is wrong with the formula of an entry. -/
def formulaFaults : Option Value → List Fault
  | some (.text (_ :: _)) => []
  | _ => [.noFormula]

/-- What is wrong with a range of lengths. -/
def rangeFaults (v : Value) : List Fault :=
  match v.sequence? with
  | some [.int low, .int high] =>
    if 0 < low ∧ 0 < high then if high < low then [.inverted low high] else [] else [.badRange v]
  | _ => [.badRange v]

/-- What is wrong with an exact length. -/
def lengthFaults : Value → List Fault
  | .int n => if 0 < n then [] else [.badLength (.int n)]
  | v => [.badLength v]

/-- What is wrong with an entry. -/
def entryFaults (entry : Value) : List Fault :=
  match entry with
  | .mapping _ =>
    formulaFaults (entry.get? formulaKey) ++
      match entry.present? equalKey, entry.present? rangeKey with
      | some v, none => lengthFaults v
      | none, some v => rangeFaults v
      | _, _ => [.lengthKeys]
  | v => [.notMapping v.kind]

/-- The defects of entries, the first of which has the given place. -/
def defectsFrom (place : Nat) : List Value → List Defect
  | [] => []
  | entry :: rest => (entryFaults entry).map (Defect.mk place) ++ defectsFrom (place + 1) rest

/-- The defects of entries. -/
def defects (entries : List Value) : List Defect :=
  defectsFrom 1 entries

/-! ### Converting entries -/

/-- Why a mapping could not be converted. -/
inductive ConversionError where
  /-- A key is missing. -/
  | missing (key : Text)
  /-- A text or bytes name no whole number. -/
  | numeral (v : Value)
  /-- A numeral has more digits than are read. -/
  | tooLong (digits : Nat)
  /-- A value is neither a number nor a text. -/
  | notNumber (kind : String)
  /-- An infinite number has no whole part. -/
  | infinite
  /-- The value that is no number has no whole part. -/
  | notANumber
  /-- A value that has no elements stands for a range. -/
  | noElements (kind : String)
  /-- A range has fewer than two elements. -/
  | tooFew (count : Nat)
  /-- A range has more than two elements. -/
  | tooMany
  /-- A formula holds a number with more digits than are written. -/
  | unwritable

/-- A conversion error in words. The value that names no number is cut after two hundred code
points. -/
def ConversionError.message : ConversionError → Text
  | .missing key => key.quoted
  | .numeral v => "invalid literal for int() with base 10: ".toList ++ v.literal.take 200
  | .tooLong digits => Numeral.limitMessage (some digits)
  | .notNumber kind =>
    "int() argument must be a string, a bytes-like object or a real number, not '".toList ++
      kind.toList ++ ['\'']
  | .infinite => "cannot convert float infinity to integer".toList
  | .notANumber => "cannot convert float NaN to integer".toList
  | .noElements kind => "cannot unpack non-iterable ".toList ++ kind.toList ++ " object".toList
  | .tooFew count =>
    "not enough values to unpack (expected 2, got ".toList ++ Text.ofNat count ++ [')']
  | .tooMany => "too many values to unpack (expected 2)".toList
  | .unwritable => Numeral.limitMessage none

/-- The whole number that the numeral in a value names. -/
def ofNumeral (v : Value) (found : Except Numeral.Fault Int) : Except ConversionError Int :=
  found.mapError fun
    | .malformed => .numeral v
    | .tooLong digits => .tooLong digits

/-- The whole number that a value names: a number by its whole part, a text or bytes by their
numeral. -/
def wholeNumber : Value → Except ConversionError Int
  | .bool b => .ok (if b then 1 else 0)
  | .int n => .ok n
  | .float (.infinite _) => .error .infinite
  | .float x =>
    match x.truncate with
    | some n => .ok n
    | none => .error .notANumber
  | .text t => ofNumeral (.text t) (Numeral.read t)
  | .bytes bs => ofNumeral (.bytes bs) (Numeral.readBytes bs)
  | v => .error (.notNumber v.fullKind)

/-- The two elements of a value. -/
def pair (v : Value) : Except ConversionError (Value × Value) :=
  match v.elements? with
  | none => .error (.noElements v.fullKind)
  | some [low, high] => .ok (low, high)
  | some items => .error (if items.length < 2 then .tooFew items.length else .tooMany)

/-- The value under a key that has to be there. -/
def required (entry : Value) (key : Text) : Except ConversionError Value :=
  match entry.get? key with
  | some v => .ok v
  | none => .error (.missing key)

/-- The formula that a value writes. -/
def formulaOf (v : Value) : Except ConversionError Value :=
  if v.isWritable then .ok (.text v.plain) else .error .unwritable

/-- The setting that a mapping writes. An exact length wins over a range. -/
def ofMapping (entry : Value) : Except ConversionError RuleSetting :=
  match entry.present? equalKey with
  | some v => do
    let length ← wholeNumber v
    let formula ← formulaOf (← required entry formulaKey)
    return { formula, least := length, greatest := length }
  | none => do
    let (low, high) ← pair (← required entry rangeKey)
    let formula ← formulaOf (← required entry formulaKey)
    return { formula, least := ← wholeNumber low, greatest := ← wholeNumber high }

/-- Why entries gave no settings. -/
inductive EntriesError where
  /-- The entries are a value without elements. -/
  | noElements (kind : String)
  /-- Entries have defects. -/
  | defects (found : List Defect)
  /-- Entries have defects, one of which holds a number with more digits than are written. -/
  | unwritable
  /-- An entry without defects could not be converted. -/
  | conversion (cause : ConversionError)

/-- An error of entries in words. -/
def EntriesError.message : EntriesError → Text
  | .noElements kind => '\'' :: kind.toList ++ "' object is not iterable".toList
  | .defects found => ErrorReport.text "Rule settings validation".toList (found.map Defect.message)
  | .unwritable => Numeral.limitMessage none
  | .conversion cause => cause.message

/-- The settings that entries write, converted one by one. -/
def convertAll : List Value → Except EntriesError (List RuleSetting)
  | [] => .ok []
  | entry :: rest =>
    match ofMapping entry with
    | .error cause => .error (.conversion cause)
    | .ok setting => (convertAll rest).map (setting :: ·)

/-- The settings that entries write, if no entry has a defect. -/
def ofEntries (entries : Value) : Except EntriesError (List RuleSetting) :=
  match entries.elements? with
  | none => .error (.noElements entries.fullKind)
  | some items =>
    match defects items with
    | [] => convertAll items
    | found => .error (if found.all (·.fault.isWritable) then .defects found else .unwritable)

/-! ### The standard entries -/

/-- The entry that gives a formula to one length. -/
def equalEntry (length : Int) (formula : String) : Value :=
  .mapping [(.text equalKey, .int length), (.text formulaKey, .text formula.toList)]

/-- The entry that gives a formula to a range of lengths. -/
def rangeEntry (low high : Int) (formula : String) : Value :=
  .mapping [(.text rangeKey, .list [.int low, .int high]), (.text formulaKey, .text formula.toList)]

/-- The entries that hold where none are configured. -/
def standardEntries : List Value :=
  [equalEntry 2 "AaAbBaBb", equalEntry 3 "AaBaCaCb", rangeEntry 4 10 "AaBaCaZa"]

end RuleSetting

end GlyphGloss
