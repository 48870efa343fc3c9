import GlyphGloss.Value.Basic
import GlyphGloss.Yaml.Flow

/-!
# Values of scalars

A scalar in quotes is a text. A plain scalar is the missing value, a truth value, a number or a date
if it is written as one, and a text otherwise. Whole numbers are written in decimal, in binary
behind `0b`, in octal behind a zero, in hexadecimal behind `0x`, or in base sixty with colons;
underscores between digits are skipped.

## Main definitions

* `Yaml.isNull`, `Yaml.truth?`: the words for the missing value and the truth values.
* `Yaml.wholeForm?`, `Yaml.fraction?`: how numbers are written.
* `Yaml.dateParts?`, `Yaml.dateOf`: how dates are written, and the dates that there are.
* `Yaml.isMoment`: dates with a time of the day.
* `Yaml.resolve`: the value of a plain scalar.
-/

namespace GlyphGloss.Yaml

/-! ### Words -/

/-- Whether a plain scalar is written as the missing value. -/
def isNull (t : Text) : Bool :=
  ["", "~", "null", "Null", "NULL"].any (·.toList == t)

/-- The truth value that a plain scalar is written as. -/
def truth? (t : Text) : Option Bool :=
  if ["yes", "Yes", "YES", "true", "True", "TRUE", "on", "On", "ON"].any (·.toList == t) then
    some true
  else if ["no", "No", "NO", "false", "False", "FALSE", "off", "Off", "OFF"].any
      (·.toList == t) then
    some false
  else none

/-! ### Digits -/

/-- Whether a code point is a decimal digit. -/
def isDigit (c : Char) : Bool :=
  '0' ≤ c && c ≤ '9'

/-- Whether a code point is a digit of a base up to sixteen. -/
def isDigitOf (base : Nat) (c : Char) : Bool :=
  (hexDigitValue? c).any (· < base)

/-- The value of a digit. -/
def digitOf (c : Char) : Nat :=
  (hexDigitValue? c).getD 0

/-- A text without its underscores. -/
def dropUnderscores (t : Text) : Text :=
  t.filter (· != '_')

/-- The number that digits name, underscores being skipped. -/
def number (base : Nat) (t : Text) : Nat :=
  Numeral.ofDigits base ((dropUnderscores t).map digitOf)

/-- Whether a text is a part of a number in base sixty: at most two digits below sixty. -/
def isSixtieth : Text → Bool
  | [c] => isDigit c
  | [c, d] => '0' ≤ c && c ≤ '5' && isDigit d
  | _ => false

/-! ### Whole numbers -/

/-- How a number is written. -/
inductive Form where
  /-- Digits in a base. -/
  | digits (base : Nat) (body : Text)
  /-- Parts in base sixty. -/
  | sixtieths (parts : List Text)

/-- The form of an unsigned whole number. -/
def wholeForm? (t : Text) : Option Form :=
  match t with
  | '0' :: 'b' :: c :: rest =>
    if (c :: rest).all fun d => isDigitOf 2 d || d == '_' then some (.digits 2 (c :: rest))
    else none
  | '0' :: 'x' :: c :: rest =>
    if (c :: rest).all fun d => isDigitOf 16 d || d == '_' then some (.digits 16 (c :: rest))
    else none
  | '0' :: rest =>
    if rest.all fun d => isDigitOf 8 d || d == '_' then some (.digits 8 ('0' :: rest)) else none
  | c :: rest =>
    if !isDigit c then none
    else if rest.all fun d => isDigit d || d == '_' then some (.digits 10 t)
    else
      match t.splitAtEvery ':' with
      | first :: more =>
        if first.all (fun d => isDigit d || d == '_') ∧ more.all isSixtieth then
          some (.sixtieths (first :: more))
        else none
      | [] => none
  | [] => none

/-- The number that a form names. -/
def Form.value : Form → Except Fault Nat
  | .digits base body =>
    let count := (dropUnderscores body).length
    if count = 0 then .error (.noDigits base)
    else if base = 10 ∧ count > Numeral.digitLimit then .error (.tooLong count)
    else .ok (number base body)
  | .sixtieths parts =>
    match (parts.map (dropUnderscores · |>.length)).find? (· > Numeral.digitLimit) with
    | some count => .error (.tooLong count)
    | none => .ok (Numeral.ofDigits 60 (parts.map (number 10)))

/-! ### Fractions -/

/-- Whether a text is an exponent with its mark and its sign, or empty. -/
def isExponent : Text → Bool
  | [] => true
  | e :: sign :: c :: rest =>
    (e == 'e' || e == 'E') && (sign == '+' || sign == '-') && (c :: rest).all isDigit
  | _ => false

/-- The number that an exponent with its mark and its sign names. -/
def exponentOf : Text → Int
  | _ :: '-' :: digits => -(number 10 digits : Int)
  | _ :: _ :: digits => number 10 digits
  | _ => 0

/-- An unsigned number with a decimal point. -/
structure Decimal where
  /-- The digits before the point. -/
  whole : Text
  /-- The digits behind the point. -/
  part : Text
  /-- The exponent. -/
  exponent : Int

/-- The number with a decimal point that a text writes. The first digit may not be an underscore,
and digits before the point may be missing. -/
def decimal? (t : Text) : Option Decimal :=
  let isDigitMark (c : Char) : Bool := isDigit c || c == '_'
  let whole := t.takeWhile (· != '.')
  match t.drop whole.length with
  | '.' :: rest =>
    let part := rest.takeWhile isDigitMark
    let power := rest.drop part.length
    let first := if whole.isEmpty then part.head? else whole.head?
    if whole.all isDigitMark ∧ first.any isDigit ∧ isExponent power then
      some ⟨whole, part, exponentOf power⟩
    else none
  | _ => none

/-- The number with the digits and the exponent of a decimal. -/
def Decimal.value (d : Decimal) : Binary64 :=
  let part := dropUnderscores d.part
  .ofDecimal false (number 10 (d.whole ++ part)) (d.exponent - part.length)

/-- The sum of parts in base sixty, the first of which is the least and has a given weight, rounded
at each step. No weight may be too large to be finite. -/
def sumSixtieths : (weight : Nat) → (sum : Binary64) → List Binary64 → Except Fault Binary64
  | _, sum, [] => .ok sum
  | weight, sum, x :: rest =>
    match Binary64.ofRatio false weight 1 with
    | .finite s m e => sumSixtieths (weight * 60) (sum.add (x.mul (.finite s m e))) rest
    | _ => .error .tooManySixtieths

/-- The number in base sixty whose last part has a decimal point. -/
def sixtiethFraction? (t : Text) : Option (Except Fault Binary64) :=
  let parts := t.splitAtEvery ':'
  match parts, parts.getLast? with
  | first :: _ :: _, some last =>
    let middle := (parts.drop 1).dropLast
    let whole := last.takeWhile (· != '.')
    let rest := last.drop whole.length
    if first.head?.any isDigit ∧ first.all (fun c => isDigit c || c == '_') ∧
        middle.all isSixtieth ∧ isSixtieth whole ∧ rest.head? = some '.' ∧
        (rest.drop 1).all (fun c => isDigit c || c == '_') then
      let part := dropUnderscores (rest.drop 1)
      let least := Binary64.ofDecimal false (number 10 (whole ++ part)) (-part.length)
      let others := (first :: middle).map fun p => Binary64.ofDecimal false (number 10 p) 0
      some (sumSixtieths 1 (.ofDecimal false 0 0) (least :: others.reverse))
    else none
  | _, _ => none

/-- The fraction that an unsigned text writes, a sign having been read before it or not. -/
def fraction? (signed : Bool) (t : Text) : Option (Except Fault Binary64) :=
  if [".inf", ".Inf", ".INF"].any (·.toList == t) then some (.ok (.infinite false))
  else if !signed ∧ [".nan", ".NaN", ".NAN"].any (·.toList == t) then some (.ok .nan)
  else
    match decimal? t with
    | some d => if signed ∧ d.whole.isEmpty then none else some (.ok d.value)
    | none => sixtiethFraction? t

/-! ### Dates -/

/-- Whether a text is one digit or two. -/
def isShortNumeral (t : Text) : Bool :=
  (t.length == 1 || t.length == 2) && t.all isDigit

/-- Whether a text is two digits. -/
def isTwoDigits (t : Text) : Bool :=
  t.length == 2 && t.all isDigit

/-- Whether a text is a time of the day: hours, minutes and seconds, with a fraction or not. -/
def isClock (t : Text) : Bool :=
  match t.splitAtEvery ':' with
  | [hours, minutes, seconds] =>
    let part := seconds.drop 2
    isShortNumeral hours && isTwoDigits minutes && isTwoDigits (seconds.take 2) &&
      (part.isEmpty || (part.head? == some '.' && (part.drop 1).all isDigit))
  | _ => false

/-- Whether a text is a time zone: `Z`, or a sign with hours and with minutes or not. -/
def isZone : Text → Bool
  | ['Z'] => true
  | sign :: rest =>
    (sign == '+' || sign == '-') &&
      match Text.splitAtEvery ':' rest with
      | [hours] => isShortNumeral hours
      | [hours, minutes] => isShortNumeral hours && isTwoDigits minutes
      | _ => false
  | [] => false

/-- Whether a text is a date with a time of the day behind a `T` or blanks. -/
def isMoment (t : Text) : Bool :=
  let isGap (c : Char) : Bool := c == ' ' || c == '\t'
  let date := t.takeWhile fun c => isDigit c || c == '-'
  let rest := t.drop date.length
  let time :=
    if rest.head?.any fun c => c == 'T' || c == 't' then rest.drop 1 else rest.dropWhile isGap
  let clock := time.takeWhile fun c => isDigit c || c == ':' || c == '.'
  let zone := (time.drop clock.length).dropWhile isGap
  match Text.splitAtEvery '-' date with
  | [year, month, day] =>
    year.length == 4 && year.all isDigit && isShortNumeral month && isShortNumeral day &&
      time.length < rest.length && isClock clock && (zone.isEmpty || isZone zone)
  | _ => false

/-- The parts of a date. -/
structure DateParts where
  year : Nat
  month : Nat
  day : Nat

/-- The date that a text writes: four digits, two and two, with hyphens between them. -/
def dateParts? (t : Text) : Option DateParts :=
  match t.splitAtEvery '-' with
  | [year, month, day] =>
    if year.length = 4 ∧ month.length = 2 ∧ day.length = 2 ∧
        (year ++ month ++ day).all isDigit then
      some ⟨number 10 year, number 10 month, number 10 day⟩
    else none
  | _ => none

/-- The number of days of a month. -/
def daysOf (year month : Nat) : Nat :=
  if month = 2 then
    if year % 4 = 0 ∧ (year % 100 ≠ 0 ∨ year % 400 = 0) then 29 else 28
  else if month ∈ [4, 6, 9, 11] then 30
  else 31

/-- The date of a text with these parts, if there is such a date. -/
def dateOf (t : Text) (parts : DateParts) : Except Fault Stamp :=
  if parts.year = 0 then .error (.noDate "year 0 is out of range")
  else if parts.month = 0 ∨ 12 < parts.month then .error (.noDate "month must be in 1..12")
  else if parts.day = 0 ∨ daysOf parts.year parts.month < parts.day then
    .error (.noDate "day is out of range for month")
  else
    let forms := [parts.year, parts.month, parts.day].map Text.ofNat
    .ok {
      kind := "date"
      fullKind := "datetime.date"
      literal := "datetime.date(".toList ++ Text.join ", ".toList forms ++ [')']
      plain := t }

/-! ### Plain scalars -/

/-- The value of a plain scalar. Dates with a time of the day are left out. -/
def resolve (t : Text) : Except Fault Scalar :=
  if isNull t then .ok .null
  else if isMoment t then .error .malformed
  else
    match truth? t with
    | some b => .ok (.bool b)
    | none =>
      let (negative, body) := Numeral.sign t
      let signed := body.length != t.length
      match fraction? signed body, wholeForm? body with
      | some found, _ => do
        let x ← found
        return .float (if negative then x.neg else x)
      | none, some form => do
        let n ← form.value
        return .int (if negative then -(n : Int) else n)
      | none, none =>
        match dateParts? t with
        | some parts => (dateOf t parts).map .stamp
        | none => .ok (.text t)

end GlyphGloss.Yaml
