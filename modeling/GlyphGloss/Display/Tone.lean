import GlyphGloss.Display.Record

/-!
# Tone marks

The conversion of syllables that the program is run with. A syllable with a tone number, such as
`zhong1`, gets a mark over one of its letters, as in `zhōng`. The letter is chosen by the first rule
that fits the syllable; the neutral tone five has no mark; and a letter that takes no such mark
keeps the number behind it.

## Main definitions

* `Tone.place`: the place of the letter that carries the mark.
* `Tone.mark?`: a letter with a mark.
* `Tone.convert`: a numbered syllable with its mark.
-/

namespace GlyphGloss.Tone

/-- The place of the first occurrence of a text in another one. -/
def occurrence? (part : Text) : Text → Option Nat
  | [] => if part.isEmpty then some 0 else none
  | c :: rest =>
    if part.isPrefixOf (c :: rest) then some 0 else (occurrence? part rest).map (· + 1)

/-- A rule on the letter that carries the mark: in a syllable that contains `part`, the letter at
`offset` from the first occurrence of `target`. -/
structure PlaceRule where
  /-- What the syllable contains. -/
  part : Text
  /-- What is looked for. -/
  target : Text
  /-- How far behind its start the letter stands. -/
  offset : Nat

/-- A rule for syllables that contain a text, marking a letter of that text. -/
def PlaceRule.inside (part : String) (offset : Nat) : PlaceRule :=
  ⟨part.toList, part.toList, offset⟩

/-- The rules, in the order in which they are tried. -/
def placeRules : List PlaceRule :=
  [⟨"iou".toList, ['u'], 0⟩, ⟨"uei".toList, ['i'], 0⟩, ⟨"uen".toList, ['u'], 0⟩,
    .inside "a" 0, .inside "o" 0, .inside "e" 0, .inside "iu" 1, .inside "ui" 1,
    .inside "i" 0, .inside "u" 0, .inside "v" 0, .inside "n" 0, .inside "m" 0]

/-- The place that a rule gives in a syllable. -/
def PlaceRule.place? (rule : PlaceRule) (letters : Text) : Option Nat :=
  match occurrence? rule.part letters, occurrence? rule.target letters with
  | some _, some n => some (n + rule.offset)
  | _, _ => none

/-- The place of the letter that carries the mark; the last one if no rule fits. -/
def place (letters : Text) : Nat :=
  (placeRules.findSome? (·.place? letters)).getD (letters.length - 1)

/-- The letters with the marks of the tones one to four. -/
def marked : List (Char × List Text) :=
  [('a', [['ā'], ['á'], ['ǎ'], ['à']]), ('e', [['ē'], ['é'], ['ě'], ['è']]),
    ('o', [['ō'], ['ó'], ['ǒ'], ['ò']]), ('i', [['ī'], ['í'], ['ǐ'], ['ì']]),
    ('u', [['ū'], ['ú'], ['ǔ'], ['ù']]), ('v', [['ǖ'], ['ǘ'], ['ǚ'], ['ǜ']]),
    ('n', [[], ['ń'], ['ň'], ['ǹ']]), ('m', [['m', '\u0304'], ['ḿ'], [], ['m', '\u0300']])]

/-- A letter with the mark of a tone, if there is one. -/
def mark? (letter : Char) (tone : Nat) : Option Text :=
  ((marked.lookup letter).bind (·[tone - 1]?)).filter (!·.isEmpty)

/-- The letter that stands for `ü` while the mark is placed. -/
def plainLetter (c : Char) : Char :=
  if c = 'ü' then 'v' else c

/-- The letter that is shown. -/
def shownLetter (c : Char) : Char :=
  if c = 'v' then 'ü' else c

/-- The letter that carries the mark of a tone: with the mark, without one for the neutral tone, or
with the tone number behind it. -/
def carrier (letter : Char) (number : Char) : Text :=
  if number = '5' then [shownLetter letter]
  else (mark? letter (number.toNat - '0'.toNat)).getD [shownLetter letter, number]

/-- The syllable of these letters with the mark of a tone. -/
def withMark (letters : Text) (number : Char) : Text :=
  let letters := letters.map plainLetter
  let n := place letters
  (letters.take n).map shownLetter ++
    (letters[n]?.elim [number] fun letter => carrier letter number) ++
    (letters.drop (n + 1)).map shownLetter

/-- A numbered syllable with its mark, and any other text as it is. -/
def convert (t : Text) : Text :=
  match t.getLast? with
  | some number => if Display.isNumbered t then withMark t.dropLast number else t
  | none => t

end GlyphGloss.Tone
