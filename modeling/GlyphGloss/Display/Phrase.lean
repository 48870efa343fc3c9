import GlyphGloss.Display.Record

/-!
# Phrases on display

A phrase is shown by its spelling and, from the second level on, by its codes, the shortest first.
Without codes it stands between angle brackets instead of corner brackets.

## Main definitions

* `Display.codes`: the codes of a phrase in the order in which they are shown.
* `Display.phrase`: the shown form of a phrase.
-/

namespace GlyphGloss.Display

/-- The codes of a phrase, which blanks and underscores separate. -/
def codeWords (code : Text) : List Text :=
  (code.splitWhen fun c => isBlank c || c == '_').filter (!·.isEmpty)

/-- The codes of a phrase, the shortest first, those of one length in order. -/
def codes (code : Text) : List Text :=
  (codeWords code).mergeSort fun s t => s.length ≤ t.length

/-- The opening angle bracket. -/
def altOpening : Text := "〈 ".toList

/-- The closing angle bracket. -/
def altClosing : Text := " 〉".toList

/-- The shown form of a phrase with a spelling and perhaps a code. -/
def phrase (spelling : Text) (code : Option Text) (level : Int) : Text :=
  let shown := field spelling
  if level = 1 then opening ++ shown ++ closing
  else
    match codes (code.getD []) with
    | [] => altOpening ++ shown ++ altClosing
    | found => opening ++ shown ++ separator ++ Text.join [' '] found ++ closing

end GlyphGloss.Display
