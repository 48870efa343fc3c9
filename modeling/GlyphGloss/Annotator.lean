import GlyphGloss.Candidate
import GlyphGloss.Composition
import GlyphGloss.Display.Phrase

/-!
# Annotations

A candidate is annotated in its comment. A single character shows its records, a phrase the
spelling and the codes composed for it, and a punctuation mark its code; sentences are left alone.
The annotation goes in front of the comment, or in its place for a completion under mixed typing.

## Main definitions

* `Annotator`: the settings and rules that annotations follow.
* `Annotator.note`: the annotation of a text.
* `Annotator.annotate`: a candidate with its annotation.
* `Annotator.source?`: the lexicon that the annotation of a candidate looks into.
-/

namespace GlyphGloss

/-- The settings and rules that annotations follow. -/
structure Annotator where
  /-- The formulas for phrases. -/
  rules : RuleTable
  /-- Whether phrases are annotated. -/
  phrases : Bool := true
  /-- Whether input styles are mixed. -/
  mixedTyping : Bool := false
  /-- Whether pronunciations have tone marks. -/
  toneMarks : Bool := false
  /-- The part of a record that the codes of phrases are composed from. -/
  codePart : Extract := .literal
  /-- The syllable with a tone mark for one with a tone number. -/
  toTone : Text → Text

/-- The annotation of a text, with what was missing for it. -/
structure Note where
  /-- The annotation, if there is one. -/
  text : Option Text
  /-- Why a composition for it failed. -/
  gaps : List Composition.Gap

/-- A lexicon that annotations look into. -/
inductive Source where
  | spelling
  | code
deriving DecidableEq, Repr

namespace Annotator

/-- The tag of a candidate in simplified characters once it is annotated. -/
def simplifiedTag : String := "simp_rvlk"

/-- The annotation of a single character. -/
def characterNote (a : Annotator) (spelling : Text → Text) (level : Int) (t : Text) : Note :=
  match Record.readAll (spelling t) with
  | [] => ⟨none, []⟩
  | found => ⟨some (Display.records a.toTone level a.toneMarks found), []⟩

/-- The annotation of a phrase. -/
def phraseNote (a : Annotator) (spelling : Text → Text) (level : Int) (t : Text) : Note :=
  match Composition.compose a.rules spelling .spelling t with
  | .error gap => ⟨none, [gap]⟩
  | .ok composed =>
    if level = 1 then ⟨some (Display.phrase composed none level), []⟩
    else
      match Composition.compose a.rules spelling a.codePart t with
      | .error gap => ⟨some (Display.phrase composed none level), [gap]⟩
      | .ok code => ⟨some (Display.phrase composed (some code) level), []⟩

/-- The annotation of a text at a level: empty if it is a phrase and phrases are not annotated,
and missing if it has no record or composition. -/
def note (a : Annotator) (spelling : Text → Text) (level : Int) (t : Text) : Note :=
  if t.length = 1 then a.characterNote spelling level t
  else if !a.phrases then ⟨some [], []⟩
  else if t.isEmpty then ⟨none, []⟩
  else a.phraseNote spelling level t

/-- A candidate with an annotation in its comment. An empty annotation changes nothing. -/
def combine (a : Annotator) (c : Candidate) (shown : Text) : Candidate :=
  if shown.isEmpty then c
  else if c.kind = .completion ∧ a.mixedTyping then { c with comment := shown }
  else { c with comment := shown ++ c.comment }

/-- A candidate with its annotation, and what was missing for it. -/
def annotate (a : Annotator) (spelling code : Text → Text) (level : Int) (c : Candidate) :
    Candidate × List Composition.Gap :=
  match c.kind with
  | .sentence => (c, [])
  | .simplified =>
    let note := a.note spelling level c.text
    ({ c with tag := simplifiedTag, comment := note.text.getD [] ++ c.comment }, note.gaps)
  | .punctuation => (a.combine c (code c.text), [])
  | _ =>
    let note := a.note spelling level c.text
    (a.combine c (note.text.getD []), note.gaps)

/-- Whether the annotation of a text looks into the lexicon of records. -/
def looksUp (a : Annotator) (t : Text) : Bool :=
  t.length == 1 || (a.phrases && !t.isEmpty && Composition.looksUp a.rules t)

/-- The lexicon that the annotation of a candidate looks into. -/
def source? (a : Annotator) (c : Candidate) : Option Source :=
  match c.kind with
  | .sentence => none
  | .punctuation => some .code
  | _ => if a.looksUp c.text then some .spelling else none

end Annotator

end GlyphGloss
