import GlyphGloss.Dictionary.Header
import GlyphGloss.Schema
import GlyphGloss.Session.Basic
import GlyphGloss.Tools

/-!
# Building sessions

A session is built from a schema. Its rules are those of the schema, even if there are none; else
those in the header of the spelling dictionary; else the standard rules. The spelling dictionary has
to be there; a code dictionary that is not there is empty.

## Main definitions

* `Session.RuleSource`, `Session.ruleSource`: where the rules come from.
* `Session.build`: the session of a schema.

## Main results

* `Session.ruleSource_of_schema`: rules of the schema win.
-/

namespace GlyphGloss.Session

/-- Rule entries, with the events of choosing them. -/
structure RuleSource where
  entries : List Value
  events : List Event

/-- The rule entries of a schema. -/
def ruleSource (reader : Reader) (files : Files) (schema : Schema) : Except Failure RuleSource :=
  match schema.entries with
  | some entries => .ok ⟨entries, []⟩
  | none => do
    let header ← Dictionary.readHeader reader files schema.spellingPath
    match Dictionary.headerRules header with
    | some entries => return ⟨entries, []⟩
    | none => return ⟨RuleSetting.standardEntries, [.standardRules]⟩

/-- Rules of the schema win. -/
theorem ruleSource_of_schema {reader : Reader} {files : Files} {schema : Schema}
    {entries : List Value} (h : schema.entries = some entries) :
    ruleSource reader files schema = .ok ⟨entries, []⟩ := by
  simp [ruleSource, h]

/-- The code dictionary at a path, empty if nothing is there, and the events of looking for it. -/
def codeShelf (files : Files) : Option Path → Except Failure (Shelf × List Event)
  | none => .ok (.opened .empty, [])
  | some path =>
    match (files path).exists? path with
    | .error cause => .error (.file cause)
    | .ok true => .ok (.closed path files, [])
    | .ok false => .ok (.opened .empty, [.codesMissing path])

/-- The key that a setting names. A value that is no text is no key. -/
def keyOf : Value → Option String
  | .text t => some (String.ofList t)
  | _ => none

/-- A session that was built. -/
structure Built where
  session : Session
  entries : List Value
  events : List Event

/-- The rule table of entries, with the event of building it. -/
def buildRules (entries : List Value) : Except Failure (RuleTable × List Event) := do
  let settings ← (RuleSetting.ofEntries (.list entries)).mapError .entries
  let built ← (RuleTable.build settings).mapError .table
  return (built.table, [.rulesBuilt built.table.size built.formulas])

/-- The session of a schema. -/
def build (tools : Tools) (files : Files) (schema : Schema) : Except Failure Built := do
  let path := schema.spellingPath
  match (files path).exists? path with
  | .error cause => throw (.file cause)
  | .ok false => throw (.spellingMissing path)
  | .ok true =>
    let rules ← ruleSource tools.reader files schema
    let (table, tableEvents) ← buildRules rules.entries
    let (code, codeEvents) ← codeShelf files schema.codePath
    let annotator : Annotator := {
      rules := table
      phrases := schema.phrases
      mixedTyping := schema.mixedTyping
      toneMarks := schema.toneMarks
      codePart := schema.codePart
      toTone := tools.toTone }
    return {
      session := {
        annotator
        keys := { cycle := keyOf schema.cycleKey, switch := keyOf schema.switchKey }
        options := OptionGroup.verbosity.ensureInitialized.1
        spelling := .closed path files
        code }
      entries := rules.entries
      events := rules.events ++ tableEvents ++ codeEvents }

end GlyphGloss.Session
