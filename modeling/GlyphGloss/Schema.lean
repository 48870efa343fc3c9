import GlyphGloss.Failure
import GlyphGloss.Record.Component

/-!
# Schemas

A schema is a settings document that names the dictionaries, the keys, and how annotations are made.
A given reader of such documents reads it. Settings that are wrong are reported together, in the
order in which they are listed here.

## Main definitions

* `Schema`: the settings.
* `Schema.Location`: where the dictionaries are.
* `Schema.ofValue`: the settings that a document writes.
* `Schema.load`: the settings of a schema file.
-/

namespace GlyphGloss

/-- The settings that annotations follow. -/
structure Schema where
  /-- The dictionary of the characters' records. -/
  spellingPath : Path
  /-- The dictionary of codes. -/
  codePath : Option Path
  /-- The key that cycles the levels. -/
  cycleKey : Value
  /-- The key that switches annotations off and on. -/
  switchKey : Value
  /-- Whether phrases are annotated. -/
  phrases : Bool
  /-- Whether input styles are mixed. -/
  mixedTyping : Bool
  /-- Whether pronunciations have tone marks. -/
  toneMarks : Bool
  /-- The part of a record that the codes of phrases are composed from. -/
  codePart : Extract
  /-- The rule entries, if there are any. -/
  entries : Option (List Value)

namespace Schema

/-- The value of the setting with a path of names between slashes, the missing value if there is
none. -/
def setting (v : Value) (names : String) : Value :=
  (v.at? (Text.splitAtEvery '/' names.toList)).getD .null

/-- Where the dictionaries of a schema are. -/
inductive Location where
  | beside
  | inside (directory : Path)
  | nowhere
deriving DecidableEq, Repr

/-- The directory of the dictionaries of the schema at a path. -/
def Location.directory? (path : Path) : Location → Option Path
  | .beside => some path.parent
  | .inside directory => some directory
  | .nowhere => none

/-- The path of the dictionary that a value names, if it names one. The name has to be one that can
be written, and there has to be a directory. -/
def dictionaryPath (directory : Option Path) (name : Value) : Except Failure (Option Path) :=
  if !name.isTruthy then .ok none
  else if !name.isWritable then .error .unwritable
  else
    match directory with
    | some directory => .ok (some (directory.join (.parse (name.plain ++ ".dict.yaml".toList))))
    | none => .error .noDirectory

/-- The setting of phrases: whether they are annotated, and what is wrong with it. -/
def readPhrases : Value → Bool × List SchemaProblem
  | .null => (true, [])
  | .int n => (n != 0, [])
  | v => (true, [.phraseNotWhole v])

/-- The word for codes as they are written. -/
def literalWord : Text := "literal".toList

/-- The word for first code alternates. -/
def terseWord : Text := "terse".toList

/-- The setting of phrase codes, and what is wrong with it. -/
def readMode (v : Value) : Extract × List SchemaProblem :=
  if !v.isTruthy then (.literal, [])
  else
    match v with
    | .text t =>
      if t = literalWord then (.literal, [])
      else if t = terseWord then (.terse, [])
      else (.literal, [.unknownMode v])
    | v => (.literal, [.unknownMode v])

/-- The rule entries, and what is wrong with them. -/
def readRules : Value → Option (List Value) × List SchemaProblem
  | .null => (none, [])
  | .list items => (some items, [])
  | _ => (none, [.rulesNotList])

/-- Whether the tags that extend a schema are given. A value that is set has to have a length. -/
def readTags (v : Value) : Except Failure Bool :=
  if !v.isTruthy then .ok false
  else if v.elements?.isSome then .ok true
  else .error (.noLength v.fullKind)

/-- The failure of a schema with problems. -/
def problemsFailure (path : Path) (problems : List SchemaProblem) : Failure :=
  if problems.all (·.isWritable) then .schemaInvalid path problems else .unwritable

/-- The settings that the document of the schema at a path writes, with the dictionaries in a
directory, if there is one. -/
def ofValue (path : Path) (directory : Option Path) (v : Value) : Except Failure Schema := do
  let spelling ← dictionaryPath directory (setting v "schema_name/spelling")
  let (phrases, phraseProblems) := readPhrases (setting v "yuhao_chaifen/lua/phrase")
  let (codePart, modeProblems) := readMode (setting v "yuhao_chaifen/lua/phrase_code_mode")
  let (entries, ruleProblems) := readRules (setting v "encoder/rules")
  let problems := phraseProblems ++ modeProblems ++ ruleProblems
  match spelling, problems with
  | some spellingPath, [] =>
    let codePath ← dictionaryPath directory (setting v "schema_name/code")
    let mixedTyping ← readTags (setting v "abc_segmentor/extra_tags")
    return {
      spellingPath
      codePath
      cycleKey := setting v "yuhao_chaifen/lua/cycle_key"
      switchKey := setting v "yuhao_chaifen/lua/switch_key"
      phrases
      mixedTyping
      toneMarks := (setting v "yuhao_chaifen/lua/tone_marks").isTruthy
      codePart
      entries }
  | some _, problems => throw (problemsFailure path problems)
  | none, problems => throw (problemsFailure path (.noSpelling :: problems))

/-- The settings of the schema at a path, with the dictionaries at a location. -/
def load (reader : Reader) (files : Files) (path : Path) (location : Location) :
    Except Failure Schema :=
  match (files path).bytes path with
  | .error (.missing path) => .error (.schemaMissing path)
  | .error cause => .error (.file cause)
  | .ok found => do
    let v ← (reader.file found).mapError (Failure.ofSchemaFault path)
    match v with
    | .mapping _ => ofValue path (location.directory? path) v
    | _ => throw (.schemaNotMapping path)

end Schema

end GlyphGloss
