import GlyphGloss.Files.Entry
import GlyphGloss.Options.Basic
import GlyphGloss.Rules.Table
import GlyphGloss.Value.Reader

/-!
# Failures

Why loading settings, building a session or looking something up failed.

## Main definitions

* `SchemaProblem`: what is wrong with a setting.
* `Failure`: the causes of failure, with `Failure.message` and `Failure.kind`.
* `Formula.read`: the formula that a value has to write.
* `Files.readExisting`: the text of a file that has to be there.

## Main results

* `except_bind_eq_ok_iff`, `except_bind_eq_error_iff`: what two checked steps come to.
-/

namespace GlyphGloss

/-- What is wrong with a setting of a schema. -/
inductive SchemaProblem where
  /-- The spelling dictionary is not named. -/
  | noSpelling
  /-- The setting of phrases is no whole number. -/
  | phraseNotWhole (v : Value)
  /-- The setting of phrase codes is neither of the two words. -/
  | unknownMode (v : Value)
  /-- The rules are no list. -/
  | rulesNotList

/-- A problem in words. -/
def SchemaProblem.message : SchemaProblem → Text
  | .noSpelling => "missing schema_name/spelling".toList
  | .phraseNotWhole v =>
    "yuhao_chaifen/lua/phrase must be an integer, got ".toList ++ v.literal
  | .unknownMode v =>
    "yuhao_chaifen/lua/phrase_code_mode must be literal or terse, got ".toList ++ v.literal
  | .rulesNotList => "encoder/rules must be a list".toList

/-- Whether a problem can be put in words. -/
def SchemaProblem.isWritable : SchemaProblem → Bool
  | .phraseNotWhole v => v.isWritable
  | .unknownMode v => v.isWritable
  | _ => true

/-- Why something failed. -/
inductive Failure where
  | schemaMissing (path : Path)
  /-- There is no dictionary to read a header from. -/
  | dictionaryMissing (path : Path)
  /-- There is no dictionary to look into. -/
  | lexiconMissing (path : Path)
  | spellingMissing (path : Path)
  | file (cause : FileError)
  | schemaMalformed (path : Path) (detail : Text)
  | headerMalformed (path : Path) (detail : Text)
  /-- The reader of settings documents failed, not for the form of the document. -/
  | reader (kind : Failure.Kind) (message : Text)
  /-- A number has more digits than are written. -/
  | unwritable
  /-- The path of the schema was left empty. -/
  | noSchema
  /-- The directory of the dictionaries was left empty. -/
  | noDirectory
  /-- The level was left empty. -/
  | noLevel
  /-- The tag of the candidates was left empty. -/
  | noTag
  | schemaNotMapping (path : Path)
  | schemaInvalid (path : Path) (problems : List SchemaProblem)
  /-- The tags of a schema are a value without a length. -/
  | noLength (kind : String)
  /-- A value that should write a formula writes none. -/
  | formula (v : Value)
  | entries (cause : RuleSetting.EntriesError)
  | table (cause : RuleTable.BuildError)
  | options (cause : OptionError)

namespace Failure

/-- A failure in words. -/
def message : Failure → Text
  | .schemaMissing path => "Schema file not found: ".toList ++ path.text
  | .dictionaryMissing path => "Dictionary file not found: ".toList ++ path.text
  | .lexiconMissing path => "Reverse-lookup file not found: ".toList ++ path.text
  | .spellingMissing path => "Spelling dictionary not found: ".toList ++ path.text
  | .file cause => cause.message
  | .schemaMalformed path detail =>
    "Error parsing YAML file at ".toList ++ path.text ++ ": ".toList ++ detail
  | .headerMalformed path detail =>
    "Error parsing dictionary header in ".toList ++ path.text ++ ": ".toList ++ detail
  | .reader _ message => message
  | .unwritable => Numeral.limitMessage none
  | .noSchema => "'list' object has no attribute 'open'".toList
  | .noDirectory => "unsupported operand type(s) for /: 'list' and 'str'".toList
  | .noLevel => "tuple.index(x): x not in tuple".toList
  | .noTag => "unhashable type: 'list'".toList
  | .schemaNotMapping path =>
    "Schema file ".toList ++ path.text ++ " must contain a mapping.".toList
  | .schemaInvalid path problems =>
    "Invalid schema ".toList ++ path.text ++ ": ".toList ++
      Text.join "; ".toList (problems.map (·.message))
  | .noLength kind => "object of type '".toList ++ kind.toList ++ "' has no len()".toList
  | .formula v => Formula.invalidMessage v
  | .entries cause => cause.message
  | .table cause => cause.message
  | .options cause => cause.message.toList

/-- The kind of a file error. -/
def ofFileError : FileError → Kind
  | .missing _ => .notFound
  | .directory _ => .isDirectory
  | .blocked _ => .notDirectory
  | .nameTooLong _ => .system
  | .impossible => .wrongValue
  | .undecodable _ => .undecodable

/-- The kind of a conversion error. -/
def ofConversionError : RuleSetting.ConversionError → Kind
  | .missing _ => .missingKey
  | .notNumber _ | .noElements _ => .wrongType
  | .infinite => .overflow
  | .numeral _ | .tooLong _ | .notANumber | .tooFew _ | .tooMany | .unwritable => .wrongValue

/-- The kind of an error of rule entries. -/
def ofEntriesError : RuleSetting.EntriesError → Kind
  | .noElements _ => .wrongType
  | .defects _ | .unwritable => .wrongValue
  | .conversion cause => ofConversionError cause

/-- The kind of an error of a rule table. -/
def ofBuildError : RuleTable.BuildError → Kind
  | .notComparable _ => .wrongType
  | .invalid _ => .wrongValue

/-- The kind of a failure. -/
def kind : Failure → Kind
  | .schemaMissing _ | .dictionaryMissing _ | .lexiconMissing _ | .spellingMissing _ => .notFound
  | .file cause => ofFileError cause
  | .schemaMalformed _ _ | .headerMalformed _ _ | .schemaInvalid _ _ | .unwritable | .noLevel |
    .formula _ => .wrongValue
  | .reader kind _ => kind
  | .noSchema => .unable
  | .schemaNotMapping _ | .noLength _ | .noDirectory | .noTag => .wrongType
  | .entries cause => ofEntriesError cause
  | .table cause => ofBuildError cause
  | .options .placeOutside => .outside

/-- The failure for the document of the schema at a path. That something was not found is taken to
be the schema. -/
def ofSchemaFault (path : Path) : Reader.Fault → Failure
  | .malformed detail => .schemaMalformed path detail
  | .failed .notFound _ => .schemaMissing path
  | .failed kind message => .reader kind message

/-- The failure for the header of the dictionary at a path. -/
def ofHeaderFault (path : Path) : Reader.Fault → Failure
  | .malformed detail => .headerMalformed path detail
  | .failed kind message => .reader kind message

end Failure

/-! ### Checked steps -/

/-- Two steps come to a result if the first one does, and the second one behind it. -/
theorem except_bind_eq_ok_iff {ε α β : Type} {x : Except ε α} {f : α → Except ε β} {b : β} :
    x >>= f = .ok b ↔ ∃ a, x = .ok a ∧ f a = .ok b := by
  cases x <;> simp [bind, Except.bind]

/-- Two steps fail if the first one does, or the second one behind it. -/
theorem except_bind_eq_error_iff {ε α β : Type} {x : Except ε α} {f : α → Except ε β} {e : ε} :
    x >>= f = .error e ↔ x = .error e ∨ ∃ a, x = .ok a ∧ f a = .error e := by
  cases x <;> simp [bind, Except.bind]

/-- The formula that a value has to write. -/
def Formula.read (v : Value) : Except Failure Formula :=
  match Formula.ofValue? v with
  | some f => .ok f
  | none => .error (.formula v)

/-- The text of the file at a path, with the given failure if nothing is there. -/
def Files.readExisting (files : Files) (path : Path) (missing : Failure) : Except Failure Text := do
  let found := files path
  match found.exists? path with
  | .error cause => throw (.file cause)
  | .ok false => throw missing
  | .ok true => (found.read path).mapError .file

end GlyphGloss
