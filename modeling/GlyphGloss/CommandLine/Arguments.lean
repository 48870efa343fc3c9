import GlyphGloss.Files.Path
import GlyphGloss.Number.Decimal

/-!
# Arguments of the command line

Arguments are options, which start with a hyphen, and texts. An option can be named by any start of
its long name that is the start of no other one, and can have its value behind an equals sign, where
`--` is no value; short options can be written together, and the first one can have an equals sign
before the others. Texts have to stand in one row, before, between or behind the options; a negative
number is a text, and so is everything behind `--`. Of an option that is given twice the last one
counts.

## Main definitions

* `Arguments`, `Choice`: what the arguments say.
* `Arguments.Refusal`: why arguments are not carried out.
* `Arguments.Word`, `Arguments.classify`: what one argument is.
* `Arguments.parse`: what arguments say.
-/

namespace GlyphGloss

/-- What the arguments say on an option with a value. -/
inductive Choice (α : Type) where
  /-- The option is not given. -/
  | absent
  /-- The option is given the mark of the end of the options, which is no value. -/
  | nothing
  /-- The option is given a value. -/
  | value (a : α)
deriving DecidableEq, Repr

/-- What the arguments of the command line say. -/
structure Arguments where
  /-- The texts to annotate. -/
  texts : List Text := []
  /-- The path of the schema. -/
  schema : Choice Path := .absent
  /-- The directory of the dictionaries. -/
  directory : Choice Path := .absent
  /-- The place of the level that is turned on. -/
  level : Choice Nat := .absent
  /-- The tag of the candidates. -/
  tag : Choice Text := .absent
  /-- Whether to report on the rules and records. -/
  check : Bool := false
  /-- Whether to log everything. -/
  verbose : Bool := false
deriving DecidableEq, Repr

namespace Arguments

/-- Why arguments are not carried out. -/
inductive Refusal where
  | help
  | usage
deriving DecidableEq, Repr

/-- The options. -/
inductive Flag where
  | help
  | schema
  | directory
  | level
  | tag
  | check
  | verbose
deriving DecidableEq, Repr

namespace Flag

/-- Whether an option has a value. -/
def hasValue : Flag → Bool
  | .schema | .directory | .level | .tag => true
  | _ => false

/-- The long names of the options. -/
def longNames : List (Text × Flag) :=
  [("--help".toList, .help), ("--schema".toList, .schema), ("--data-dir".toList, .directory),
    ("--level".toList, .level), ("--type".toList, .tag), ("--check".toList, .check),
    ("--verbose".toList, .verbose)]

/-- The letters of the options that have one. -/
def ofLetter? (c : Char) : Option Flag :=
  if c = 'h' then some .help else if c = 'v' then some .verbose else none

end Flag

/-! ### Single arguments -/

/-- What one argument is. -/
inductive Word where
  /-- A text. -/
  | text
  /-- The mark behind which everything is a text. -/
  | separator
  /-- An option by its long name, perhaps with a value. -/
  | long (flag : Flag) (value : Option Text)
  /-- Options by their letters, of which the first is known, perhaps with more behind it. -/
  | short (flag : Flag) (more : Option Text)
  /-- An option that does not exist. -/
  | unknown
deriving DecidableEq, Repr

/-- Whether a text is a negative number, perhaps with a decimal point and a line feed at its end. -/
def isNegativeNumber (t : Text) : Bool :=
  let t := if t.getLast? = some '\n' then t.dropLast else t
  let isDigit (c : Char) : Bool := (digitValue? c).isSome
  match t with
  | '-' :: body =>
    let whole := body.takeWhile isDigit
    match body.drop whole.length with
    | [] => !whole.isEmpty
    | '.' :: part => !part.isEmpty && part.all isDigit
    | _ => false
  | _ => false

/-- What an argument is that names no option. -/
def withoutOption (t : Text) : Word :=
  if isNegativeNumber t ∨ ' ' ∈ t then .text else .unknown

/-- What an argument that starts with two hyphens is. Its name has to be the start of one long name
only, unless it is a long name itself. -/
def classifyLong (t : Text) : Except Refusal Word :=
  let name := t.takeWhile (· != '=')
  let value := if name.length < t.length then some (t.drop (name.length + 1)) else none
  match Flag.longNames.lookup t, Flag.longNames.lookup name with
  | some flag, _ => .ok (.long flag none)
  | none, some flag => .ok (.long flag value)
  | none, none =>
    match Flag.longNames.filter fun (long, _) => name.isPrefixOf long with
    | [] => .ok (withoutOption t)
    | [(_, flag)] => .ok (.long flag value)
    | _ => .error .usage

/-- What an argument is. -/
def classify (t : Text) : Except Refusal Word :=
  match t with
  | '-' :: '-' :: [] => .ok .separator
  | '-' :: '-' :: _ => classifyLong t
  | '-' :: c :: rest =>
    match Flag.ofLetter? c, rest with
    | some flag, [] => .ok (.short flag none)
    | some flag, '=' :: more => .ok (.short flag (some more))
    | some flag, more => .ok (.short flag (some more))
    | none, _ => .ok (withoutOption t)
  | _ => .ok .text

/-- What arguments are. Behind the separator they are texts. -/
def classifyAll : List Text → Except Refusal (List (Text × Word))
  | [] => .ok []
  | t :: rest => do
    match ← classify t with
    | .separator => return (t, .separator) :: rest.map (·, .text)
    | word =>
      let more ← classifyAll rest
      return (t, word) :: more

/-! ### All arguments -/

/-- The names of the levels. -/
def levelNames : List Text :=
  ["off".toList, "lv1".toList, "lv2".toList, "lv3".toList]

/-- With an option that has no value. -/
def applyFlag (a : Arguments) : Flag → Except Refusal Arguments
  | .help => .error .help
  | .check => .ok { a with check := true }
  | .verbose => .ok { a with verbose := true }
  | _ => .error .usage

/-- The mark of the end of the options. -/
def separator : Text := ['-', '-']

/-- The choice that a text makes, which is none for the mark of the end of the options. -/
def choiceOf {α : Type} (read : Text → α) (t : Text) : Choice α :=
  if t = separator then .nothing else .value (read t)

/-- With an option and its value. -/
def applyValue (a : Arguments) (t : Text) : Flag → Except Refusal Arguments
  | .schema => .ok { a with schema := choiceOf .parse t }
  | .directory => .ok { a with directory := choiceOf .parse t }
  | .level =>
    if t = separator then .ok { a with level := .nothing }
    else
      match levelNames.idxOf? t with
      | some i => .ok { a with level := .value (i + 1) }
      | none => .error .usage
  | .tag => .ok { a with tag := choiceOf id t }
  | _ => .error .usage

/-- The options that letters behind a first one name. There has to be a letter, and all of them have
to be known. -/
def letters (t : Text) : Except Refusal (List Flag) :=
  match t, t.mapM Flag.ofLetter? with
  | _ :: _, some flags => .ok flags
  | _, _ => .error .usage

/-- How far arguments were read. -/
structure Progress where
  /-- What they say so far. -/
  arguments : Arguments := {}
  /-- Whether a row of texts was read. -/
  sawTexts : Bool := false
  /-- Whether an argument was met that has no place. -/
  sawExtra : Bool := false

/-- With a row of texts, of which there may be one only. The first separator in it goes. -/
def Progress.addTexts (p : Progress) (row : List Text) : Progress :=
  if row.isEmpty then p
  else if p.sawTexts then { p with sawExtra := true }
  else
    { p with
      arguments := { p.arguments with texts := row.erase separator }
      sawTexts := true }

/-- What arguments say behind those that were read, the row of texts just read being given in
reverse. -/
def parseFrom (p : Progress) (row : List Text) : List (Text × Word) → Except Refusal Progress
  | [] => .ok (p.addTexts row.reverse)
  | (t, .text) :: rest => parseFrom p (t :: row) rest
  | (t, .separator) :: rest => parseFrom p (t :: row) rest
  | (_, .unknown) :: rest =>
    parseFrom { p.addTexts row.reverse with sawExtra := true } [] rest
  | (_, .long flag (some value)) :: rest => do
    let p := p.addTexts row.reverse
    let arguments ← p.arguments.applyValue value flag
    parseFrom { p with arguments } [] rest
  | (_, .long flag none) :: rest => do
    let p := p.addTexts row.reverse
    if flag.hasValue then
      match rest with
      | (value, .text) :: rest =>
        let arguments ← p.arguments.applyValue value flag
        parseFrom { p with arguments } [] rest
      | _ => throw .usage
    else
      let arguments ← p.arguments.applyFlag flag
      parseFrom { p with arguments } [] rest
  | (_, .short flag more) :: rest => do
    let p := p.addTexts row.reverse
    let flags ← (more.map letters).getD (.ok [])
    let arguments ← (flag :: flags).foldlM applyFlag p.arguments
    parseFrom { p with arguments } [] rest

/-- What arguments say. A schema has to be given. -/
def parse (arguments : List Text) : Except Refusal Arguments := do
  let p ← parseFrom {} [] (← classifyAll arguments)
  if p.arguments.schema = .absent ∨ p.sawExtra then throw .usage
  return p.arguments

end Arguments

end GlyphGloss
