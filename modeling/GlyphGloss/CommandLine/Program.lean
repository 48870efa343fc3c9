import GlyphGloss.CommandLine.Arguments
import GlyphGloss.Display.Table
import GlyphGloss.Record.Check
import GlyphGloss.Session.Build

/-!
# The command line

The program annotates the texts that it is given, one to a line with the text and the annotation,
and can report on the rules and on malformed records before. Mistakes in the settings stop it with a
message.

## Main definitions

* `Program.Outcome`: what a run comes to.
* `Program.start`: the session of the arguments.
* `Program.report`: the report on rules and records.
* `Program.run`: a run of the program.
* `Program.dictionaries`: the dictionaries that a run may open.
* `Program.Outcome.status`: the exit status of a run.
-/

namespace GlyphGloss.Program

/-- What a run comes to. -/
inductive Outcome where
  | finished (output log : Text)
  | refused (cause : Arguments.Refusal)
  | stopped (message : Text)
  | failed (cause : Failure)

/-- Whether a failure before the first annotation stops the program with a message. -/
def isReported (cause : Failure) : Bool :=
  cause.kind.isReported

/-- The outcome of a failure before the first annotation. -/
def startFailure (cause : Failure) : Outcome :=
  if isReported cause then .stopped cause.message else .failed cause

/-- The options with the flag at one place on and all others off. -/
def selectPlace (g : OptionGroup) (place : Nat) : OptionGroup :=
  (g.names.zipIdx 1).foldl (fun g (name, i) => g.set name (i == place)) g

/-- Where the dictionaries are that the arguments name. -/
def location (a : Arguments) : Schema.Location :=
  match a.directory with
  | .absent => .beside
  | .nothing => .nowhere
  | .value directory => .inside directory

/-- The settings of the schema that the arguments name, and its path. -/
def settings (reader : Reader) (files : Files) (a : Arguments) :
    Except Failure (Path × Schema) :=
  match a.schema with
  | .value path => do return (path, ← Schema.load reader files path (location a))
  | _ => .error .noSchema

/-- The session of the arguments, and the events of building it. -/
def start (tools : Tools) (files : Files) (a : Arguments) :
    Except Failure (Session × List Event) := do
  let (path, schema) ← settings tools.reader files a
  let built ← Session.build tools files schema
  return (built.session, .schemaLoaded path :: built.events)

/-- The session with the level that the arguments choose turned on. -/
def selectLevel (a : Arguments) (s : Session) : Except Failure Session :=
  match a.level with
  | .absent => .ok s
  | .nothing => .error .noLevel
  | .value place => .ok { s with options := selectPlace s.options place }

/-- A line of the output. -/
def outputLine (t : Text) : Text :=
  t ++ ['\n']

/-! ### The report -/

/-- An instruction in the report. -/
def instructionCell (i : Instruction) : Text :=
  ['('] ++ Text.ofInt i.character ++ [','] ++ Text.ofInt i.component ++ [')']

/-- The rows of the rule table in the report. -/
def ruleRows (table : RuleTable) : List (List Text) :=
  table.toList.map fun (length, formula) =>
    [Text.ofInt length, formula.flatMap instructionCell]

/-- A table of the report. -/
def reportTable (headers : List String) (rows : List (List Text)) : Text :=
  (Display.table? columns (headers.map String.toList) rows).getD []

/-- How many malformed records the report shows. -/
def shownRecords : Nat := 50

/-- The report on malformed records. -/
def recordReport (found : List (Text × Text)) : Text :=
  if found.isEmpty then outputLine "\nSpelling records: no malformed records.".toList
  else
    outputLine ("\nWARNING: Malformed spelling records (".toList ++ Text.ofNat found.length ++
      "):".toList) ++
    outputLine (reportTable ["key", "record"]
      ((found.take shownRecords).map fun (key, raw) => [key, raw]))

/-- Whether all lengths of a rule table can be written. -/
def canReport (table : RuleTable) : Bool :=
  table.toList.all fun (length, _) => Numeral.isWritable length

/-- The report on rules and records. -/
def report (s : Session) : Session.Reply Text :=
  if !canReport s.annotator.rules then ⟨s, [], .error .unwritable⟩
  else
    (s.consult .spelling).andThen fun s _ =>
      let entries :=
        match s.spelling with
        | .opened lexicon => lexicon.items
        | .closed _ _ => []
      s.done (outputLine "Rule table:".toList ++
        outputLine (reportTable ["length", "instructions"] (ruleRows s.annotator.rules)) ++
        recordReport (Record.findMalformed entries))

/-! ### Runs -/

/-- The tag of the candidates if the arguments choose none. -/
def standardTag : Text := "table".toList

/-- The candidate of a text. -/
def candidate (tag text : Text) : Candidate :=
  { tag := String.ofList tag, start := 0, stop := text.length, text, comment := [] }

/-- The line of an annotated candidate. -/
def candidateLine (c : Candidate) : Text :=
  outputLine (c.text ++ ['\t'] ++ c.comment)

/-- The candidates of the arguments after their round. Without a tag they cannot be annotated. -/
def annotated (s : Session) (a : Arguments) : Session.Reply (List Candidate) :=
  match a.tag with
  | .value tag => s.annotateAll (a.texts.map (candidate tag))
  | .absent => s.annotateAll (a.texts.map (candidate standardTag))
  | .nothing =>
    if s.options.isOff || a.texts.isEmpty then s.done (a.texts.map (candidate []))
    else ⟨s, [], .error .noTag⟩

/-- The output of a session. -/
def output (s : Session) (a : Arguments) : Session.Reply Text :=
  (if a.check then report s else s.done []).andThen fun s head =>
    (annotated s a).andThen fun s found => s.done (head ++ found.flatMap candidateLine)

/-- The log of events. -/
def logText (verbose : Bool) (events : List Event) : Text :=
  (Event.log (if verbose then .debug else .warning) events).flatMap outputLine

/-- A run of the program with arguments. -/
def run (tools : Tools) (files : Files) (arguments : List Text) : Outcome :=
  match Arguments.parse arguments with
  | .error cause => .refused cause
  | .ok a =>
    match start tools files a with
    | .error cause => startFailure cause
    | .ok (s, events) =>
      match selectLevel a s with
      | .error cause => .failed cause
      | .ok s =>
        let reply := output s a
        match reply.result with
        | .error cause => .failed cause
        | .ok text => .finished text (logText a.verbose (events ++ reply.events))

/-- The dictionaries that a run with arguments may open, given what is found at the schema. -/
def dictionaries (reader : Reader) (files : Files) (a : Arguments) : List Path :=
  match settings reader files a with
  | .ok (_, schema) => schema.spellingPath :: schema.codePath.toList
  | .error _ => []

/-- The exit status of a run. -/
def Outcome.status : Outcome → Nat
  | .finished _ _ => 0
  | .refused .help => 0
  | .refused .usage => 2
  | .stopped _ => 1
  | .failed _ => 1

end GlyphGloss.Program
