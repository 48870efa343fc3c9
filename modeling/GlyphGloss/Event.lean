import GlyphGloss.Composition
import GlyphGloss.Files.Path
import GlyphGloss.Number.Decimal
import GlyphGloss.Options.Keys
import GlyphGloss.Text.Quoted

/-!
# Events

What happens on the way is recorded as events, each with a severity, the part of the program that it
comes from, and a message.

## Main definitions

* `Severity`: the severities of events.
* `Event`: the events, with `Event.severity`, `Event.source` and `Event.message`.
* `Event.ofComposition`: the events of composing a phrase.
* `Event.ofCycle`, `Event.ofSwitch`, `Event.ofKey`: the events of actions on option groups.
* `Event.line`: an event as a line of a log.
* `Event.log`: the lines of the events that are severe enough.
-/

namespace GlyphGloss

/-- How severe an event is. -/
inductive Severity where
  | debug
  | info
  | warning
deriving DecidableEq, Repr

namespace Severity

/-- The severities in order. -/
def rank : Severity → Nat
  | .debug => 0
  | .info => 1
  | .warning => 2

/-- The name of a severity. -/
def name : Severity → String
  | .debug => "DEBUG"
  | .info => "INFO"
  | .warning => "WARNING"

end Severity

/-- Something that happened on the way. -/
inductive Event where
  | schemaLoaded (path : Path)
  /-- The standard rules are used, none being configured. -/
  | standardRules
  | rulesBuilt (lengths formulas : Nat)
  | codesMissing (path : Path)
  /-- A line of a dictionary is no row. -/
  | rowSkipped (place : Nat) (line : Text)
  | lexiconLoaded (entries : Nat) (path : Path)
  /-- A phrase has no composition. -/
  | gap (phrase : Text) (cause : Composition.Gap)
  | cycled (name : String)
  | switched (name : String)

namespace Event

/-- How severe an event is. -/
def severity : Event → Severity
  | .gap _ _ => .debug
  | .codesMissing _ | .rowSkipped _ _ => .warning
  | _ => .info

/-- The part of the program that an event comes from. -/
def source : Event → String
  | .schemaLoaded _ => "tricomment.config"
  | .standardRules | .codesMissing _ => "tricomment.pipeline"
  | .rulesBuilt _ _ => "tricomment.encoder.rules"
  | .rowSkipped _ _ => "tricomment.io.rime_dict"
  | .lexiconLoaded _ _ => "tricomment.record.repository"
  | .gap _ _ => "tricomment.compose.phrase"
  | .cycled _ | .switched _ => "tricomment.options"

/-- The message on a phrase without a composition. -/
def gapMessage (phrase : Text) : Composition.Gap → Text
  | .noFormula length =>
    "No formula for phrase length ".toList ++ Text.ofNat length ++ ": ".toList ++ phrase.quoted
  | .outside position =>
    "Character index ".toList ++ Text.ofInt position ++ " out of range for ".toList ++
      phrase.quoted
  | .noRecord c =>
    "No record for ".toList ++ Text.quoted [c] ++ " in phrase ".toList ++ phrase.quoted
  | .noCodes => "No codes recorded for phrase ".toList ++ phrase.quoted

/-- The message of an event. -/
def message : Event → Text
  | .schemaLoaded path => "Loaded schema settings from ".toList ++ path.text
  | .standardRules => "No encoder rules configured; using built-in defaults".toList
  | .rulesBuilt lengths formulas =>
    "Built rule table for ".toList ++ Text.ofNat lengths ++ " lengths from ".toList ++
      Text.ofNat formulas ++ " distinct formulas".toList
  | .codesMissing path => "Code dictionary not found: ".toList ++ path.text
  | .rowSkipped place line =>
    "Skipping malformed dictionary row ".toList ++ Text.ofNat place ++ ": ".toList ++ line.quoted
  | .lexiconLoaded entries path =>
    "Loaded ".toList ++ Text.ofNat entries ++ " reverse-lookup entries from ".toList ++ path.text
  | .gap phrase cause => gapMessage phrase cause
  | .cycled name => "Cycled option group to ".toList ++ name.toList
  | .switched name => "Switched option group to ".toList ++ name.toList

/-- An event as a line of a log. -/
def line (e : Event) : Text :=
  e.severity.name.toList ++ [' '] ++ e.source.toList ++ ": ".toList ++ e.message

/-- The events of composing a phrase. -/
def ofComposition (phrase : Text) : Except Composition.Gap Text → List Event
  | .error cause => [.gap phrase cause]
  | .ok _ => []

/-- The events of cycling an option group. -/
def ofCycle : OptionGroup.Move → List Event
  | .landed _ name => [.cycled name]
  | _ => []

/-- The events of switching an option group. -/
def ofSwitch : OptionGroup.Move → List Event
  | .landed _ name => [.switched name]
  | _ => []

/-- The events of a key. -/
def ofKey : KeyOutcome → List Event
  | .noop => []
  | .cycled move => ofCycle move
  | .switched move => ofSwitch move

/-- The lines of the events that are at least as severe as asked. -/
def log (least : Severity) (events : List Event) : List Text :=
  (events.filter fun e => least.rank ≤ e.severity.rank).map line

end Event

end GlyphGloss
