import GlyphGloss.Annotator
import GlyphGloss.Dictionary.Shelf
import GlyphGloss.Round

/-!
# Sessions

A session annotates candidates under options that keys change. It looks into two dictionaries, each
of which is read at the first look-up in it. Every step gives the session after it, the events on
the way, and its result or the failure that it ended with.

## Main definitions

* `Session`: the state of a session.
* `Session.Reply`: what a step came to.
* `Session.annotate`, `Session.annotateAll`: one candidate, and a list of them in one round.
* `Session.pull`: the next candidate of a round under way.
* `Session.note`, `Session.lookup`: the annotation of a text, and the record of a key.
* `Session.cycle`, `Session.switch`, `Session.press` and others: changes of the options.
-/

namespace GlyphGloss

/-- The state of a session. -/
structure Session where
  /-- The settings and rules. -/
  annotator : Annotator
  /-- The keys that act on the options. -/
  keys : KeyBindings
  /-- The options. -/
  options : OptionGroup
  /-- The dictionary of the characters' records. -/
  spelling : Shelf
  /-- The dictionary of codes. -/
  code : Shelf

namespace Session

/-- What a step came to. -/
structure Reply (α : Type) where
  /-- The session after the step. -/
  session : Session
  /-- The events on the way. -/
  events : List Event
  /-- The result. -/
  result : Except Failure α

/-- A step that came to a result without an event. -/
def done {α : Type} (s : Session) (a : α) : Reply α :=
  ⟨s, [], .ok a⟩

/-! ### Dictionaries -/

/-- The dictionary of a source. -/
def shelf (s : Session) : Source → Shelf
  | .spelling => s.spelling
  | .code => s.code

/-- The session with another state of the dictionary of a source. -/
def setShelf (s : Session) : Source → Shelf → Session
  | .spelling, shelf => { s with spelling := shelf }
  | .code, shelf => { s with code := shelf }

/-- Reads the dictionary of a source unless that was done. -/
def consult (s : Session) (source : Source) : Reply Unit :=
  match (s.shelf source).read with
  | .error cause => ⟨s, [], .error cause⟩
  | .ok (lexicon, events) => ⟨s.setShelf source (.opened lexicon), events, .ok ()⟩

/-- Reads the dictionary of a source, if there is one. -/
def consultFor (s : Session) : Option Source → Reply Unit
  | none => s.done ()
  | some source => s.consult source

/-- The step that goes on behind another one, unless that failed. -/
def Reply.andThen {α β : Type} (r : Reply α) (next : Session → α → Reply β) : Reply β :=
  match r.result with
  | .error cause => ⟨r.session, r.events, .error cause⟩
  | .ok a =>
    let r' := next r.session a
    ⟨r'.session, r.events ++ r'.events, r'.result⟩

/-- The text of a key in the dictionary of records. -/
def lookup (s : Session) (key : Text) : Reply Text :=
  (s.consult .spelling).andThen fun s _ => s.done (s.spelling.lookup key)

/-! ### Annotations -/

/-- The annotation of a text. -/
def note (s : Session) (t : Text) : Reply (Option Text) :=
  (s.consultFor (if s.annotator.looksUp t then some .spelling else none)).andThen fun s _ =>
    let found := s.annotator.note s.spelling.lookup s.options.level t
    ⟨s, found.gaps.map (.gap t), .ok found.text⟩

/-- A candidate with its annotation. -/
def annotate (s : Session) (c : Candidate) : Reply Candidate :=
  (s.consultFor (s.annotator.source? c)).andThen fun s _ =>
    let (annotated, gaps) :=
      s.annotator.annotate s.spelling.lookup s.code.lookup s.options.level c
    ⟨s, gaps.map (.gap c.text), .ok annotated⟩

/-- Candidates with their annotations, up to the first failure. -/
def annotateEach (s : Session) : List Candidate → Reply (List Candidate)
  | [] => s.done []
  | c :: rest =>
    (s.annotate c).andThen fun s first =>
      (s.annotateEach rest).andThen fun s more => s.done (first :: more)

/-- The candidates of one round: as they are if annotations are off, else with their annotations. -/
def annotateAll (s : Session) (candidates : List Candidate) : Reply (List Candidate) :=
  if s.options.isOff then s.done candidates else s.annotateEach candidates

/-- The next candidate of a round under way, and the round behind it. A failure ends the round. -/
def pull (s : Session) (r : Round) : Round × Reply (Option Candidate) :=
  let (r, pulled) := r.next s.options.isOff
  match pulled with
  | .nothing => (r, s.done none)
  | .asIs c => (r, s.done (some c))
  | .annotated c =>
    let reply := s.annotate c
    match reply.result with
    | .error cause => (r.fail, ⟨reply.session, reply.events, .error cause⟩)
    | .ok annotated => (r, ⟨reply.session, reply.events, .ok (some annotated)⟩)

/-! ### Options -/

/-- The reply of an action on the options. -/
def optionReply {α : Type} (s : Session) (outcome : OptionGroup × Except OptionError α)
    (events : α → List Event) : Reply α :=
  let s := { s with options := outcome.1 }
  match outcome.2 with
  | .error cause => ⟨s, [], .error (.options cause)⟩
  | .ok a => ⟨s, events a, .ok a⟩

/-- The session with a flag set. -/
def set (s : Session) (name : String) (on : Bool) : Session :=
  { s with options := s.options.set name on }

/-- The session with a flag flipped. -/
def toggle (s : Session) (name : String) : Session :=
  { s with options := s.options.toggle name }

/-- One step of the options forward or back. -/
def cycle (s : Session) (reverse : Bool) : Reply OptionGroup.Move :=
  s.optionReply (s.options.cycle reverse) Event.ofCycle

/-- The options switched off or on. -/
def switch (s : Session) : Reply OptionGroup.Move :=
  s.optionReply s.options.switch Event.ofSwitch

/-- A flag of the options turned on if none is. -/
def ensureInitialized (s : Session) : Reply Unit :=
  s.optionReply s.options.ensureInitialized fun _ => []

/-- A key pressed. -/
def press (s : Session) (key : String) (composing : Bool) : Reply KeyOutcome :=
  s.optionReply (s.keys.press s.options key composing) Event.ofKey

end Session

end GlyphGloss
