import GlyphGloss.Session.Basic

/-!
# Requests to sessions

A session serves requests one after the other: changes of its options, annotations, look-ups, and
candidates of rounds, of which any number may be under way. What is seen of a request is the events
on the way, its answer or failure, and the options after it.

## Main definitions

* `Session.Request`, `Session.Answer`: what is asked of a session, and what it answers.
* `Session.handle`: one request.
* `Session.serve`: what is seen of requests in a row.
-/

namespace GlyphGloss.Session

/-- What is asked of a session. -/
inductive Request where
  | set (name : String) (on : Bool)
  | toggle (name : String)
  | cycle (reverse : Bool)
  | ensureInitialized
  | switch
  | press (key : String) (composing : Bool)
  /-- The annotation of a text. -/
  | note (t : Text)
  /-- The text of a key in the dictionary of records. -/
  | lookup (key : Text)
  /-- All candidates of a list with their annotations. -/
  | annotate (candidates : List Candidate)
  /-- A new round of candidates. -/
  | start (candidates : List Candidate)
  /-- The next candidate of the round at a place, the latest round being the first. -/
  | pull (place : Nat)

/-- What a session answers. -/
inductive Answer where
  | nothing
  | moved (move : OptionGroup.Move)
  | pressed (outcome : KeyOutcome)
  | noted (shown : Option Text)
  | found (t : Text)
  | annotated (candidates : List Candidate)
  /-- A candidate, if one was left, and the number that its round has taken so far. -/
  | handedOut (c : Option Candidate) (pulled : Nat)

/-- The reply with another form of its result. -/
def Reply.map {α β : Type} (f : α → β) (r : Reply α) : Reply β :=
  ⟨r.session, r.events, r.result.map f⟩

/-- The rounds after a request, and the reply to it. -/
def handle (s : Session) (rounds : List Round) : Request → List Round × Reply Answer
  | .set name on => (rounds, (s.set name on).done .nothing)
  | .toggle name => (rounds, (s.toggle name).done .nothing)
  | .cycle reverse => (rounds, (s.cycle reverse).map .moved)
  | .ensureInitialized => (rounds, s.ensureInitialized.map fun _ => .nothing)
  | .switch => (rounds, s.switch.map .moved)
  | .press key composing => (rounds, (s.press key composing).map .pressed)
  | .note t => (rounds, (s.note t).map .noted)
  | .lookup key => (rounds, (s.lookup key).map .found)
  | .annotate candidates => (rounds, (s.annotateAll candidates).map .annotated)
  | .start candidates => (Round.start candidates :: rounds, s.done .nothing)
  | .pull place =>
    match rounds[place]? with
    | none => (rounds, s.done .nothing)
    | some r =>
      let (r, reply) := s.pull r
      (rounds.set place r, reply.map (.handedOut · r.pulled))

/-- What is seen of a request. -/
structure Seen where
  /-- The events on the way. -/
  events : List Event
  /-- The answer. -/
  result : Except Failure Answer
  /-- The options after it. -/
  options : OptionGroup

/-- What is seen of requests in a row, with rounds under way. -/
def serve (s : Session) (rounds : List Round) : List Request → List Seen
  | [] => []
  | request :: rest =>
    let handled := s.handle rounds request
    let reply := handled.2
    ⟨reply.events, reply.result, reply.session.options⟩ :: reply.session.serve handled.1 rest

end GlyphGloss.Session
