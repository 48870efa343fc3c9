import GlyphGloss.Candidate

/-!
# Rounds of candidates

A round hands out the candidates of a list one at a time. Whether the round annotates is decided
when the first candidate is asked for, and holds for the whole round; after the last candidate, or
after a failure, nothing more is handed out.

## Main definitions

* `Round`: a round under way.
* `Round.start`: the round of a list of candidates.
* `Round.next`: the next candidate and whether it is to be annotated.
* `Round.fail`: the round after a failure.

## Main results

* `Round.pulled_next_le`: asking once takes at most one candidate.
-/

namespace GlyphGloss

/-- Where a round stands. -/
inductive Round.Phase where
  /-- Nothing was asked for yet. -/
  | waiting
  /-- The round hands out candidates as they are. -/
  | passing
  /-- The round annotates. -/
  | annotating
  /-- The round is over. -/
  | over
deriving DecidableEq, Repr

/-- A round of candidates under way. -/
structure Round where
  /-- The candidates that were not taken yet. -/
  remaining : List Candidate
  /-- The number of candidates taken. -/
  pulled : Nat := 0
  /-- Where the round stands. -/
  phase : Round.Phase := .waiting
deriving DecidableEq, Repr

namespace Round

/-- What a round hands out. -/
inductive Pull where
  | nothing
  | asIs (c : Candidate)
  | annotated (c : Candidate)
deriving DecidableEq, Repr

/-- The round of a list of candidates. -/
def start (candidates : List Candidate) : Round :=
  { remaining := candidates }

/-- Where a round stands once something is asked for. -/
def Phase.begin (off : Bool) : Phase → Phase
  | .waiting => if off then .passing else .annotating
  | phase => phase

/-- The next candidate of a round. -/
def next (off : Bool) (r : Round) : Round × Pull :=
  match r.phase.begin off, r.remaining with
  | .over, _ => (r, .nothing)
  | _, [] => ({ r with phase := .over }, .nothing)
  | .passing, c :: rest =>
    ({ remaining := rest, pulled := r.pulled + 1, phase := .passing }, .asIs c)
  | phase, c :: rest =>
    ({ remaining := rest, pulled := r.pulled + 1, phase }, .annotated c)

/-- The round after a failure. -/
def fail (r : Round) : Round :=
  { r with phase := .over }

/-- Asking once takes at most one candidate. -/
theorem pulled_next_le (off : Bool) (r : Round) : (r.next off).1.pulled ≤ r.pulled + 1 := by
  unfold next
  split <;> simp

end Round

end GlyphGloss
