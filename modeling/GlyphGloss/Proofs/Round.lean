import GlyphGloss.Display.Tone
import GlyphGloss.Proofs.Options.Dial
import GlyphGloss.Session.Basic

/-!
# Rounds under changing options

Between the candidates that are asked of a round the options may change, and a change shows in two
ways. Whether the round annotates is what the options say when something is first asked for, and no
later change alters it; the level of an annotation is the one at the moment when its candidate is
asked for. Here rounds are followed through every interleaving of changes with asking, over
dictionaries that were read.

## Main definitions

* `OptionChange`, `Session.change`: the changes of the options.
* `Session.Step`, `Session.interleave`: changes interleaved with asking a round.
* `Session.offAtFirstPull`: whether annotations are off when something is first asked for.
* `Session.shown`: a candidate as a round hands it out.
* `Round.Taken`: a round that was asked a number of times.

## Main results

* `Round.Taken.next`, `Session.pull_taken`: asking a round once more.
* `Session.pull_interleaved`: what a round hands out after any interleaving.
-/

namespace GlyphGloss

/-- A change of the options. -/
inductive OptionChange where
  | act (a : OptionGroup.Action)
  | press (e : KeyPress)
deriving DecidableEq, Repr

/-- The options after a change. -/
def OptionChange.apply (keys : KeyBindings) (g : OptionGroup) : OptionChange → OptionGroup
  | .act a => (a.apply g).1
  | .press e => (keys.press g e.key e.composing).1

/-! ### Rounds -/

namespace Round

/-- What a round hands out of a candidate. -/
def Pull.of (off : Bool) (c : Candidate) : Pull :=
  if off then .asIs c else .annotated c

/-- Where a round of a length stands that was asked a number of times. -/
def Phase.after (off : Bool) (length count : Nat) : Phase :=
  if count = 0 then .waiting
  else if length < count then .over
  else if off then .passing
  else .annotating

/-- A round that was asked a number of times, and passes candidates on as they are if annotations
were off the first time. -/
structure Taken (candidates : List Candidate) (off : Bool) (count : Nat) (r : Round) : Prop where
  /-- The candidates that were not handed out remain. -/
  remaining_eq : r.remaining = candidates.drop count
  /-- No more candidates were taken than handed out. -/
  pulled_eq : r.pulled = min count candidates.length
  /-- The round goes on as it began, until there is nothing left. -/
  phase_eq : r.phase = Phase.after off candidates.length count

variable {candidates : List Candidate} {off now : Bool} {count : Nat} {r : Round}

theorem taken_start (candidates : List Candidate) (off : Bool) :
    (start candidates).Taken candidates off 0 where
  remaining_eq := rfl
  pulled_eq := (Nat.zero_min _).symm
  phase_eq := rfl

theorem Phase.after_of_lt {length : Nat} (h : length < count) :
    Phase.after off length count = .over := by
  rw [Phase.after, if_neg (by omega), if_pos h]

theorem Phase.after_of_le {length : Nat} (hzero : count ≠ 0) (hle : count ≤ length) :
    Phase.after off length count = if off then .passing else .annotating := by
  rw [Phase.after, if_neg hzero, if_neg (by omega)]

/-- Where a round stands that did not find nothing left, once something is asked for. -/
theorem Phase.begin_after (hnow : count = 0 → now = off) {length : Nat} (hle : count ≤ length) :
    (Phase.after off length count).begin now = if off then .passing else .annotating := by
  by_cases hzero : count = 0
  · rw [Phase.after, if_pos hzero, Phase.begin, hnow hzero]
  · rw [Phase.after_of_le hzero hle]
    cases off <;> rfl

theorem next_of_over (hphase : r.phase = .over) : r.next now = (r, .nothing) := by
  unfold next
  rw [hphase]
  rfl

theorem next_of_nil (hbegin : r.phase.begin now = if off then .passing else .annotating)
    (hremaining : r.remaining = []) : r.next now = ({ r with phase := .over }, .nothing) := by
  unfold next
  rw [hbegin, hremaining]
  cases off <;> rfl

theorem next_of_cons (hbegin : r.phase.begin now = if off then .passing else .annotating)
    {c : Candidate} {rest : List Candidate} (hremaining : r.remaining = c :: rest) :
    r.next now = ({
      remaining := rest
      pulled := r.pulled + 1
      phase := if off then .passing else .annotating }, Pull.of off c) := by
  unfold next
  rw [hbegin, hremaining]
  cases off <;> rfl

/-- Asking a round once more. The options matter the first time only. -/
theorem Taken.next (h : r.Taken candidates off count) (hnow : count = 0 → now = off) :
    (r.next now).1.Taken candidates off (count + 1) ∧
      (r.next now).2 = (candidates[count]?.map (Pull.of off)).getD .nothing := by
  have hremaining := h.remaining_eq
  have hpulled := h.pulled_eq
  have hphase := h.phase_eq
  rcases Nat.lt_or_ge candidates.length count with hover | hle
  · rw [Phase.after_of_lt hover] at hphase
    rw [next_of_over hphase, List.getElem?_eq_none (by omega)]
    refine ⟨⟨?_, ?_, ?_⟩, rfl⟩
    · rw [hremaining, List.drop_of_length_le (by omega), List.drop_of_length_le (by omega)]
    · rw [hpulled, Nat.min_eq_right (by omega), Nat.min_eq_right (by omega)]
    · rw [hphase, Phase.after_of_lt (by omega)]
  · have hbegin : r.phase.begin now = if off then .passing else .annotating := by
      rw [hphase, Phase.begin_after hnow hle]
    rw [Nat.min_eq_left hle] at hpulled
    rcases Nat.lt_or_ge count candidates.length with hlt | hge
    · rw [List.drop_eq_getElem_cons hlt] at hremaining
      rw [next_of_cons hbegin hremaining, hpulled, List.getElem?_eq_getElem hlt]
      exact ⟨⟨rfl, (Nat.min_eq_left hlt).symm,
        (Phase.after_of_le (Nat.succ_ne_zero count) hlt).symm⟩, rfl⟩
    · rw [next_of_nil hbegin (by rw [hremaining, List.drop_of_length_le hge]),
        List.getElem?_eq_none hge]
      refine ⟨⟨?_, ?_, (Phase.after_of_lt (by omega)).symm⟩, rfl⟩
      · rw [hremaining, List.drop_of_length_le hge, List.drop_of_length_le (by omega)]
      · rw [hpulled, Nat.min_eq_right (by omega)]
        omega

end Round

/-! ### Sessions -/

namespace Session

/-- A session whose dictionaries were read. -/
structure Opened (s : Session) (spelling code : Lexicon) : Prop where
  spelling_eq : s.spelling = .opened spelling
  code_eq : s.code = .opened code

/-- The session with other options. -/
def withOptions (s : Session) (g : OptionGroup) : Session :=
  { s with options := g }

/-- The session after a change of its options. -/
def change (s : Session) : OptionChange → Session
  | .act (.set name on) => s.set name on
  | .act (.toggle name) => s.toggle name
  | .act (.cycle reverse) => (s.cycle reverse).session
  | .act .ensureInitialized => s.ensureInitialized.session
  | .act .switch => s.switch.session
  | .press e => (s.press e.key e.composing).session

/-- A change of the options, or one more candidate. -/
inductive Step where
  | pull
  | change (c : OptionChange)
deriving DecidableEq, Repr

/-- The options after a step. -/
def Step.apply (keys : KeyBindings) (g : OptionGroup) : Step → OptionGroup
  | .pull => g
  | .change c => c.apply keys g

/-- A session and its round after a step. -/
def step (state : Session × Round) : Step → Session × Round
  | .pull => ((state.1.pull state.2).2.session, (state.1.pull state.2).1)
  | .change c => (state.1.change c, state.2)

/-- A session and its round after changes interleaved with asking the round. -/
def interleave (s : Session) (r : Round) (steps : List Step) : Session × Round :=
  steps.foldl step (s, r)

/-- How often a round is asked. -/
def pulls (steps : List Step) : Nat :=
  steps.count .pull

/-- Whether annotations are off when something is first asked for, in steps or behind them. -/
def offAtFirstPull (s : Session) : List Step → Bool
  | [] | .pull :: _ => s.options.isOff
  | .change c :: steps => (s.change c).offAtFirstPull steps

/-- A candidate as a round hands it out: as it is in a round that passes candidates on, else with
its annotation at the level of the moment. -/
def shown (s : Session) (off : Bool) (c : Candidate) : Candidate :=
  if off then c
  else (s.annotator.annotate s.spelling.lookup s.code.lookup s.options.level c).1

variable {s : Session} {spelling code : Lexicon} {candidates : List Candidate} {off : Bool}
  {count : Nat} {r : Round}

theorem change_eq (s : Session) (c : OptionChange) :
    s.change c = s.withOptions (c.apply s.keys s.options) := by
  have hreply {α : Type} (outcome : OptionGroup × Except OptionError α) (events : α → List Event) :
      (s.optionReply outcome events).session = s.withOptions outcome.1 := by
    unfold optionReply
    cases outcome.2 <;> rfl
  cases c with
  | act a =>
    cases a with
    | set | toggle => rfl
    | cycle | ensureInitialized | switch => exact hreply _ _
  | press e => exact hreply _ _

theorem Opened.withOptions (hs : s.Opened spelling code) (g : OptionGroup) :
    (s.withOptions g).Opened spelling code :=
  ⟨hs.spelling_eq, hs.code_eq⟩

theorem Opened.change (hs : s.Opened spelling code) (c : OptionChange) :
    (s.change c).Opened spelling code := by
  rw [change_eq]
  exact hs.withOptions _

theorem Opened.consult (hs : s.Opened spelling code) (source : Source) :
    s.consult source = s.done () := by
  obtain ⟨annotator, keys, options, _, _⟩ := s
  obtain ⟨rfl, rfl⟩ := hs
  cases source <;> rfl

/-- Over dictionaries that were read, an annotation reads nothing and does not fail. -/
theorem Opened.annotate (hs : s.Opened spelling code) (c : Candidate) :
    (s.annotate c).session = s ∧ (s.annotate c).result = .ok (s.shown false c) := by
  have hconsult : s.consultFor (s.annotator.source? c) = s.done () := by
    cases s.annotator.source? c with
    | none => rfl
    | some source => exact hs.consult source
  unfold Session.annotate
  rw [hconsult]
  exact ⟨rfl, rfl⟩

/-- Over dictionaries that were read, a list of candidates gets its annotations. -/
theorem Opened.annotateEach (hs : s.Opened spelling code) (candidates : List Candidate) :
    (s.annotateEach candidates).result = .ok (candidates.map (s.shown false)) := by
  induction candidates with
  | nil => rfl
  | cons c rest ih =>
    obtain ⟨hsession, hresult⟩ := hs.annotate c
    simp only [Session.annotateEach, Reply.andThen, hsession, hresult, ih]
    rfl

/-- The candidates of one round, all at once. -/
theorem Opened.annotateAll (hs : s.Opened spelling code) (candidates : List Candidate) :
    (s.annotateAll candidates).result = .ok (candidates.map (s.shown s.options.isOff)) := by
  unfold Session.annotateAll
  by_cases hoff : s.options.isOff
  · rw [if_pos hoff, hoff]
    have hid : s.shown true = id := rfl
    rw [hid, List.map_id]
    rfl
  · rw [if_neg hoff, Bool.eq_false_iff.2 hoff]
    exact hs.annotateEach candidates

/-- Asking a round once more over dictionaries that were read. -/
theorem pull_taken (hs : s.Opened spelling code) (h : r.Taken candidates off count)
    (hnow : count = 0 → s.options.isOff = off) :
    (s.pull r).1.Taken candidates off (count + 1) ∧ (s.pull r).2.session = s ∧
      (s.pull r).2.result = .ok (candidates[count]?.map (s.shown off)) := by
  obtain ⟨htaken, hnext⟩ := h.next hnow
  unfold pull
  cases hc : candidates[count]? with
  | none =>
    have hnothing : (r.next s.options.isOff).2 = .nothing := by rw [hnext, hc]; rfl
    simp only [hnothing]
    exact ⟨htaken, rfl, rfl⟩
  | some c =>
    cases off with
    | true =>
      have hasIs : (r.next s.options.isOff).2 = .asIs c := by rw [hnext, hc]; rfl
      simp only [hasIs]
      exact ⟨htaken, rfl, rfl⟩
    | false =>
      have hannotated : (r.next s.options.isOff).2 = .annotated c := by rw [hnext, hc]; rfl
      obtain ⟨hsession, hresult⟩ := hs.annotate c
      simp only [hannotated, hresult]
      exact ⟨htaken, hsession, rfl⟩

/-! ### Interleavings -/

@[simp]
theorem pulls_cons_pull (steps : List Step) : pulls (.pull :: steps) = pulls steps + 1 :=
  List.count_cons_self

@[simp]
theorem pulls_cons_change (c : OptionChange) (steps : List Step) :
    pulls (.change c :: steps) = pulls steps :=
  List.count_cons_of_ne (a := Step.pull) (b := Step.change c) nofun

theorem pulls_append_replicate {before : List Step} (h : pulls before = 0) (n : Nat) :
    pulls (before ++ List.replicate n .pull) = n := by
  rw [pulls] at h
  rw [pulls, List.count_append, List.count_replicate_self, h, Nat.zero_add]

theorem foldl_apply_replicate_pull (keys : KeyBindings) (g : OptionGroup) (n : Nat) :
    (List.replicate n Step.pull).foldl (Step.apply keys) g = g := by
  induction n with
  | zero => rfl
  | succ n ih => exact ih

/-- Where no change comes behind the first candidate, annotations are off from the first time on if
they are off in the end. -/
theorem offAtFirstPull_append_replicate {before : List Step} (h : pulls before = 0) (n : Nat) :
    s.offAtFirstPull (before ++ List.replicate n .pull) =
      ((before ++ List.replicate n Step.pull).foldl (Step.apply s.keys) s.options).isOff := by
  rw [List.foldl_append, foldl_apply_replicate_pull]
  induction before generalizing s with
  | nil => cases n <;> rfl
  | cons step before ih =>
    cases step with
    | pull =>
      rw [pulls_cons_pull] at h
      omega
    | change c =>
      rw [pulls_cons_change] at h
      rw [List.cons_append, offAtFirstPull, ih h, change_eq]
      rfl

/-- A round and its session behind an interleaving. -/
theorem interleave_taken (hs : s.Opened spelling code) (h : r.Taken candidates off count)
    {steps : List Step} (hoff : count = 0 → s.offAtFirstPull steps = off) :
    (s.interleave r steps).2.Taken candidates off (count + pulls steps) ∧
      (s.interleave r steps).1 = s.withOptions (steps.foldl (Step.apply s.keys) s.options) := by
  induction steps generalizing s r count with
  | nil => exact ⟨h, rfl⟩
  | cons step steps ih =>
    cases step with
    | pull =>
      obtain ⟨htaken, hsession, -⟩ := pull_taken hs h hoff
      -- From here on the round was asked, and `off` is not compared with the options again.
      have hrun := ih hs htaken (fun hzero => absurd hzero (Nat.succ_ne_zero count))
      rw [pulls_cons_pull, ← Nat.add_assoc, Nat.add_right_comm]
      unfold interleave at hrun ⊢
      rw [List.foldl_cons, List.foldl_cons, Session.step, hsession]
      exact hrun
    | change c =>
      have hrun := ih (hs.change c) h hoff
      rw [pulls_cons_change]
      unfold interleave at hrun ⊢
      rw [List.foldl_cons, List.foldl_cons, Session.step]
      rw [change_eq] at hrun ⊢
      exact hrun

/-- **A round under changing options.** Over dictionaries that were read, let a round be asked for
candidates while the options change, in any order. It takes as many candidates as it was asked for,
as long as there are any. The next one that it is asked for is the next one of the list, and nothing
behind the last: as it is if annotations were off the first time that the round was asked, else with
its annotation at the level of the moment. Where the options change before the first time only, this
is what annotating the list at once gives. -/
theorem pull_interleaved (hs : s.Opened spelling code) (candidates : List Candidate)
    (steps : List Step) :
    let now := (s.interleave (.start candidates) steps).1
    let r := (s.interleave (.start candidates) steps).2
    now = s.withOptions (steps.foldl (Step.apply s.keys) s.options) ∧
    r.pulled = min (pulls steps) candidates.length ∧
    (now.pull r).1.pulled = min (pulls steps + 1) candidates.length ∧
    (now.pull r).1.remaining = candidates.drop (pulls steps + 1) ∧
    (now.pull r).2.session = now ∧
    (now.pull r).2.result =
      .ok (candidates[pulls steps]?.map (now.shown (s.offAtFirstPull steps))) ∧
    ∀ (before : List Step) (n : Nat), steps = before ++ List.replicate n .pull →
      pulls before = 0 → ∃ eager, (now.annotateAll candidates).result = .ok eager ∧
        (now.pull r).2.result = .ok eager[n]? := by
  intro now r
  obtain ⟨htaken, hnow⟩ : r.Taken candidates (s.offAtFirstPull steps) (pulls steps) ∧
      now = s.withOptions (steps.foldl (Step.apply s.keys) s.options) := by
    rw [← Nat.zero_add (pulls steps)]
    exact interleave_taken hs (Round.taken_start candidates _) fun _ => rfl
  have hopened : now.Opened spelling code := hnow ▸ hs.withOptions _
  -- While nothing but asking comes behind the changes, the options stay those of the first time.
  have hoff (before : List Step) (n : Nat) (hsteps : steps = before ++ List.replicate n .pull)
      (hbefore : pulls before = 0) : now.options.isOff = s.offAtFirstPull steps := by
    rw [hnow, hsteps, offAtFirstPull_append_replicate hbefore]
    rfl
  have hfirst (hzero : pulls steps = 0) : now.options.isOff = s.offAtFirstPull steps :=
    hoff steps 0 (List.append_nil steps).symm hzero
  obtain ⟨hnext, hsession, hresult⟩ := pull_taken hopened htaken hfirst
  refine ⟨hnow, htaken.pulled_eq, hnext.pulled_eq, hnext.remaining_eq, hsession, hresult, ?_⟩
  intro before n hsteps hbefore
  refine ⟨_, hopened.annotateAll candidates, ?_⟩
  rw [hresult, ← hoff before n hsteps hbefore, hsteps, pulls_append_replicate hbefore,
    List.getElem?_map]

/-- A session with one record, at the first level. -/
def oneRecord : Session where
  annotator := { rules := ⟨∅⟩, toTone := Tone.convert }
  keys := { cycle := some "F4" }
  options := OptionGroup.verbosity.set "yuhao_chaifen.lv1" true
  spelling := .opened (.ofRows [(['国'], "[囗王丶,gwd]".toList)])
  code := .opened .empty

/-- Annotations that are turned off when a round is under way go on, and at the level that a key
came to meanwhile. -/
theorem pull_interleaved_oneRecord :
    let c : Candidate := ⟨"table", 0, 3, ['国'], ['*']⟩
    let steps : List Step := [.pull, .change (.press ⟨"F4", true⟩),
      .change (.act (.set "yuhao_chaifen.off" true))]
    let now := (oneRecord.interleave (.start [c, c]) steps).1
    let r := (oneRecord.interleave (.start [c, c]) steps).2
    now.options.isOff = true ∧
      (now.pull r).2.result = .ok (some { c with comment := "〔囗王丶 · gwd〕*".toList }) := by
  intro c steps now r
  obtain ⟨-, -, -, -, -, hresult, -⟩ :=
    pull_interleaved (s := oneRecord) ⟨rfl, rfl⟩ [c, c] steps
  have hshown : now.shown false c = { c with comment := "〔囗王丶 · gwd〕*".toList } := by decide
  have hoff : oneRecord.offAtFirstPull steps = false := by decide
  refine ⟨by decide, ?_⟩
  rw [hresult, hoff]
  exact congrArg (fun shown => Except.ok (some shown)) hshown

end Session

end GlyphGloss
