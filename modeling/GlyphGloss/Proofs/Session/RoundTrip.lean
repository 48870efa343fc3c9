import GlyphGloss.Proofs.Annotation
import GlyphGloss.Proofs.Options.RoundTrip

/-!
# Annotations after a round trip of keys

What a session shows for candidates depends on its options through two things only: whether
annotations are off, and at which level they are. Reading dictionaries on the way changes neither
these nor what later candidates get. So keys that make a round trip on the options, whatever each of
them is bound to and whatever other keys are pressed between them, leave all annotations as they
were.

## Main definitions

* `KeyBindings.action?`, `KeyBindings.asked`: the actions that keys ask for.
* `Session.pressed`: a session after keys.
* `Session.ShowsAlike`: sessions that show the same of all candidates.

## Main results

* `Session.ShowsAlike.annotateAll_result`: such sessions annotate alike.
* `Session.acrossReading_showsAlike`: annotating leaves what is shown alone.
* `Session.annotateAll_roundTrip`: what round trips restore, and what they remember.
-/

namespace GlyphGloss

open OptionGroup (Action)

/-! ### Keys -/

namespace KeyBindings

/-- The action that a key asks for. -/
def action? (keys : KeyBindings) (e : KeyPress) : Option Action :=
  (keys.turn? e).map fun
    | .cycle => .cycle keys.reverse
    | .switch => .switch

/-- The actions that keys ask for, each of them under its bindings. -/
def asked (presses : List (KeyBindings × KeyPress)) : List Action :=
  presses.filterMap fun (keys, e) => keys.action? e

theorem asked_cons (keys : KeyBindings) (e : KeyPress) (presses : List (KeyBindings × KeyPress)) :
    asked ((keys, e) :: presses) = (keys.action? e).toList ++ asked presses := by
  simp only [asked, List.filterMap_cons]
  cases keys.action? e <;> rfl

/-- A key carries out the action that it asks for. -/
theorem press_eq_run (keys : KeyBindings) (g : OptionGroup) (e : KeyPress) :
    (keys.press g e.key e.composing).1 = g.run (keys.action? e).toList := by
  rw [press_eq, action?]
  match keys.turn? e with
  | none => rfl
  | some .cycle => rfl
  | some .switch => rfl

end KeyBindings

namespace Session

variable {s s' s'' : Session} {candidates : List Candidate}

/-- The session after keys, each of them pressed under bindings of its own. -/
def pressed (s : Session) (presses : List (KeyBindings × KeyPress)) : Session :=
  presses.foldl (fun s (keys, e) => ({ s with keys }.press e.key e.composing).session) s

/-- Keys carry out what they ask for on the options, and leave the rules and dictionaries alone. -/
theorem pressed_eq (s : Session) (presses : List (KeyBindings × KeyPress)) :
    (s.pressed presses).options = s.options.run (KeyBindings.asked presses) ∧
      (s.pressed presses).annotator = s.annotator ∧
      (s.pressed presses).shelf = s.shelf := by
  induction presses generalizing s with
  | nil => exact ⟨rfl, rfl, rfl⟩
  | cons press presses ih =>
    obtain ⟨keys, e⟩ := press
    have hreply : ({ s with keys }.press e.key e.composing).session =
        { s with keys, options := (keys.press s.options e.key e.composing).1 } := by
      unfold Session.press optionReply
      cases (keys.press s.options e.key e.composing).2 <;> rfl
    obtain ⟨hoptions, hannotator, hshelf⟩ := ih ({ s with keys }.press e.key e.composing).session
    rw [hreply] at hoptions hannotator hshelf
    have hcons : s.pressed ((keys, e) :: presses) =
        ({ s with keys, options := (keys.press s.options e.key e.composing).1 } : Session).pressed
          presses := by
      rw [← hreply]
      rfl
    rw [hcons, hoptions, hannotator, hshelf]
    refine ⟨?_, rfl, by funext source; cases source <;> rfl⟩
    dsimp only
    rw [KeyBindings.press_eq_run, KeyBindings.asked_cons]
    exact List.foldl_append.symm

/-! ### What sessions show -/

/-- Sessions that show the same of all candidates: under the same rules, with annotations off in
both or at the same level, and with dictionaries that give the same lexicon or fail alike. -/
structure ShowsAlike (s s' : Session) : Prop where
  annotator_eq : s'.annotator = s.annotator
  isOff_eq : s'.options.isOff = s.options.isOff
  level_eq : s'.options.level = s.options.level
  lexicon_eq : ∀ source,
    (s'.shelf source).read.map Prod.fst = (s.shelf source).read.map Prod.fst

theorem ShowsAlike.refl (s : Session) : s.ShowsAlike s :=
  ⟨rfl, rfl, rfl, fun _ => rfl⟩

theorem ShowsAlike.symm (h : s.ShowsAlike s') : s'.ShowsAlike s :=
  ⟨h.annotator_eq.symm, h.isOff_eq.symm, h.level_eq.symm, fun source => (h.lexicon_eq source).symm⟩

theorem ShowsAlike.trans (h : s.ShowsAlike s') (h' : s'.ShowsAlike s'') : s.ShowsAlike s'' where
  annotator_eq := h'.annotator_eq.trans h.annotator_eq
  isOff_eq := h'.isOff_eq.trans h.isOff_eq
  level_eq := h'.level_eq.trans h.level_eq
  lexicon_eq source := (h'.lexicon_eq source).trans (h.lexicon_eq source)

theorem ShowsAlike.content_eq (h : s.ShowsAlike s') (source : Source) :
    (s'.shelf source).content = (s.shelf source).content := by
  have hlexicon := h.lexicon_eq source
  unfold Shelf.content
  match hread : (s.shelf source).read, hread' : (s'.shelf source).read with
  | .error _, .error _ => rfl
  | .ok (_, _), .ok (_, _) =>
    rw [hread, hread'] at hlexicon
    cases hlexicon
    rfl
  | .error _, .ok _ | .ok _, .error _ =>
    rw [hread, hread'] at hlexicon
    cases hlexicon

theorem ShowsAlike.noteFor_eq (h : s.ShowsAlike s') : s'.noteFor = s.noteFor := by
  funext kind t
  have hspelling : s'.spelling.content = s.spelling.content := h.content_eq .spelling
  have hcode : s'.code.content = s.code.content := h.content_eq .code
  rw [noteFor, noteFor, h.annotator_eq, h.level_eq, hspelling, hcode]

/-- What consulting a dictionary comes to is what reading it comes to. -/
theorem result_consult (s : Session) (source : Source) :
    (s.consult source).result = ((s.shelf source).read.map Prod.fst).map fun _ => () := by
  unfold consult
  cases (s.shelf source).read <;> rfl

theorem ShowsAlike.consultFor_result (h : s.ShowsAlike s') (source? : Option Source) :
    (s'.consultFor source?).result = (s.consultFor source?).result := by
  cases source? with
  | none => rfl
  | some source =>
    have hlexicon := congrArg (Except.map fun _ => ()) (h.lexicon_eq source)
    exact (result_consult s' source).trans (hlexicon.trans (result_consult s source).symm)

/-- What a step behind another one comes to. -/
theorem Reply.result_andThen {α β : Type} (r : Reply α) (next : Session → α → Reply β) :
    (r.andThen next).result = r.result >>= fun a => (next r.session a).result := by
  unfold andThen
  cases r.result <;> rfl

/-! ### Annotating -/

/-- A dictionary that was read gives the lexicon that reading it gave. -/
theorem showsAlike_consult (s : Session) (source : Source) :
    s.ShowsAlike (s.consult source).session := by
  have hkeeps := s.consult_keeps source
  refine ⟨hkeeps.annotator_eq, congrArg _ hkeeps.options_eq, congrArg _ hkeeps.options_eq,
    fun source' => ?_⟩
  unfold consult
  cases hread : (s.shelf source).read with
  | error => rfl
  | ok found =>
    dsimp only
    rw [shelf_setShelf]
    split_ifs with hsource
    · rw [hsource, hread]
      rfl
    · rfl

/-- Annotating leaves what is shown alone. -/
theorem acrossReading_showsAlike : AcrossReading ShowsAlike :=
  ⟨ShowsAlike.refl, ShowsAlike.trans, showsAlike_consult⟩

theorem ShowsAlike.annotate_result (h : s.ShowsAlike s') (c : Candidate) :
    (s'.annotate c).result = (s.annotate c).result := by
  have hconsult := h.consultFor_result (s.annotator.source? c)
  cases hresult : (s.consultFor (s.annotator.source? c)).result with
  | error cause =>
    rw [hresult] at hconsult
    unfold Session.annotate
    rw [Reply.result_andThen, Reply.result_andThen, h.annotator_eq, hconsult, hresult]
    rfl
  | ok =>
    rw [hresult, ← h.annotator_eq] at hconsult
    -- Both get the annotation of the candidate, which is the same in both sessions.
    obtain ⟨shown, hshown⟩ : ∃ shown, (s.annotate c).result = .ok shown :=
      ⟨_, Reply.andThen_eq_ok_iff.2 ⟨(), hresult, rfl⟩⟩
    obtain ⟨shown', hshown'⟩ : ∃ shown', (s'.annotate c).result = .ok shown' :=
      ⟨_, Reply.andThen_eq_ok_iff.2 ⟨(), hconsult, rfl⟩⟩
    have hannotated' := annotate_annotated hshown'
    rw [h.annotator_eq, h.noteFor_eq] at hannotated'
    rw [hshown, hshown', hannotated'.eq_mk, (annotate_annotated hshown).eq_mk]

theorem ShowsAlike.annotateEach_result (h : s.ShowsAlike s') (candidates : List Candidate) :
    (s'.annotateEach candidates).result = (s.annotateEach candidates).result := by
  induction candidates generalizing s s' with
  | nil => rfl
  | cons c rest ih =>
    have hread (s : Session) : s.ShowsAlike (s.annotate c).session :=
      acrossReading_showsAlike.annotate s c
    have hrest := ih (((hread s).symm.trans h).trans (hread s'))
    simp only [annotateEach, Reply.result_andThen, h.annotate_result c, hrest]
    rfl

/-- Sessions that show alike annotate any list with the same result, or fail alike. -/
theorem ShowsAlike.annotateAll_result (h : s.ShowsAlike s') (candidates : List Candidate) :
    (s'.annotateAll candidates).result = (s.annotateAll candidates).result := by
  unfold annotateAll
  rw [h.isOff_eq]
  split_ifs
  · rfl
  · exact h.annotateEach_result candidates

/-- Annotating a list leaves the options alone. -/
theorem options_annotateAll (s : Session) (candidates : List Candidate) :
    (s.annotateAll candidates).session.options = s.options :=
  (acrossReading_keeps.annotateAll s candidates).options_eq

/-! ### Round trips -/

/-- Keys that make a round trip leave what is shown alone. -/
theorem showsAlike_pressed {size : Nat} {d : Dial} (h : s.options.Follows size d)
    {presses : List (KeyBindings × KeyPress)}
    (hpresses : OptionGroup.IsRoundTrip size (KeyBindings.asked presses)) :
    s.ShowsAlike (s.pressed presses) := by
  obtain ⟨hoptions, hannotator, hshelf⟩ := s.pressed_eq presses
  have hshows := (h.run hpresses.isMovement).shows
  have hplace := hpresses.place_eq h.bounds.1 h.bounds.2
  refine ⟨hannotator, ?_, ?_, fun source => by rw [hshelf]⟩
  · rw [hoptions, Bool.eq_iff_iff, hshows.isOff_iff, h.shows.isOff_iff, hplace]
  · rw [hoptions, hshows.level_eq, h.shows.level_eq, hplace]

/-- **Round trips restore what is shown.** Let one flag of a group of two or more be on. Two
switches, any number of steps in one direction and then as many in the other, and as many steps as
the group has flags all come back to this flag. A run of steps remembers the last place other than
"off" that it landed on, and changes nothing that was remembered if there was none. So after keys
that make a round trip, in any session with that group, any list of candidates is annotated as
before, both where the keys come first and where the list was annotated ahead of them. -/
theorem annotateAll_roundTrip {g : OptionGroup} (hg : g.Standing) (hsize : 2 ≤ g.names.length)
    (hone : g.onCount = 1) :
    (∀ actions, OptionGroup.IsRoundTrip g.names.length actions →
      (g.run actions).activePlace? = g.activePlace? ∧ (g.run actions).onCount = 1) ∧
    (∀ directions : List Bool,
      (g.landings directions).length = directions.length ∧
      (g.run (directions.map .cycle)).saved =
        (((g.landings directions).filter (· ≠ 1)).getLast?).or g.saved) ∧
    ∀ (s : Session) (presses : List (KeyBindings × KeyPress)) (candidates : List Candidate),
      s.options = g → OptionGroup.IsRoundTrip g.names.length (KeyBindings.asked presses) →
      ((s.pressed presses).annotateAll candidates).result = (s.annotateAll candidates).result ∧
      (((s.annotateAll candidates).session.pressed presses).annotateAll candidates).result =
        (s.annotateAll candidates).result := by
  have hfollows := hg.follows_dial hsize hone
  refine ⟨fun actions h => ?_, fun directions => hfollows.saved_run_cycles directions, ?_⟩
  · have hrun := hfollows.run h.isMovement
    have hplace := h.place_eq hfollows.bounds.1 hfollows.bounds.2
    exact ⟨by rw [hrun.activePlace?_eq, hplace, hfollows.activePlace?_eq], hrun.onCount_eq⟩
  · rintro s presses candidates rfl h
    have hall := acrossReading_showsAlike.annotateAll s candidates
    have hpressed := showsAlike_pressed hfollows h
    rw [← s.options_annotateAll candidates] at hfollows h
    have hlater := showsAlike_pressed hfollows h
    exact ⟨hpressed.annotateAll_result candidates,
      (hall.trans hlater).annotateAll_result candidates⟩

/-- Two steps forward from the first level, an idle key, and two steps back: the flag is the one of
the first level again, which is remembered now, and all candidates are annotated as before. -/
theorem annotateAll_roundTrip_mixed :
    let forth : KeyBindings := { cycle := some "F4" }
    let back : KeyBindings := { forth with reverse := true }
    let step : KeyPress := ⟨"F4", true⟩
    let presses := [(forth, step), (forth, step), (forth, ⟨"a", true⟩), (back, step), (back, step)]
    mixed.options.saved = none ∧ (mixed.pressed presses).options.saved = some 2 ∧
      (mixed.pressed presses).options.activePlace? = some 2 ∧
      ∀ candidates,
        ((mixed.pressed presses).annotateAll candidates).result =
          (mixed.annotateAll candidates).result := by
  intro forth back step presses
  have hstanding : mixed.options.Standing := ⟨by decide, by decide, by decide⟩
  obtain ⟨hplace, hsaved, hshown⟩ := annotateAll_roundTrip hstanding (by decide) (by decide)
  have hasked : KeyBindings.asked presses = [false, false, true, true].map .cycle := rfl
  have htrip : OptionGroup.IsRoundTrip mixed.options.names.length (KeyBindings.asked presses) :=
    .thereAndBack 2 false
  obtain ⟨hoptions, -, -⟩ := mixed.pressed_eq presses
  refine ⟨rfl, ?_, ?_, fun candidates => (hshown mixed presses candidates rfl htrip).1⟩
  · rw [hoptions, hasked, (hsaved _).2]
    decide
  · rw [hoptions, (hplace _ htrip).1]
    decide

end Session

end GlyphGloss
