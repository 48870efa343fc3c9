import GlyphGloss.Display.Tone
import GlyphGloss.Proofs.Composition
import GlyphGloss.Proofs.Dictionary
import GlyphGloss.Session.Basic
import Mathlib.Data.List.Forall2

/-!
# What annotating a list changes

Annotating a list of candidates changes nothing but tags and comments, and what it writes into the
comment of a candidate depends on that candidate alone. A session reads its dictionaries on the way,
so that a candidate may find them read or not; the annotations are those of the dictionaries as
reading gives them all the same. A punctuation mark gets its text in the dictionary of codes, and no
other candidate depends on that dictionary.

## Main definitions

* `Candidate.Annotated`: a candidate beside what an annotation makes of it.
* `Annotator.noteFor`: the annotation of a text as a candidate of a kind.
* `Shelf.content`, `Shelf.IsReadable`: what reading a dictionary gives, and whether it can be read.
* `Session.Keeps`: a session whose steps leave its options, its rules and the content of its
  dictionaries alone.
* `Session.noteFor`: the annotation of a text in a session.
* `Session.AcrossReading`: what holds across each reading of a dictionary.

## Main results

* `Annotator.annotate_annotated`: what annotating a candidate changes.
* `Annotator.annotate_congr`: an annotation depends on the lexicon that it looks into only.
* `Session.AcrossReading.annotateAll`: what holds across each reading of a dictionary holds across
  the annotation of a list.
* `Session.consult_keeps`, `Session.annotate_keeps`: annotating leaves the content of the
  dictionaries alone.
* `Session.annotateAll_alone`: each candidate of a round comes out as it does alone.
* `Session.annotateAll_annotated`: what annotating a list changes, and what the annotations depend
  on.
-/

namespace GlyphGloss

/-! ### Candidates -/

namespace Candidate

/-- A candidate beside what an annotation makes of it. -/
structure Annotated (mixedTyping : Bool) (note : Text) (c c' : Candidate) : Prop where
  text_eq : c'.text = c.text
  start_eq : c'.start = c.start
  stop_eq : c'.stop = c.stop
  /-- The tag of simplified characters is the only one that changes. -/
  tag_eq : c'.tag = if c.tag = "simplified" then "simp_rvlk" else c.tag
  /-- The annotation goes in front of the comment, or in its place for a completion. -/
  comment_eq : c'.comment =
    if c.kind = .completion ∧ mixedTyping = true ∧ note ≠ [] then note else note ++ c.comment
  /-- A sentence is left as it is. -/
  sentence_eq : c.kind = .sentence → c' = c

/-- An annotated candidate is given by the candidate and the annotation. -/
theorem Annotated.eq_mk {mixedTyping : Bool} {note : Text} {c c' : Candidate}
    (h : c.Annotated mixedTyping note c') :
    c' = {
      tag := if c.tag = "simplified" then "simp_rvlk" else c.tag
      start := c.start
      stop := c.stop
      text := c.text
      comment := if c.kind = .completion ∧ mixedTyping = true ∧ note ≠ [] then note
        else note ++ c.comment } := by
  rw [← h.text_eq, ← h.start_eq, ← h.stop_eq, ← h.tag_eq, ← h.comment_eq]

theorem kind_eq_simplified_iff {c : Candidate} : c.kind = .simplified ↔ c.tag = "simplified" := by
  unfold kind Kind.ofTag
  constructor
  · intro h
    split_ifs at h
    assumption
  · intro h
    rw [h]
    rfl

end Candidate

namespace Annotator

variable {a : Annotator} {spelling spelling' code code' : Text → Text} {level : Int}
  {c : Candidate} {t : Text}

/-- The annotation of a text as a candidate of a kind, empty if there is none. -/
def noteFor (a : Annotator) (spelling code : Text → Text) (level : Int)
    (kind : Candidate.Kind) (t : Text) : Text :=
  match kind with
  | .sentence => []
  | .punctuation => code t
  | _ => (a.note spelling level t).text.getD []

theorem combine_annotated (hsimplified : c.kind ≠ .simplified) (hsentence : c.kind ≠ .sentence)
    (note : Text) : c.Annotated a.mixedTyping note (a.combine c note) := by
  have htag : ¬c.tag = "simplified" := mt Candidate.kind_eq_simplified_iff.2 hsimplified
  cases note with
  | nil => exact ⟨rfl, rfl, rfl, (if_neg htag).symm, by simp [combine], fun _ => rfl⟩
  | cons d note =>
    have hcombine : a.combine c (d :: note) =
        { c with comment := if c.kind = .completion ∧ a.mixedTyping then d :: note
                   else d :: note ++ c.comment } := by
      rw [combine, if_neg (by simp)]
      split_ifs <;> rfl
    rw [hcombine]
    exact ⟨rfl, rfl, rfl, (if_neg htag).symm, by simp, fun h => absurd h hsentence⟩

/-- What annotating a candidate changes. -/
theorem annotate_annotated (a : Annotator) (spelling code : Text → Text) (level : Int)
    (c : Candidate) :
    c.Annotated a.mixedTyping (a.noteFor spelling code level c.kind c.text)
      (a.annotate spelling code level c).1 := by
  unfold annotate noteFor
  cases hkind : c.kind with
  | sentence =>
    have htag : ¬c.tag = "simplified" := fun h => by
      rw [Candidate.kind_eq_simplified_iff.2 h] at hkind
      cases hkind
    exact ⟨rfl, rfl, rfl, (if_neg htag).symm, by simp, fun _ => rfl⟩
  | simplified =>
    have htag : c.tag = "simplified" := Candidate.kind_eq_simplified_iff.1 hkind
    exact ⟨rfl, rfl, rfl, (if_pos htag).symm, by simp [hkind], by simp [hkind]⟩
  | plain | completion | punctuation | other =>
    exact combine_annotated (by simp [hkind]) (by simp [hkind]) _

/-- The annotation of a text without a look-up depends on no record. -/
theorem note_congr (h : a.looksUp t = false) :
    a.note spelling level t = a.note spelling' level t := by
  simp only [looksUp, Bool.or_eq_false_iff, beq_eq_false_iff_ne, ne_eq] at h
  unfold note
  rw [if_neg h.1, if_neg h.1]
  split_ifs with hphrases hempty
  · rfl
  · rfl
  · have hnone : Composition.looksUp a.rules t = false := by
      simp only [Bool.not_eq_true', Bool.not_eq_false] at hphrases
      simpa [hphrases, hempty] using h.2
    unfold phraseNote
    rw [Composition.compose_of_not_looksUp hnone spelling spelling',
      Composition.compose_of_not_looksUp hnone spelling spelling' a.codePart]

/-- A candidate with its annotation depends on the lexicon that it looks into only. -/
theorem annotate_congr (hspelling : a.source? c = some .spelling → spelling = spelling')
    (hcode : a.source? c = some .code → code = code') :
    a.annotate spelling code level c = a.annotate spelling' code' level c := by
  have hnote (h : a.source? c = if a.looksUp c.text then some .spelling else none) :
      a.note spelling level c.text = a.note spelling' level c.text := by
    by_cases hlooksUp : a.looksUp c.text
    · rw [if_pos hlooksUp] at h
      rw [hspelling h]
    · exact note_congr (Bool.eq_false_iff.2 hlooksUp)
  unfold annotate
  cases hkind : c.kind with
  | sentence => rfl
  | punctuation => rw [hcode (by rw [source?, hkind])]
  | plain | simplified | completion | other => rw [hnote (by rw [source?, hkind])]

end Annotator

/-! ### Dictionaries -/

namespace Shelf

/-- The lexicon that reading a dictionary gives, empty if it cannot be read. -/
def content (shelf : Shelf) : Lexicon :=
  match shelf.read with
  | .ok (lexicon, _) => lexicon
  | .error _ => .empty

/-- Whether a dictionary can be read. -/
def IsReadable (shelf : Shelf) : Prop :=
  ∃ found, shelf.read = .ok found

theorem content_eq {shelf : Shelf} {lexicon : Lexicon} {events : List Event}
    (h : shelf.read = .ok (lexicon, events)) : shelf.content = lexicon := by
  rw [content, h]

end Shelf

/-! ### Sessions -/

namespace Session

/-- A session after steps that leave alone what annotations depend on. -/
structure Keeps (s s' : Session) : Prop where
  annotator_eq : s'.annotator = s.annotator
  options_eq : s'.options = s.options
  content_eq : ∀ source, (s'.shelf source).content = (s.shelf source).content
  /-- What could be read can be read again. -/
  isReadable : ∀ source, (s.shelf source).IsReadable → (s'.shelf source).IsReadable

/-- The annotation of a text as a candidate of a kind, at the level of a session. -/
def noteFor (s : Session) (kind : Candidate.Kind) (t : Text) : Text :=
  s.annotator.noteFor s.spelling.content.lookup s.code.content.lookup s.options.level kind t

variable {s s' s'' : Session} {source : Source}

theorem Keeps.refl (s : Session) : s.Keeps s :=
  ⟨rfl, rfl, fun _ => rfl, fun _ => id⟩

theorem Keeps.trans (h : s.Keeps s') (h' : s'.Keeps s'') : s.Keeps s'' where
  annotator_eq := h'.annotator_eq.trans h.annotator_eq
  options_eq := h'.options_eq.trans h.options_eq
  content_eq source := (h'.content_eq source).trans (h.content_eq source)
  isReadable source hs := h'.isReadable source (h.isReadable source hs)

theorem Keeps.spelling_content_eq (h : s.Keeps s') : s'.spelling.content = s.spelling.content :=
  h.content_eq .spelling

theorem Keeps.code_content_eq (h : s.Keeps s') : s'.code.content = s.code.content :=
  h.content_eq .code

theorem Keeps.noteFor_eq (h : s.Keeps s') : s'.noteFor = s.noteFor := by
  funext kind t
  rw [noteFor, noteFor, h.annotator_eq, h.options_eq, h.spelling_content_eq,
    h.code_content_eq]

/-- A step behind another one comes to a result if both do. -/
theorem Reply.andThen_eq_ok_iff {α β : Type} {r : Reply α} {next : Session → α → Reply β} {b : β} :
    (r.andThen next).result = .ok b ↔
      ∃ a, r.result = .ok a ∧ (next r.session a).result = .ok b := by
  unfold andThen
  cases r.result <;> simp

/-- A relation between a session and the session behind some of its steps, which holds across these
if it holds across each reading of a dictionary. -/
structure AcrossReading (R : Session → Session → Prop) : Prop where
  refl (s : Session) : R s s
  trans {s s' s'' : Session} : R s s' → R s' s'' → R s s''
  consult (s : Session) (source : Source) : R s (s.consult source).session

namespace AcrossReading

variable {R : Session → Session → Prop}

theorem andThen {α β : Type} {r : Reply α} {next : Session → α → Reply β} (hR : AcrossReading R)
    (h : R s r.session) (hnext : ∀ a, R r.session (next r.session a).session) :
    R s (r.andThen next).session := by
  unfold Reply.andThen
  cases r.result with
  | error => exact h
  | ok a => exact hR.trans h (hnext a)

theorem consultFor (hR : AcrossReading R) (s : Session) (source? : Option Source) :
    R s (s.consultFor source?).session := by
  cases source? with
  | none => exact hR.refl s
  | some source => exact hR.consult s source

theorem annotate (hR : AcrossReading R) (s : Session) (c : Candidate) :
    R s (s.annotate c).session :=
  hR.andThen (hR.consultFor s _) fun _ => hR.refl _

theorem annotateEach (hR : AcrossReading R) (s : Session) (candidates : List Candidate) :
    R s (s.annotateEach candidates).session := by
  induction candidates generalizing s with
  | nil => exact hR.refl s
  | cons c rest ih =>
    exact hR.andThen (hR.annotate s c) fun first => hR.andThen (ih _) fun more => hR.refl _

/-- Annotating a list reads dictionaries and changes nothing else. -/
theorem annotateAll (hR : AcrossReading R) (s : Session) (candidates : List Candidate) :
    R s (s.annotateAll candidates).session := by
  unfold Session.annotateAll
  split_ifs
  · exact hR.refl s
  · exact hR.annotateEach s candidates

end AcrossReading

/-! ### Reading on the way -/

theorem shelf_setShelf (s : Session) (source source' : Source) (shelf : Shelf) :
    (s.setShelf source shelf).shelf source' =
      if source' = source then shelf else s.shelf source' := by
  cases source <;> cases source' <;> rfl

/-- Reading a dictionary leaves its content alone, and that of the other one. -/
theorem consult_keeps (s : Session) (source : Source) : s.Keeps (s.consult source).session := by
  unfold consult
  cases hread : (s.shelf source).read with
  | error => exact .refl s
  | ok found =>
    obtain ⟨lexicon, events⟩ := found
    refine ⟨by cases source <;> rfl, by cases source <;> rfl, fun source' => ?_,
      fun source' h => ?_⟩
    · rw [shelf_setShelf]
      split_ifs with hsource
      · rw [hsource, Shelf.content_eq hread]
        rfl
      · rfl
    · rw [shelf_setShelf]
      split_ifs
      · exact ⟨_, Shelf.read_opened lexicon⟩
      · exact h

/-- A dictionary that was read on the way gives the texts of its content. -/
theorem lookup_shelf_consult (h : (s.consult source).result = .ok ()) :
    ((s.consult source).session.shelf source).lookup = (s.shelf source).content.lookup := by
  unfold consult at h ⊢
  cases hread : (s.shelf source).read with
  | error =>
    rw [hread] at h
    cases h
  | ok found =>
    rw [Shelf.content_eq hread, shelf_setShelf, if_pos rfl]
    rfl

theorem lookup_shelf_consultFor {source? : Option Source}
    (h : (s.consultFor source?).result = .ok ()) (hsource : source? = some source) :
    ((s.consultFor source?).session.shelf source).lookup = (s.shelf source).content.lookup := by
  subst hsource
  exact lookup_shelf_consult h

/-- A step reads a dictionary exactly if it can be read. -/
theorem consult_eq_ok_iff :
    (s.consult source).result = .ok () ↔ (s.shelf source).IsReadable := by
  unfold consult Shelf.IsReadable
  cases (s.shelf source).read <;> simp

theorem acrossReading_keeps : AcrossReading Keeps :=
  ⟨Keeps.refl, Keeps.trans, consult_keeps⟩

theorem annotate_keeps (s : Session) (c : Candidate) : s.Keeps (s.annotate c).session :=
  acrossReading_keeps.annotate s c

/-- A candidate gets its annotation, whether its dictionary was read before or on the way. -/
theorem annotate_annotated {c c' : Candidate} (h : (s.annotate c).result = .ok c') :
    c.Annotated s.annotator.mixedTyping (s.noteFor c.kind c.text) c' := by
  obtain ⟨⟨⟩, hconsult, hresult⟩ := Reply.andThen_eq_ok_iff.1 h
  have hkeeps := acrossReading_keeps.consultFor s (s.annotator.source? c)
  have hc' : (s.annotator.annotate s.spelling.content.lookup s.code.content.lookup
      s.options.level c).1 = c' := by
    rw [← Except.ok.inj hresult, hkeeps.annotator_eq, hkeeps.options_eq]
    refine congrArg Prod.fst (Annotator.annotate_congr (fun hsource => ?_) fun hsource => ?_)
    · exact (lookup_shelf_consultFor hconsult hsource).symm
    · exact (lookup_shelf_consultFor hconsult hsource).symm
  rw [← hc']
  exact s.annotator.annotate_annotated _ _ _ c

theorem annotate_eq_ok (h : ∀ source, (s.shelf source).IsReadable) (c : Candidate) :
    ∃ c', (s.annotate c).result = .ok c' := by
  have hconsult : (s.consultFor (s.annotator.source? c)).result = .ok () := by
    cases s.annotator.source? c with
    | none => rfl
    | some source => exact consult_eq_ok_iff.2 (h source)
  exact ⟨_, Reply.andThen_eq_ok_iff.2 ⟨(), hconsult, rfl⟩⟩

theorem annotateEach_eq_ok (h : ∀ source, (s.shelf source).IsReadable)
    (candidates : List Candidate) : ∃ shown, (s.annotateEach candidates).result = .ok shown := by
  induction candidates generalizing s with
  | nil => exact ⟨[], rfl⟩
  | cons c rest ih =>
    obtain ⟨c', hfirst⟩ := annotate_eq_ok h c
    obtain ⟨more, hmore⟩ := ih fun source => (s.annotate_keeps c).isReadable source (h source)
    exact ⟨c' :: more, Reply.andThen_eq_ok_iff.2
      ⟨c', hfirst, Reply.andThen_eq_ok_iff.2 ⟨more, hmore, rfl⟩⟩⟩

/-! ### Candidates alone -/

/-- Only a dictionary that could be read before can be read on the way. -/
theorem isReadable_of_consult {source' : Source}
    (h : ((s.consult source).session.shelf source').IsReadable) :
    (s.shelf source').IsReadable := by
  unfold consult at h
  cases hread : (s.shelf source).read with
  | error =>
    rw [hread] at h
    exact h
  | ok found =>
    rw [hread, shelf_setShelf] at h
    split_ifs at h with hsource
    · exact hsource ▸ ⟨found, hread⟩
    · exact h

theorem session_annotate (s : Session) (c : Candidate) :
    (s.annotate c).session = (s.consultFor (s.annotator.source? c)).session := by
  unfold annotate Reply.andThen
  cases (s.consultFor (s.annotator.source? c)).result <;> rfl

theorem isReadable_of_annotate {c : Candidate}
    (h : ((s.annotate c).session.shelf source).IsReadable) : (s.shelf source).IsReadable := by
  rw [session_annotate] at h
  cases hsource : s.annotator.source? c with
  | none => rwa [hsource] at h
  | some source' =>
    rw [hsource] at h
    exact isReadable_of_consult h

/-- A candidate that is annotated behind other steps is annotated in the same way before them, if
they have not made a dictionary readable. -/
theorem annotate_of_keeps {c c' : Candidate} (hkeeps : s.Keeps s')
    (hreadable : ∀ source, (s'.shelf source).IsReadable → (s.shelf source).IsReadable)
    (h : (s'.annotate c).result = .ok c') : (s.annotate c).result = .ok c' := by
  obtain ⟨⟨⟩, hconsult, -⟩ := Reply.andThen_eq_ok_iff.1 h
  have hbefore : (s.consultFor (s.annotator.source? c)).result = .ok () := by
    rw [hkeeps.annotator_eq] at hconsult
    cases hsource : s.annotator.source? c with
    | none => rfl
    | some source =>
      rw [hsource] at hconsult
      exact consult_eq_ok_iff.2 (hreadable source (consult_eq_ok_iff.1 hconsult))
  obtain ⟨c'', hc''⟩ : ∃ c'', (s.annotate c).result = .ok c'' :=
    ⟨_, Reply.andThen_eq_ok_iff.2 ⟨(), hbefore, rfl⟩⟩
  have hannotated := annotate_annotated h
  rw [hkeeps.annotator_eq, hkeeps.noteFor_eq] at hannotated
  rw [hc'', hannotated.eq_mk, (annotate_annotated hc'').eq_mk]

/-- Each candidate of a list comes out as it does alone. -/
theorem annotateEach_alone {candidates shown : List Candidate}
    (h : (s.annotateEach candidates).result = .ok shown) :
    List.Forall₂ (fun c c' => (s.annotate c).result = .ok c') candidates shown := by
  induction candidates generalizing s shown with
  | nil =>
    cases h
    exact .nil
  | cons c rest ih =>
    obtain ⟨c', hfirst, hrest⟩ := Reply.andThen_eq_ok_iff.1 h
    obtain ⟨more, hmore, hshown⟩ := Reply.andThen_eq_ok_iff.1 hrest
    cases hshown
    exact .cons hfirst ((ih hmore).imp fun _ _ =>
      annotate_of_keeps (s.annotate_keeps c) fun _ => isReadable_of_annotate)

/-- Candidates get the annotations that they have at the start, whatever is read on the way. -/
theorem annotateEach_annotated {candidates shown : List Candidate}
    (h : (s.annotateEach candidates).result = .ok shown) :
    List.Forall₂ (fun c c' =>
      c.Annotated s.annotator.mixedTyping (s.noteFor c.kind c.text) c') candidates shown :=
  (annotateEach_alone h).imp fun _ _ => annotate_annotated

/-- Each candidate of a round comes out as it does in a round of its own. -/
theorem annotateAll_alone {candidates shown : List Candidate}
    (h : (s.annotateAll candidates).result = .ok shown) :
    List.Forall₂ (fun c c' => (s.annotateAll [c]).result = .ok [c']) candidates shown := by
  unfold annotateAll at h ⊢
  split_ifs at h ⊢ with hoff
  · cases h
    exact List.forall₂_same.2 fun _ _ => rfl
  · refine (annotateEach_alone h).imp fun c c' hc => ?_
    exact Reply.andThen_eq_ok_iff.2 ⟨c', hc, Reply.andThen_eq_ok_iff.2 ⟨[], rfl, rfl⟩⟩

/-! ### A whole round -/

/-- **What annotating a list changes.** Where annotations are off, a list of candidates is left as
it is and no dictionary is read. Else as many candidates come back in the same order, each of them
changed by its annotation in its tag and its comment only; and they do come back if both
dictionaries can be read. The annotation is a function of the kind and the text of a candidate:
neither its stretch nor its comment nor another candidate matters. For a punctuation mark it is the
text in the dictionary of codes, and for any other candidate it is the same in every session with
that annotator, that level and that dictionary of records, whatever its dictionary of codes. -/
theorem annotateAll_annotated (s : Session) (candidates : List Candidate) :
    (s.options.isOff = true → s.annotateAll candidates = s.done candidates) ∧
    (s.options.isOff = false →
      (∀ shown, (s.annotateAll candidates).result = .ok shown →
        List.Forall₂ (fun c c' =>
          c.Annotated s.annotator.mixedTyping (s.noteFor c.kind c.text) c') candidates shown) ∧
      ((∀ source, (s.shelf source).IsReadable) →
        ∃ shown, (s.annotateAll candidates).result = .ok shown)) ∧
    (∀ t, s.noteFor .punctuation t = s.code.content.lookup t) ∧
    ∀ (s' : Session) (kind : Candidate.Kind) (t : Text), kind ≠ .punctuation →
      s'.annotator = s.annotator → s'.options.level = s.options.level →
      s'.spelling.content = s.spelling.content → s'.noteFor kind t = s.noteFor kind t := by
  refine ⟨fun hoff => by rw [annotateAll, if_pos hoff], fun hoff => ?_, fun _ => rfl, ?_⟩
  · rw [annotateAll, if_neg (by rw [hoff]; exact Bool.false_ne_true)]
    exact ⟨fun shown => annotateEach_annotated, fun h => annotateEach_eq_ok h candidates⟩
  · intro s' kind t hkind hannotator hlevel hcontent
    rw [noteFor, noteFor, hannotator, hlevel, hcontent]
    cases kind with
    | punctuation => exact absurd rfl hkind
    | plain | simplified | completion | sentence | other => rfl

/-- A session with mixed input styles at the first level, whose records were not read yet. -/
def mixed : Session where
  annotator := { rules := ⟨∅⟩, mixedTyping := true, toTone := Tone.convert }
  keys := { cycle := some "F4" }
  options := OptionGroup.verbosity.set "yuhao_chaifen.lv1" true
  spelling := .closed (Path.parse ['d']) fun _ => .file "国\t[囗王丶,gwd]\n".toUTF8
  code := .opened (.ofRows [(['，'], "vvfg".toList)])

/-- A sentence, a word in simplified characters, a completion and a punctuation mark. -/
theorem annotateAll_annotated_mixed :
    let sentence : Candidate := ⟨"sentence", 0, 4, ['国'], ['*']⟩
    let candidates := [sentence, ⟨"simplified", 0, 3, ['国'], ['*']⟩,
      ⟨"completion", 0, 2, ['国'], ['*']⟩, ⟨"punct", 0, 1, ['，'], ['*']⟩]
    (mixed.annotateAll candidates).result = .ok [sentence,
      ⟨"simp_rvlk", 0, 3, ['国'], "〔囗王丶〕*".toList⟩,
      ⟨"completion", 0, 2, ['国'], "〔囗王丶〕".toList⟩,
      ⟨"punct", 0, 1, ['，'], "vvfg*".toList⟩] := by
  intro sentence candidates
  have hread : mixed.spelling.read = .ok (.ofRows [(['国'], "[囗王丶,gwd]".toList)],
      [.lexiconLoaded 1 (Path.parse ['d'])]) := by
    rw [mixed, Shelf.read, Files.readExisting_file rfl]
    rfl
  obtain ⟨-, hon, -⟩ := annotateAll_annotated mixed candidates
  obtain ⟨hshown, hresult⟩ := hon (by decide)
  obtain ⟨shown, hresult⟩ := hresult fun source => by
    cases source with
    | spelling => exact ⟨_, hread⟩
    | code => exact ⟨_, Shelf.read_opened _⟩
  have hnote (kind : Candidate.Kind) (t : Text) : mixed.noteFor kind t =
      mixed.annotator.noteFor (Lexicon.ofRows [(['国'], "[囗王丶,gwd]".toList)]).lookup
        (Lexicon.ofRows [(['，'], "vvfg".toList)]).lookup mixed.options.level kind t := by
    rw [noteFor, Shelf.content_eq hread]
    rfl
  have hall : List.Forall₂ _ [_, _, _, _] shown := hshown shown hresult
  obtain _ | ⟨hsentence, _ | ⟨hsimplified, _ | ⟨hcompletion, _ | ⟨hpunctuation, ⟨⟩⟩⟩⟩⟩ := hall
  rw [hresult, hsentence.eq_mk, hsimplified.eq_mk, hcompletion.eq_mk, hpunctuation.eq_mk]
  simp only [hnote]
  exact congrArg Except.ok (by decide)

end Session

end GlyphGloss
