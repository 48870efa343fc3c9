import GlyphGloss.Proofs.Annotation
import GlyphGloss.Session.Request

/-!
# Sessions that are alike

Of a dictionary, a session uses what reading it gives: the lexicon of its body and the events on the
way. Sessions with equal settings whose dictionaries read alike answer all requests alike, and stay
alike. Dictionary files read alike if their bodies are equal, whatever their headers hold.

## Main definitions

* `Files.SameBodies`: files that differ in the headers of dictionaries only.
* `Shelf.Alike`, `Session.Alike`: dictionaries that read alike, and sessions with such dictionaries.
* `Session.Reply.Alike`: replies that differ in their sessions only, which are alike.

## Main results

* `Shelf.alike_closed`: files that differ in headers only read alike.
* `Session.Alike.handle`: a request leaves sessions alike, with the same reply.
* `Session.Alike.serve_eq`: requests in a row are answered alike.
-/

namespace GlyphGloss

/-! ### Dictionaries that read alike -/

/-- The same thing at a path, or two dictionary files with the same body. -/
def Entry.SameBody (e e' : Entry) : Prop :=
  e' = e ∨ ∃ s s' : String, e = .file s.toUTF8 ∧ e' = .file s'.toUTF8 ∧
    (Dictionary.ofText (Text.normalizeBreaks s'.toList)).body =
      (Dictionary.ofText (Text.normalizeBreaks s.toList)).body

/-- Files that differ in the headers of dictionaries only. -/
def Files.SameBodies (files files' : Files) : Prop :=
  ∀ path, (files path).SameBody (files' path)

variable {files files' : Files} {path : Path}

theorem Files.SameBodies.exists?_eq (h : files.SameBodies files') (path : Path) :
    (files' path).exists? path = (files path).exists? path := by
  obtain heq | ⟨s, s', hs, hs', -⟩ := h path
  · rw [heq]
  · rw [hs, hs']
    rfl

namespace Shelf

/-- Dictionaries that read alike. -/
structure Alike (shelf shelf' : Shelf) : Prop where
  read_eq : shelf'.read = shelf.read
  lookup_eq : shelf'.lookup = shelf.lookup

theorem Alike.refl (shelf : Shelf) : shelf.Alike shelf :=
  ⟨rfl, rfl⟩

/-- Reading a dictionary uses its body only. -/
theorem read_closed_file {s : String} (h : files path = .file s.toUTF8) :
    let body := (Dictionary.ofText (Text.normalizeBreaks s.toList)).body
    (Shelf.closed path files).read =
      .ok (Dictionary.lexicon body, readEvents path body (Dictionary.lexicon body)) := by
  rw [read, Files.readExisting_file h]
  rfl

theorem alike_closed (h : files.SameBodies files') (path : Path) :
    (Shelf.closed path files).Alike (.closed path files') where
  read_eq := by
    obtain heq | ⟨s, s', hs, hs', hbody⟩ := h path
    · rw [read, read, Files.readExisting, Files.readExisting, heq]
    · rw [read_closed_file hs, read_closed_file hs', hbody]
  lookup_eq := rfl

end Shelf

/-! ### Sessions that are alike -/

namespace Session

/-- Sessions with equal settings whose dictionaries read alike. -/
structure Alike (s s' : Session) : Prop where
  annotator_eq : s'.annotator = s.annotator
  keys_eq : s'.keys = s.keys
  options_eq : s'.options = s.options
  shelf : ∀ source, (s.shelf source).Alike (s'.shelf source)

/-- Replies that differ in their sessions only, which are alike. -/
structure Reply.Alike {α : Type} (r r' : Reply α) : Prop where
  session : r.session.Alike r'.session
  events_eq : r'.events = r.events
  result_eq : r'.result = r.result

section Alike

variable {α β : Type} {s s' : Session}

theorem Alike.spelling_lookup_eq (h : s.Alike s') : s'.spelling.lookup = s.spelling.lookup :=
  (h.shelf .spelling).lookup_eq

theorem Alike.code_lookup_eq (h : s.Alike s') : s'.code.lookup = s.code.lookup :=
  (h.shelf .code).lookup_eq

theorem Alike.done (h : s.Alike s') (a : α) : (s.done a).Alike (s'.done a) :=
  ⟨h, rfl, rfl⟩

theorem Reply.Alike.map {r r' : Reply α} (h : r.Alike r') (f : α → β) :
    (r.map f).Alike (r'.map f) :=
  ⟨h.session, h.events_eq, congrArg (Except.map f) h.result_eq⟩

/-- Steps behind each other are alike if each of them is. -/
theorem Reply.Alike.andThen {r r' : Reply α} {next : Session → α → Reply β} (h : r.Alike r')
    (hnext : ∀ {s s' : Session}, s.Alike s' → ∀ a, (next s a).Alike (next s' a)) :
    (r.andThen next).Alike (r'.andThen next) := by
  unfold Reply.andThen
  rw [h.result_eq]
  cases r.result with
  | error cause => exact ⟨h.session, h.events_eq, rfl⟩
  | ok a =>
    have hbehind := hnext h.session a
    refine ⟨hbehind.session, ?_, hbehind.result_eq⟩
    dsimp only
    rw [h.events_eq, hbehind.events_eq]

theorem Alike.setShelf (h : s.Alike s') (source : Source) (shelf : Shelf) :
    (s.setShelf source shelf).Alike (s'.setShelf source shelf) where
  annotator_eq := by cases source <;> exact h.annotator_eq
  keys_eq := by cases source <;> exact h.keys_eq
  options_eq := by cases source <;> exact h.options_eq
  shelf source' := by
    rw [shelf_setShelf, shelf_setShelf]
    split_ifs
    · exact .refl shelf
    · exact h.shelf source'

/-- Options that change in the same way leave sessions alike. -/
theorem Alike.withOptions (h : s.Alike s') (f : OptionGroup → OptionGroup) :
    Session.Alike { s with options := f s.options } { s' with options := f s'.options } where
  annotator_eq := h.annotator_eq
  keys_eq := h.keys_eq
  options_eq := congrArg f h.options_eq
  shelf
    | .spelling => h.shelf .spelling
    | .code => h.shelf .code

theorem Alike.consult (h : s.Alike s') (source : Source) :
    (s.consult source).Alike (s'.consult source) := by
  unfold Session.consult
  rw [(h.shelf source).read_eq]
  cases (s.shelf source).read with
  | error cause => exact ⟨h, rfl, rfl⟩
  | ok found => exact ⟨h.setShelf source _, rfl, rfl⟩

theorem Alike.consultFor (h : s.Alike s') (source? : Option Source) :
    (s.consultFor source?).Alike (s'.consultFor source?) := by
  cases source? with
  | none => exact h.done ()
  | some source => exact h.consult source

theorem Alike.lookup (h : s.Alike s') (key : Text) : (s.lookup key).Alike (s'.lookup key) :=
  (h.consult .spelling).andThen fun h _ => by
    rw [h.spelling_lookup_eq]
    exact h.done _

theorem Alike.note (h : s.Alike s') (t : Text) : (s.note t).Alike (s'.note t) := by
  unfold Session.note
  rw [h.annotator_eq]
  refine (h.consultFor _).andThen fun h _ => ?_
  rw [h.annotator_eq, h.options_eq, h.spelling_lookup_eq]
  exact ⟨h, rfl, rfl⟩

theorem Alike.annotate (h : s.Alike s') (c : Candidate) : (s.annotate c).Alike (s'.annotate c) := by
  unfold Session.annotate
  rw [h.annotator_eq]
  refine (h.consultFor _).andThen fun h _ => ?_
  rw [h.annotator_eq, h.options_eq, h.spelling_lookup_eq, h.code_lookup_eq]
  exact ⟨h, rfl, rfl⟩

theorem Alike.annotateEach (h : s.Alike s') (candidates : List Candidate) :
    (s.annotateEach candidates).Alike (s'.annotateEach candidates) := by
  induction candidates generalizing s s' with
  | nil => exact h.done []
  | cons c rest ih =>
    exact (h.annotate c).andThen fun h first => (ih h).andThen fun h more => h.done _

theorem Alike.annotateAll (h : s.Alike s') (candidates : List Candidate) :
    (s.annotateAll candidates).Alike (s'.annotateAll candidates) := by
  unfold Session.annotateAll
  rw [h.options_eq]
  split_ifs
  · exact h.done candidates
  · exact h.annotateEach candidates

/-- A round under way goes on in the same way. -/
theorem Alike.pull (h : s.Alike s') (r : Round) :
    (s'.pull r).1 = (s.pull r).1 ∧ (s.pull r).2.Alike (s'.pull r).2 := by
  unfold Session.pull
  rw [h.options_eq]
  obtain ⟨r, pulled⟩ := r.next s.options.isOff
  cases pulled with
  | nothing => exact ⟨rfl, h.done none⟩
  | asIs c => exact ⟨rfl, h.done (some c)⟩
  | annotated c =>
    have hreply := h.annotate c
    dsimp only
    rw [hreply.result_eq]
    cases (s.annotate c).result with
    | error cause => exact ⟨rfl, hreply.session, hreply.events_eq, rfl⟩
    | ok annotated => exact ⟨rfl, hreply.session, hreply.events_eq, rfl⟩

theorem Alike.optionReply (h : s.Alike s') (act : OptionGroup → OptionGroup × Except OptionError α)
    (events : α → List Event) :
    (s.optionReply (act s.options) events).Alike (s'.optionReply (act s'.options) events) := by
  have hsession := h.withOptions fun g => (act g).1
  unfold Session.optionReply
  rw [h.options_eq] at hsession ⊢
  cases (act s.options).2 <;> exact ⟨hsession, rfl, rfl⟩

theorem Alike.press (h : s.Alike s') (key : String) (composing : Bool) :
    (s.press key composing).Alike (s'.press key composing) := by
  unfold Session.press
  rw [h.keys_eq]
  exact h.optionReply (s.keys.press · key composing) Event.ofKey

/-! ### Requests -/

/-- A request leaves sessions alike, with the same rounds under way and the same reply. -/
theorem Alike.handle (h : s.Alike s') (rounds : List Round) (request : Request) :
    (s'.handle rounds request).1 = (s.handle rounds request).1 ∧
      (s.handle rounds request).2.Alike (s'.handle rounds request).2 := by
  cases request with
  | set name on => exact ⟨rfl, (h.withOptions (·.set name on)).done _⟩
  | toggle name => exact ⟨rfl, (h.withOptions (·.toggle name)).done _⟩
  | cycle reverse => exact ⟨rfl, (h.optionReply (·.cycle reverse) Event.ofCycle).map _⟩
  | ensureInitialized => exact ⟨rfl, (h.optionReply (·.ensureInitialized) fun _ => []).map _⟩
  | switch => exact ⟨rfl, (h.optionReply (·.switch) Event.ofSwitch).map _⟩
  | press key composing => exact ⟨rfl, (h.press key composing).map _⟩
  | note t => exact ⟨rfl, (h.note t).map _⟩
  | lookup key => exact ⟨rfl, (h.lookup key).map _⟩
  | annotate candidates => exact ⟨rfl, (h.annotateAll candidates).map _⟩
  | start candidates => exact ⟨rfl, h.done _⟩
  | pull place =>
    unfold Session.handle
    dsimp only
    cases rounds[place]? with
    | none => exact ⟨rfl, h.done _⟩
    | some r =>
      obtain ⟨hround, hreply⟩ := h.pull r
      dsimp only
      rw [hround]
      exact ⟨rfl, hreply.map _⟩

/-- What is seen of requests in a row is the same for sessions that are alike. -/
theorem Alike.serve_eq (h : s.Alike s') (rounds : List Round) (requests : List Request) :
    s'.serve rounds requests = s.serve rounds requests := by
  induction requests generalizing s s' rounds with
  | nil => rfl
  | cons request rest ih =>
    obtain ⟨hrounds, hreply⟩ := h.handle rounds request
    rw [serve, serve, hreply.events_eq, hreply.result_eq, hreply.session.options_eq, hrounds,
      ih hreply.session]

end Alike

end Session

end GlyphGloss
