import GlyphGloss.Proofs.CommandLine
import GlyphGloss.Proofs.Reporting.Start

/-!
# Failures of a run

Behind its start the program reports no failures. A dictionary that cannot be read makes it fail as
soon as the report or a text looks into it: with the first text whose dictionary cannot be read,
since reading one dictionary leaves alone whether the other one can be. Together with the failures
at the start, these are all the ways in which a run ends without a message.

## Main definitions

* `Session.obstacle?`: why a candidate cannot be annotated.
* `Program.OutputEscape`, `Program.Escape`: why there is no output, and why a run fails.
* `Program.ReaderEscape`: failures of the reader of settings documents.
* `Files.AreTexts`: trees in which every file is a text.

## Main results

* `Session.annotateEach_eq_error_iff`: a list of candidates fails with the first one that does.
* `Program.output_eq_error_iff`: the failures of an output.
* `Program.run_failed`: the failures of a run.
-/

namespace GlyphGloss

variable {tools : Tools} {reader : Reader} {files : Files} {path : Path} {cause : Failure}

/-! ### Annotations -/

/-- Why a dictionary cannot be read, if it cannot. -/
def Shelf.failure? (shelf : Shelf) : Option Failure :=
  match shelf.read with
  | .error cause => some cause
  | .ok _ => none

theorem Shelf.failure?_eq_some_iff {shelf : Shelf} :
    shelf.failure? = some cause ↔ shelf.read = .error cause := by
  unfold failure?
  cases shelf.read <;> simp

namespace Session

variable {s : Session} {source : Source} {c : Candidate}

/-- Why a candidate cannot be annotated, if it cannot. -/
def obstacle? (s : Session) (c : Candidate) : Option Failure :=
  (s.annotator.source? c).bind fun source => (s.shelf source).failure?

theorem Reply.andThen_eq_error_iff {α β : Type} {r : Reply α} {next : Session → α → Reply β} :
    (r.andThen next).result = .error cause ↔ r.result = .error cause ∨
      ∃ a, r.result = .ok a ∧ (next r.session a).result = .error cause := by
  unfold andThen
  cases r.result <;> simp

theorem consult_eq_error_iff :
    (s.consult source).result = .error cause ↔ (s.shelf source).failure? = some cause := by
  rw [Shelf.failure?_eq_some_iff]
  unfold consult
  cases (s.shelf source).read <;> simp

/-- Reading a dictionary changes nothing about which ones cannot be read. -/
theorem obstacle?_consult (s : Session) (source : Source) :
    (s.consult source).session.obstacle? = s.obstacle? := by
  have hfailure (source' : Source) :
      ((s.consult source).session.shelf source').failure? = (s.shelf source').failure? := by
    unfold consult
    cases hread : (s.shelf source).read with
    | error cause => rfl
    | ok found =>
      dsimp only
      rw [shelf_setShelf]
      split_ifs with hsource
      · rw [hsource, Shelf.failure?, Shelf.failure?, hread]
        rfl
      · rfl
  funext c
  rw [obstacle?, obstacle?, (s.consult_keeps source).annotator_eq]
  simp only [hfailure]

theorem obstacle?_annotate (s : Session) (c : Candidate) :
    (s.annotate c).session.obstacle? = s.obstacle? := by
  rw [session_annotate]
  cases s.annotator.source? c with
  | none => rfl
  | some source => exact obstacle?_consult s source

theorem annotate_eq_error_iff :
    (s.annotate c).result = .error cause ↔ s.obstacle? c = some cause := by
  unfold annotate obstacle?
  rw [Reply.andThen_eq_error_iff, or_iff_left (by rintro ⟨_, -, h⟩; cases h)]
  cases s.annotator.source? c with
  | none => exact iff_of_false nofun nofun
  | some source => exact consult_eq_error_iff

/-- A list of candidates fails with the first of them that does. -/
theorem annotateEach_eq_error_iff {candidates : List Candidate} :
    (s.annotateEach candidates).result = .error cause ↔
      candidates.findSome? s.obstacle? = some cause := by
  induction candidates generalizing s with
  | nil => exact iff_of_false nofun nofun
  | cons c rest ih =>
    -- The rest is annotated by another session, in which the same dictionaries cannot be read.
    rw [annotateEach, Reply.andThen_eq_error_iff, annotate_eq_error_iff, List.findSome?_cons]
    cases hresult : (s.annotate c).result with
    | error cause' =>
      rw [annotate_eq_error_iff.1 hresult]
      simp
    | ok c' =>
      have hnone : s.obstacle? c = none := by
        rw [Option.eq_none_iff_forall_ne_some]
        intro cause' h
        rw [annotate_eq_error_iff.2 h] at hresult
        cases hresult
      rw [hnone, or_iff_right nofun]
      simp only [Except.ok.injEq, exists_eq_left', Reply.andThen_eq_error_iff, ih,
        obstacle?_annotate]
      exact or_iff_left (by rintro ⟨_, -, h⟩; cases h)

end Session

namespace Program

variable {a : Arguments} {s : Session}

/-- A session that can report on its rules and records. -/
structure Reportable (s : Session) : Prop where
  lengths : canReport s.annotator.rules = true
  records : s.spelling.IsReadable

/-- Why a session has no output. -/
inductive OutputEscape (s : Session) (a : Arguments) : Failure → Prop
  /-- The report would show a length with too many digits. -/
  | lengths (hcheck : a.check = true) (h : canReport s.annotator.rules = false) :
    OutputEscape s a .unwritable
  /-- The report needs all records, but they cannot be read. -/
  | records {cause : Failure} (hcheck : a.check = true) (h : canReport s.annotator.rules = true)
      (hread : s.spelling.failure? = some cause) :
    OutputEscape s a cause
  /-- The tag of the candidates was left empty. -/
  | noTag (hreport : a.check = true → Reportable s) (hon : s.options.isOff = false)
      (htag : a.tag = .nothing) (htexts : a.texts ≠ []) :
    OutputEscape s a .noTag
  /-- The dictionary for a text cannot be read. -/
  | text {cause : Failure} (hreport : a.check = true → Reportable s) (hon : s.options.isOff = false)
      (htag : a.tag ≠ .nothing)
      (hfirst : (a.texts.map (candidate (tagOf a))).findSome? s.obstacle? = some cause) :
    OutputEscape s a cause

theorem report_eq_error_iff :
    (report s).result = .error cause ↔
      canReport s.annotator.rules = false ∧ cause = .unwritable ∨
        canReport s.annotator.rules = true ∧ s.spelling.failure? = some cause := by
  unfold report
  cases hlengths : canReport s.annotator.rules with
  | false =>
    constructor
    · rintro ⟨⟩
      exact .inl ⟨rfl, rfl⟩
    · rintro (⟨-, rfl⟩ | ⟨⟨⟩, -⟩)
      rfl
  | true =>
    rw [if_neg (by simp), Session.Reply.andThen_eq_error_iff,
      or_iff_left (by rintro ⟨_, -, h⟩; cases h), Session.consult_eq_error_iff]
    simp [Session.shelf]

theorem annotated_eq_error_iff :
    (annotated s a).result = .error cause ↔
      s.options.isOff = false ∧ (a.tag = .nothing ∧ a.texts ≠ [] ∧ cause = .noTag ∨
        a.tag ≠ .nothing ∧
          (a.texts.map (candidate (tagOf a))).findSome? s.obstacle? = some cause) := by
  have hall (tag : Text) :
      (s.annotateAll (a.texts.map (candidate tag))).result = .error cause ↔
        s.options.isOff = false ∧
          (a.texts.map (candidate tag)).findSome? s.obstacle? = some cause := by
    unfold Session.annotateAll
    cases s.options.isOff with
    | true => exact iff_of_false nofun nofun
    | false => simpa using Session.annotateEach_eq_error_iff
  unfold annotated tagOf
  cases a.tag with
  | value tag => simpa using hall tag
  | absent => simpa using hall standardTag
  | nothing =>
    cases s.options.isOff with
    | true => exact iff_of_false nofun nofun
    | false =>
      cases a.texts with
      | nil => exact iff_of_false nofun (by simp)
      | cons t rest =>
        constructor
        · rintro ⟨⟩
          exact ⟨rfl, .inl ⟨rfl, nofun, rfl⟩⟩
        · rintro ⟨-, ⟨-, -, rfl⟩ | ⟨h, -⟩⟩
          · rfl
          · exact absurd rfl h

/-- A report is made exactly if it can be. -/
theorem report_eq_ok_iff : (∃ t, (report s).result = .ok t) ↔ Reportable s := by
  constructor
  · rintro ⟨t, ht⟩
    have hfails (cause : Failure) : ¬(canReport s.annotator.rules = false ∧ cause = .unwritable ∨
        canReport s.annotator.rules = true ∧ s.spelling.failure? = some cause) := by
      rw [← report_eq_error_iff, ht]
      nofun
    have hlengths : canReport s.annotator.rules = true := by
      by_contra h
      exact hfails _ (.inl ⟨Bool.eq_false_iff.2 h, rfl⟩)
    refine ⟨hlengths, ?_⟩
    cases hread : s.spelling.read with
    | ok found => exact ⟨found, hread⟩
    | error cause =>
      exact absurd (.inr ⟨hlengths, Shelf.failure?_eq_some_iff.2 hread⟩) (hfails cause)
  · intro h
    cases hresult : (report s).result with
    | ok t => exact ⟨t, rfl⟩
    | error cause =>
      obtain ⟨hlengths, -⟩ | ⟨-, hread⟩ := report_eq_error_iff.1 hresult
      · rw [h.lengths] at hlengths
        cases hlengths
      · obtain ⟨found, hfound⟩ := h.records
        rw [Shelf.failure?_eq_some_iff, hfound] at hread
        cases hread

/-- Behind a report, the texts fail as they would without it. -/
theorem annotated_report :
    (annotated (report s).session a).result = .error cause ↔
      (annotated s a).result = .error cause := by
  have hsession : (report s).session = s ∨ (report s).session = (s.consult .spelling).session := by
    unfold report Session.Reply.andThen
    split_ifs
    · exact .inl rfl
    · cases (s.consult .spelling).result <;> exact .inr rfl
  obtain h | h := hsession
  · rw [h]
  · rw [h, annotated_eq_error_iff, annotated_eq_error_iff, Session.obstacle?_consult,
      (s.consult_keeps .spelling).options_eq]

theorem OutputEscape.of_annotated (hreport : a.check = true → Reportable s)
    (h : (annotated s a).result = .error cause) : OutputEscape s a cause := by
  obtain ⟨hon, ⟨htag, htexts, rfl⟩ | ⟨htag, hfirst⟩⟩ := annotated_eq_error_iff.1 h
  · exact .noTag hreport hon htag htexts
  · exact .text hreport hon htag hfirst

/-- Why a session has no output. -/
theorem output_eq_error_iff : (output s a).result = .error cause ↔ OutputEscape s a cause := by
  have hrest (head : Session.Reply Text) :
      (head.andThen fun s head => (annotated s a).andThen fun s found =>
        s.done (head ++ found.flatMap candidateLine)).result = .error cause ↔
      head.result = .error cause ∨
        (∃ t, head.result = .ok t) ∧ (annotated head.session a).result = .error cause := by
    rw [Session.Reply.andThen_eq_error_iff, ← exists_and_right]
    refine or_congr_right (exists_congr fun t => and_congr_right fun _ => ?_)
    rw [Session.Reply.andThen_eq_error_iff, or_iff_left (by rintro ⟨_, -, h⟩; cases h)]
  -- The texts fail in the session behind the report as they do in the one before it.
  unfold output
  rw [hrest]
  cases hcheck : a.check with
  | false =>
    have hreport : a.check = true → Reportable s := by simp [hcheck]
    constructor
    · rintro (⟨⟨⟩⟩ | ⟨-, h⟩)
      exact .of_annotated hreport h
    · intro h
      refine .inr ⟨⟨[], rfl⟩, annotated_eq_error_iff.2 ?_⟩
      cases h with
      | lengths hcheck' | records hcheck' => rw [hcheck] at hcheck'; cases hcheck'
      | noTag _ hon htag htexts => exact ⟨hon, .inl ⟨htag, htexts, rfl⟩⟩
      | text _ hon htag hfirst => exact ⟨hon, .inr ⟨htag, hfirst⟩⟩
  | true =>
    rw [if_pos rfl, report_eq_ok_iff, annotated_report, report_eq_error_iff]
    constructor
    · rintro ((⟨h, rfl⟩ | ⟨h, hread⟩) | ⟨hreport, h⟩)
      · exact .lengths hcheck h
      · exact .records hcheck h hread
      · exact .of_annotated (fun _ => hreport) h
    · intro h
      cases h with
      | lengths _ h => exact .inl (.inl ⟨h, rfl⟩)
      | records _ h hread => exact .inl (.inr ⟨h, hread⟩)
      | noTag hreport hon htag htexts =>
        exact .inr ⟨hreport hcheck, annotated_eq_error_iff.2 ⟨hon, .inl ⟨htag, htexts, rfl⟩⟩⟩
      | text hreport hon htag hfirst =>
        exact .inr ⟨hreport hcheck, annotated_eq_error_iff.2 ⟨hon, .inr ⟨htag, hfirst⟩⟩⟩

/-! ### Runs -/

/-- Why a run fails without a message. -/
inductive Escape (tools : Tools) (files : Files) (a : Arguments) : Failure → Prop
  | start {cause : Failure} (h : StartEscape tools.reader files a cause) :
    Escape tools files a cause
  /-- The level was left empty. -/
  | noLevel {found : Session × List Event} (hstart : start tools files a = .ok found)
      (hlevel : a.level = .nothing) :
    Escape tools files a .noLevel
  | output {s₀ s : Session} {events : List Event} {cause : Failure}
      (hstart : start tools files a = .ok (s₀, events)) (hlevel : selectLevel a s₀ = .ok s)
      (h : OutputEscape s a cause) :
    Escape tools files a cause

theorem selectLevel_eq_error_iff :
    selectLevel a s = .error cause ↔ a.level = .nothing ∧ cause = .noLevel := by
  unfold selectLevel
  cases a.level <;> simp [eq_comm]

theorem startFailure_eq_failed_iff {cause' : Failure} :
    startFailure cause = .failed cause' ↔ cause' = cause ∧ isReported cause = false := by
  unfold startFailure
  cases isReported cause <;> simp [eq_comm]

/-- The failures without a message of a run whose arguments are carried out. -/
theorem run_eq_failed_iff {arguments : List Text} (hparse : Arguments.parse arguments = .ok a) :
    run tools files arguments = .failed cause ↔ Escape tools files a cause := by
  have hrun : run tools files arguments = .failed cause ↔
      Unreported (start tools files a) cause ∨ ∃ s₀ events, start tools files a = .ok (s₀, events) ∧
        (selectLevel a s₀ = .error cause ∨
          ∃ s, selectLevel a s₀ = .ok s ∧ (output s a).result = .error cause) := by
    unfold run
    rw [hparse]
    dsimp only
    cases hstart : start tools files a with
    | error cause' =>
      rw [startFailure_eq_failed_iff, unreported_error_iff,
        or_iff_left (by rintro ⟨_, _, h, -⟩; cases h)]
    | ok found =>
      obtain ⟨s₀, events⟩ := found
      rw [or_iff_right (reports_ok _ cause)]
      dsimp only
      cases hlevel : selectLevel a s₀ with
      | error cause' => simp [hlevel]
      | ok s =>
        dsimp only
        cases houtput : (output s a).result <;> simp [hlevel, houtput]
  rw [hrun, unreported_start_iff]
  simp only [selectLevel_eq_error_iff, output_eq_error_iff]
  constructor
  · rintro (h | ⟨s₀, events, hstart, ⟨hlevel, rfl⟩ | ⟨s, hlevel, h⟩⟩)
    · exact .start h
    · exact .noLevel hstart hlevel
    · exact .output hstart hlevel h
  · intro h
    cases h with
    | start h => exact .inl h
    | @noLevel found hstart hlevel => exact .inr ⟨found.1, found.2, hstart, .inl ⟨hlevel, rfl⟩⟩
    | output hstart hlevel h => exact .inr ⟨_, _, hstart, .inr ⟨_, hlevel, h⟩⟩

end Program

/-! ### Trees of texts -/

/-- Where a path leads to a text, if it leads anywhere. -/
def Files.AreTexts (files : Files) : Prop :=
  ∀ path, files path = .missing ∨ ∃ s : String, files path = .file s.toUTF8

/-- Arguments whose options have the values that a run needs. -/
structure Arguments.HasValues (a : Arguments) : Prop where
  schema : ∃ path, a.schema = .value path
  level : a.level ≠ .nothing
  tag : a.tag ≠ .nothing

/-- Why the reader of settings documents fails without a message, where its documents are files of a
tree. -/
inductive Program.ReaderEscape (reader : Reader) (files : Files) : Failure → Prop
  | schema {path : Path} {bytes : ByteArray} {kind : Failure.Kind} {message : Text}
      (hfile : files path = .file bytes)
      (hread : reader.file bytes = .error (.failed kind message))
      (hkind : kind.isReported = false) :
    ReaderEscape reader files (.reader kind message)
  | header {path : Path} {t message : Text} {kind : Failure.Kind}
      (hread : (files path).read path = .ok t)
      (hload : reader.text (Dictionary.ofText t).header = .error (.failed kind message))
      (hkind : kind.isReported = false) :
    ReaderEscape reader files (.reader kind message)

theorem Dictionary.text_eq_error_of_entriesOf {header : Text} {fault : Reader.Fault}
    (h : entriesOf reader header = .error fault) : reader.text header = .error fault := by
  unfold entriesOf at h
  split_ifs at h
  cases hread : reader.text header with
  | ok v =>
    rw [hread] at h
    cases h
  | error fault' =>
    rw [hread] at h
    cases h
    rfl

/-- The dictionaries of a session that is built are there. -/
theorem Session.shelf_of_build {schema : Schema} {built : Built}
    (h : build tools files schema = .ok built) (source : Source) :
    built.session.shelf source = .opened .empty ∨
      ∃ path, built.session.shelf source = .closed path files ∧
        (files path).exists? path = .ok true := by
  obtain ⟨hthere, _, _, _, _, _, -, -, hcode, rfl⟩ := build_eq_ok h
  cases source with
  | spelling => exact .inr ⟨_, rfl, hthere⟩
  | code => exact codeShelf_cases hcode

namespace Files.AreTexts

variable {a : Arguments} {s₀ s : Session} {events : List Event} (hfiles : files.AreTexts)
include hfiles

theorem barrier?_eq (path : Path) : (files path).barrier? path = none := by
  obtain h | ⟨s, h⟩ := hfiles path <;> rw [h] <;> rfl

theorem ne_directory (path : Path) : files path ≠ .directory := by
  obtain h | ⟨s, h⟩ := hfiles path <;> rw [h] <;> nofun

theorem ne_nameTooLong (path : Path) : files path ≠ .nameTooLong := by
  obtain h | ⟨s, h⟩ := hfiles path <;> rw [h] <;> nofun

theorem readerEscape_of_startEscape (ha : a.HasValues)
    (h : Program.StartEscape reader files a cause) : Program.ReaderEscape reader files cause := by
  cases h with
  | noSchema hschema =>
    obtain ⟨path, hpath⟩ := ha.schema
    exact absurd hpath (hschema path)
  | schema _ hcause =>
    cases hcause with
    | barred h => rw [hfiles.barrier?_eq] at h; cases h
    | document hfile hread hkind => exact .schema hfile hread hkind
  | build _ hcause =>
    cases hcause with
    | spellingName h => exact absurd h (hfiles.ne_nameTooLong _)
    | spellingDirectory _ h => exact absurd h (hfiles.ne_directory _)
    | header _ hread hload hkind =>
      exact .header hread (Dictionary.text_eq_error_of_entriesOf hload) hkind
    | codeName _ _ _ _ h => exact absurd h (hfiles.ne_nameTooLong _)

theorem failure?_shelf (hstart : Program.start tools files a = .ok (s₀, events))
    (hlevel : Program.selectLevel a s₀ = .ok s) (source : Source) :
    (s.shelf source).failure? = none := by
  have hshelf : s.shelf source = s₀.shelf source := by
    unfold Program.selectLevel at hlevel
    split at hlevel <;> cases hlevel <;> cases source <;> rfl
  obtain ⟨found, -, hstart⟩ := except_bind_eq_ok_iff.1 hstart
  obtain ⟨built, hbuilt, hstart⟩ := except_bind_eq_ok_iff.1 hstart
  cases hstart
  rw [hshelf]
  obtain h | ⟨path, h, hthere⟩ := Session.shelf_of_build hbuilt source
  · rw [h]
    rfl
  · obtain hmissing | ⟨s, hfile⟩ := hfiles path
    · rw [hmissing] at hthere
      cases hthere
    · rw [h, Shelf.failure?, Shelf.read_closed_file hfile]

end Files.AreTexts

namespace Program

/-- **Which failures no message reports.** A run fails without a message exactly for one of these
causes, whatever the reader of settings documents is. Before the first annotation: the path of the
schema was left empty, leads to a directory or through a file, or has a name that is too long; so
has the path of a dictionary; the spelling dictionary is a directory and its header is needed; or
the reader fails with the schema or the header, and the failure is of none of the kinds that the
program reports. Behind it: the level or the tag was left empty; a length of the report has too many
digits; or a dictionary cannot be read when the report or the first text that looks into it needs
it. All other failures are reported or never occur. So where all files are texts and the options
have values, only failures of the reader and lengths of a report are left. -/
theorem run_failed (tools : Tools) (files : Files) (arguments : List Text) (cause : Failure) :
    (run tools files arguments = .failed cause ↔
      ∃ a, Arguments.parse arguments = .ok a ∧ Escape tools files a cause) ∧
    ∀ a, files.AreTexts → Arguments.parse arguments = .ok a → a.HasValues →
      run tools files arguments = .failed cause →
      ReaderEscape tools.reader files cause ∨ a.check = true ∧ cause = .unwritable := by
  constructor
  · constructor
    · intro hrun
      cases hparse : Arguments.parse arguments with
      | error refusal =>
        rw [run, hparse] at hrun
        cases hrun
      | ok a => exact ⟨a, rfl, (run_eq_failed_iff hparse).1 hrun⟩
    · rintro ⟨a, hparse, h⟩
      exact (run_eq_failed_iff hparse).2 h
  · intro a hfiles hparse ha hrun
    cases (run_eq_failed_iff hparse).1 hrun with
    | start h => exact .inl (hfiles.readerEscape_of_startEscape ha h)
    | noLevel _ hlevel => exact absurd hlevel ha.level
    | output hstart hlevel h =>
      have hfailure := hfiles.failure?_shelf hstart hlevel
      cases h with
      | lengths hcheck _ => exact .inr ⟨hcheck, rfl⟩
      | records _ _ hread => cases (hfailure .spelling).symm.trans hread
      | noTag _ _ htag _ => exact absurd htag ha.tag
      | text _ _ _ hfirst =>
        obtain ⟨c, -, hc⟩ := List.exists_of_findSome?_eq_some hfirst
        obtain ⟨source, -, hread⟩ := Option.bind_eq_some_iff.1 hc
        rw [hfailure source] at hread
        cases hread

/-- One thing at the path of the schema, and nothing else. -/
def schemaOnly (e : Entry) : Files := fun path =>
  if path = .parse ['s'] then e else .missing

theorem areTexts_schemaOnly (s : String) : (schemaOnly (.file s.toUTF8)).AreTexts := by
  intro path
  unfold schemaOnly
  split_ifs
  · exact .inr ⟨s, rfl⟩
  · exact .inl rfl

/-- The arguments for the schema of `schemaOnly` and a text. -/
def schemaArguments : List Text := ["--schema".toList, ['s'], ['中']]

theorem parse_schemaArguments :
    Arguments.parse schemaArguments =
      .ok { texts := [['中']], schema := .value (.parse ['s']) } := by
  decide +kernel

/-- The reader of the program fails with an escape for a number that no code point has. -/
theorem run_failed_largeEscape :
    let files := schemaOnly (.file "\"\\U90000000\"".toUTF8)
    ∃ cause, run .standard files schemaArguments = .failed cause ∧
      ReaderEscape Yaml.reader files cause := by
  intro files
  have hfails : (match run .standard files schemaArguments with
      | .failed _ => true
      | _ => false) = true := by
    decide +kernel
  cases hrun : run .standard files schemaArguments with
  | failed cause =>
    obtain ⟨-, htexts⟩ := run_failed .standard files schemaArguments cause
    obtain hreader | ⟨⟨⟩, -⟩ :=
      htexts _ (areTexts_schemaOnly _) parse_schemaArguments ⟨⟨_, rfl⟩, nofun, nofun⟩ hrun
    exact ⟨cause, rfl, hreader⟩
  | finished | refused | stopped =>
    rw [hrun] at hfails
    cases hfails

/-- A directory in the place of the schema. -/
theorem not_run_ne_failed :
    ¬∀ (files : Files) (arguments : List Text) (cause : Failure),
      run .standard files arguments ≠ .failed cause := by
  intro h
  exact h (schemaOnly .directory) schemaArguments (.file (.directory (.parse ['s'])))
    ((run_eq_failed_iff parse_schemaArguments).2 (.start (.schema rfl (.barred rfl))))

end Program

end GlyphGloss
