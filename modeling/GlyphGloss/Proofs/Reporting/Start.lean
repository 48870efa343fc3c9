import GlyphGloss.CommandLine.Program
import GlyphGloss.Proofs.Rules.Setting
import GlyphGloss.Proofs.Session.RuleSource

/-!
# Failures at the start

Before its first annotation the program reports failures by their kind: what is missing, no text, or
of a wrong type or value stops it with a message. Failures of other kinds pass through. Here each
step of the start is followed to tell which of its failures do: the settings themselves and the
rules are always reported, and what is left are paths that cannot be followed or lead to a
directory, and the failures of the reader of documents that are of none of those kinds.

## Main definitions

* `Program.Unreported`, `Program.Reports`: steps that fail without a message, and steps that do not.
* `Program.SchemaEscape`, `Program.BuildEscape`, `Program.StartEscape`: why loading a schema,
  building a session and the whole start fail without a message.

## Main results

* `Program.unreported_bind_iff`: two steps fail as the first one does, or the second one behind it.
* `Program.reports_ofValue`, `Program.reports_buildRules`: settings and rules are reported.
* `Program.unreported_load_iff`, `Program.unreported_build_iff`, `Program.unreported_start_iff`:
  the failures without a message are those.
-/

namespace GlyphGloss

variable {tools : Tools} {reader : Reader} {files : Files} {path : Path} {cause : Failure}

/-- What bars the way to the file at a path, other than that nothing is there. -/
def Entry.barrier? (path : Path) : Entry → Option FileError
  | .directory => some (.directory path)
  | .blocked => some (.blocked path)
  | .nameTooLong => some (.nameTooLong path)
  | .missing | .impossible | .file _ => none

/-- A file is read, or its bytes are no text. -/
theorem Entry.read_file_cases (path : Path) (bytes : ByteArray) :
    (∃ t, read path (.file bytes) = .ok t) ∨
      ∃ fault, read path (.file bytes) = .error (.undecodable fault) := by
  simp only [read, Entry.bytes]
  cases Utf8.decode bytes with
  | ok t => exact .inl ⟨_, rfl⟩
  | error fault => exact .inr ⟨fault, rfl⟩

/-- Of the faults of a schema, those of an unreported kind come through as they are. -/
theorem Failure.ofSchemaFault_unreported_iff {fault : Reader.Fault} :
    ofSchemaFault path fault = cause ∧ Program.isReported cause = false ↔
      ∃ kind message, fault = .failed kind message ∧ kind.isReported = false ∧
        cause = .reader kind message := by
  constructor
  · rintro ⟨rfl, hreported⟩
    cases fault with
    | malformed detail => cases hreported
    | failed kind message =>
      cases kind with
      | notFound => cases hreported
      | _ => exact ⟨_, message, rfl, hreported, rfl⟩
  · rintro ⟨kind, message, rfl, hkind, rfl⟩
    refine ⟨?_, hkind⟩
    cases kind with
    | notFound => cases hkind
    | _ => rfl

/-- So do those of a header. -/
theorem Failure.ofHeaderFault_unreported_iff {fault : Reader.Fault} :
    ofHeaderFault path fault = cause ∧ Program.isReported cause = false ↔
      ∃ kind message, fault = .failed kind message ∧ kind.isReported = false ∧
        cause = .reader kind message := by
  constructor
  · rintro ⟨rfl, hreported⟩
    cases fault with
    | malformed detail => cases hreported
    | failed kind message => exact ⟨kind, message, rfl, hreported, rfl⟩
  · rintro ⟨kind, message, rfl, hkind, rfl⟩
    exact ⟨rfl, hkind⟩

namespace Program

/-! ### Steps and their failures -/

section Steps

variable {α β : Type} {x : Except Failure α} {f : α → Except Failure β}

/-- A step that fails for a cause that no message reports. -/
def Unreported (x : Except Failure α) (cause : Failure) : Prop :=
  x = .error cause ∧ isReported cause = false

/-- A step whose failures are all reported. -/
def Reports (x : Except Failure α) : Prop :=
  ∀ cause, ¬Unreported x cause

theorem reports_ok (a : α) : Reports (.ok a : Except Failure α) :=
  nofun

theorem reports_error (h : isReported cause = true) :
    Reports (.error cause : Except Failure α) := by
  rintro _ ⟨⟨⟩, hcause⟩
  rw [h] at hcause
  cases hcause

theorem unreported_error_iff {cause' : Failure} :
    Unreported (.error cause' : Except Failure α) cause ↔
      cause = cause' ∧ isReported cause' = false := by
  constructor
  · rintro ⟨⟨⟩, hreported⟩
    exact ⟨rfl, hreported⟩
  · rintro ⟨rfl, hreported⟩
    exact ⟨rfl, hreported⟩

theorem unreported_bind_iff :
    Unreported (x >>= f) cause ↔ Unreported x cause ∨ ∃ a, x = .ok a ∧ Unreported (f a) cause := by
  cases x <;> simp [Unreported, bind, Except.bind]

theorem Reports.bind (hx : Reports x) (hf : ∀ a, Reports (f a)) : Reports (x >>= f) := by
  intro cause h
  obtain h | ⟨a, -, h⟩ := unreported_bind_iff.1 h
  · exact hx cause h
  · exact hf a cause h

theorem unreported_bind_of_reports (hf : ∀ a, Reports (f a)) :
    Unreported (x >>= f) cause ↔ Unreported x cause := by
  rw [unreported_bind_iff, or_iff_left]
  rintro ⟨a, -, h⟩
  exact hf a cause h

theorem unreported_map_iff (g : α → β) : Unreported (x.map g) cause ↔ Unreported x cause := by
  cases x <;> simp [Unreported, Except.map]

/-- A document that cannot be read fails without a message if the reader fails in an unreported
way. -/
theorem unreported_mapError_iff {x : Except Reader.Fault α} {g : Reader.Fault → Failure}
    (hg : ∀ fault, g fault = cause ∧ isReported cause = false ↔
      ∃ kind message, fault = .failed kind message ∧ kind.isReported = false ∧
        cause = .reader kind message) :
    Unreported (x.mapError g) cause ↔
      ∃ kind message, x = .error (.failed kind message) ∧ kind.isReported = false ∧
        cause = .reader kind message := by
  cases x with
  | ok a => exact iff_of_false (reports_ok a cause) (by simp)
  | error fault => simpa [Unreported, Except.mapError] using hg fault

end Steps

/-! ### The schema -/

/-- Why a schema fails without a message. -/
inductive SchemaEscape (reader : Reader) (files : Files) (path : Path) : Failure → Prop
  /-- A directory, a file on the way, or a name that is too long. -/
  | barred {e : FileError} (h : (files path).barrier? path = some e) :
    SchemaEscape reader files path (.file e)
  /-- A failure of the reader of another kind than those that are reported. -/
  | document {bytes : ByteArray} {kind : Failure.Kind} {message : Text}
      (hfile : files path = .file bytes)
      (hread : reader.file bytes = .error (.failed kind message))
      (hkind : kind.isReported = false) :
    SchemaEscape reader files path (.reader kind message)

theorem reports_dictionaryPath (directory : Option Path) (name : Value) :
    Reports (Schema.dictionaryPath directory name) := by
  unfold Schema.dictionaryPath
  split_ifs
  · exact reports_ok _
  · exact reports_error rfl
  · cases directory with
    | none => exact reports_error rfl
    | some directory => exact reports_ok _

theorem reports_readTags (v : Value) : Reports (Schema.readTags v) := by
  unfold Schema.readTags
  split_ifs
  · exact reports_ok _
  · exact reports_ok _
  · exact reports_error rfl

theorem isReported_problemsFailure (path : Path) (problems : List SchemaProblem) :
    isReported (Schema.problemsFailure path problems) = true := by
  unfold Schema.problemsFailure
  split_ifs <;> rfl

/-- Settings that are wrong are reported. -/
theorem reports_ofValue (path : Path) (directory : Option Path) (v : Value) :
    Reports (Schema.ofValue path directory v) := by
  refine (reports_dictionaryPath _ _).bind fun spelling => ?_
  dsimp only
  split
  · exact (reports_dictionaryPath _ _).bind fun code =>
      (reports_readTags _).bind fun mixedTyping => reports_ok _
  · exact reports_error (isReported_problemsFailure _ _)
  · exact reports_error (isReported_problemsFailure _ _)

theorem isReported_of_barrier? {e : FileError} (h : (files path).barrier? path = some e) :
    isReported (.file e) = false := by
  cases hentry : files path <;> rw [hentry] at h <;> cases h <;> rfl

theorem bytes_of_barrier? {e : FileError} (h : (files path).barrier? path = some e) :
    (files path).bytes path = .error e ∧ ∀ path', e ≠ .missing path' := by
  cases hentry : files path <;> rw [hentry] at h <;> cases h <;> exact ⟨rfl, nofun⟩

/-- Where nothing is there, or no path can be, this is reported. -/
theorem barrier?_of_bytes {e : FileError} (h : (files path).bytes path = .error e)
    (hreported : isReported (.file e) = false) : (files path).barrier? path = some e := by
  cases hentry : files path with
  | file bytes =>
    rw [hentry] at h
    cases h
  | missing | impossible =>
    rw [hentry] at h
    cases h
    cases hreported
  | directory | blocked | nameTooLong =>
    rw [hentry] at h
    cases h
    rfl

theorem eq_file_of_bytes {bytes : ByteArray} (h : (files path).bytes path = .ok bytes) :
    files path = .file bytes := by
  cases hentry : files path <;> rw [hentry] at h <;> cases h
  rfl

/-- Which failures of a schema are not reported. -/
theorem unreported_load_iff {location : Schema.Location} :
    Unreported (Schema.load reader files path location) cause ↔
      SchemaEscape reader files path cause := by
  constructor
  · intro h
    unfold Schema.load at h
    split at h
    · exact absurd h (reports_error rfl cause)
    · next e _ hread =>
      obtain ⟨⟨⟩, hreported⟩ := h
      exact .barred (barrier?_of_bytes hread hreported)
    · next bytes hread =>
      rw [unreported_bind_of_reports] at h
      · obtain ⟨kind, message, hfault, hkind, rfl⟩ :=
          (unreported_mapError_iff fun _ => Failure.ofSchemaFault_unreported_iff).1 h
        exact .document (eq_file_of_bytes hread) hfault hkind
      · intro v
        split
        · exact reports_ofValue _ _ _
        · exact reports_error rfl
  · intro h
    unfold Schema.load
    cases h with
    | @barred e h =>
      obtain ⟨hread, hmissing⟩ := bytes_of_barrier? h
      refine ⟨?_, isReported_of_barrier? h⟩
      rw [hread]
      cases e with
      | missing path' => exact absurd rfl (hmissing path')
      | _ => rfl
    | document hfile hread hkind =>
      rw [hfile]
      exact unreported_bind_iff.2 (.inl ((unreported_mapError_iff fun _ =>
        Failure.ofSchemaFault_unreported_iff).2 ⟨_, _, hread, hkind, rfl⟩))

/-! ### The session -/

/-- Why building a session fails without a message. -/
inductive BuildEscape (reader : Reader) (files : Files) (schema : Schema) : Failure → Prop
  /-- The name of the spelling dictionary is too long. -/
  | spellingName (h : files schema.spellingPath = .nameTooLong) :
    BuildEscape reader files schema (.file (.nameTooLong schema.spellingPath))
  /-- The header should be read, but the spelling dictionary is a directory. -/
  | spellingDirectory (hrules : schema.entries = none)
      (h : files schema.spellingPath = .directory) :
    BuildEscape reader files schema (.file (.directory schema.spellingPath))
  /-- A failure of the reader of another kind than those that are reported. -/
  | header {t message : Text} {kind : Failure.Kind} (hrules : schema.entries = none)
      (hread : (files schema.spellingPath).read schema.spellingPath = .ok t)
      (hload : Dictionary.entriesOf reader (Dictionary.ofText t).header =
        .error (.failed kind message))
      (hkind : kind.isReported = false) :
    BuildEscape reader files schema (.reader kind message)
  /-- The rules are built, but the name of the code dictionary is too long. -/
  | codeName {source : Session.RuleSource} {rules : RuleTable × List Event} {path : Path}
      (hthere : (files schema.spellingPath).exists? schema.spellingPath = .ok true)
      (hsource : Session.ruleSource reader files schema = .ok source)
      (hrules : Session.buildRules source.entries = .ok rules)
      (hcode : schema.codePath = some path) (h : files path = .nameTooLong) :
    BuildEscape reader files schema (.file (.nameTooLong path))

/-- A file that has to be there fails without a message for its name, or if it is a directory. -/
theorem unreported_readExisting_iff {missing : Failure} (hmissing : isReported missing = true) :
    Unreported (files.readExisting path missing) cause ↔
      files path = .nameTooLong ∧ cause = .file (.nameTooLong path) ∨
        files path = .directory ∧ cause = .file (.directory path) := by
  unfold Files.readExisting
  cases hentry : files path with
  | missing | blocked | impossible =>
    exact iff_of_false (reports_error hmissing cause) (by simp)
  | nameTooLong =>
    change Unreported (.error (.file (.nameTooLong path)) : Except Failure Text) cause ↔ _
    simp [unreported_error_iff, isReported, Failure.kind, Failure.ofFileError,
      Failure.Kind.isReported]
  | directory =>
    change Unreported (.error (.file (.directory path)) : Except Failure Text) cause ↔ _
    simp [unreported_error_iff, isReported, Failure.kind, Failure.ofFileError,
      Failure.Kind.isReported]
  | file bytes =>
    change Unreported (((Entry.file bytes).read path).mapError .file) cause ↔ _
    refine iff_of_false ?_ (by simp)
    obtain ⟨t, hread⟩ | ⟨fault, hread⟩ := Entry.read_file_cases path bytes
    · rw [hread]
      exact reports_ok t cause
    · rw [hread]
      exact reports_error rfl cause

/-- Only a file has a text. -/
theorem exists_file_of_read {t : Text} (h : (files path).read path = .ok t) :
    ∃ bytes, files path = .file bytes := by
  cases hentry : files path with
  | file bytes => exact ⟨bytes, rfl⟩
  | missing | directory | blocked | nameTooLong | impossible =>
    rw [hentry] at h
    cases h

theorem readExisting_eq_ok_iff {missing : Failure} {t : Text} :
    files.readExisting path missing = .ok t ↔ (files path).read path = .ok t := by
  unfold Files.readExisting
  cases files path with
  | file bytes =>
    change ((Entry.file bytes).read path).mapError Failure.file = .ok t ↔ _
    cases (Entry.file bytes).read path <;> simp [Except.mapError]
  | missing | directory | blocked | nameTooLong | impossible => exact iff_of_false nofun nofun

/-- A header fails without a message for the reader only. -/
theorem unreported_headerValue_iff {header : Text} :
    Unreported (Dictionary.headerValue reader path header) cause ↔
      ∃ kind message, Dictionary.entriesOf reader header = .error (.failed kind message) ∧
        kind.isReported = false ∧ cause = .reader kind message := by
  rw [← unreported_map_iff Dictionary.headerRules, Dictionary.headerRules_headerValue]
  exact unreported_mapError_iff fun _ => Failure.ofHeaderFault_unreported_iff

/-- Rules that cannot be built are reported: entries that pass the check are converted. -/
theorem reports_buildRules (entries : List Value) : Reports (Session.buildRules entries) := by
  refine Reports.bind ?_ fun settings => Reports.bind ?_ fun built => reports_ok _
  · by_cases hnone : RuleSetting.defects entries = []
    · obtain ⟨settings, hsettings⟩ :=
        RuleSetting.exists_forall₂_gives_iff.2 (RuleSetting.defects_eq_nil_iff.1 hnone)
      rw [RuleSetting.ofEntries_eq_ok_iff.2 hsettings]
      exact reports_ok settings
    · rw [RuleSetting.ofEntries_of_defects hnone]
      refine reports_error ?_
      split_ifs <;> rfl
  · cases RuleTable.build settings with
    | ok built => exact reports_ok built
    | error cause => exact reports_error (by cases cause <;> rfl)

theorem unreported_ruleSource_iff {schema : Schema} :
    Unreported (Session.ruleSource reader files schema) cause ↔
      schema.entries = none ∧
        Unreported (Dictionary.readHeader reader files schema.spellingPath) cause := by
  cases hentries : schema.entries with
  | some entries =>
    rw [Session.ruleSource_of_schema hentries]
    simpa using reports_ok _ cause
  | none =>
    unfold Session.ruleSource
    rw [hentries]
    dsimp only
    rw [unreported_bind_of_reports]
    · simp
    · intro header
      cases Dictionary.headerRules header <;> exact reports_ok _

theorem unreported_codeShelf_iff {codePath : Option Path} :
    Unreported (Session.codeShelf files codePath) cause ↔
      ∃ path, codePath = some path ∧ files path = .nameTooLong ∧
        cause = .file (.nameTooLong path) := by
  unfold Session.codeShelf
  cases codePath with
  | none => exact iff_of_false (reports_ok _ cause) (by simp)
  | some path =>
    dsimp only
    cases hentry : files path with
    | nameTooLong =>
      change Unreported (.error (.file (.nameTooLong path)) : Except Failure _) cause ↔ _
      simp [hentry, unreported_error_iff, isReported, Failure.kind, Failure.ofFileError,
      Failure.Kind.isReported]
    | missing | directory | blocked | impossible | file =>
      exact iff_of_false (reports_ok _ cause) (by simp [hentry])

theorem unreported_buildFrom_iff {schema : Schema} {source : Session.RuleSource} :
    Unreported (Session.buildFrom tools files schema source) cause ↔
      ∃ rules path, Session.buildRules source.entries = .ok rules ∧
        schema.codePath = some path ∧ files path = .nameTooLong ∧
        cause = .file (.nameTooLong path) := by
  have hcode (rules : RuleTable × List Event) :
      Unreported (Session.codeShelf files schema.codePath >>= fun found => .ok
        (⟨Session.ofSchema tools files schema rules.1 found.1, source.entries,
          source.events ++ rules.2 ++ found.2⟩ : Session.Built)) cause ↔
        ∃ path, schema.codePath = some path ∧ files path = .nameTooLong ∧
          cause = .file (.nameTooLong path) := by
    rw [unreported_bind_of_reports fun _ => reports_ok _, unreported_codeShelf_iff]
  unfold Session.buildFrom
  rw [unreported_bind_iff, or_iff_right (reports_buildRules source.entries cause)]
  simp only [exists_and_left]
  exact exists_congr fun rules => and_congr_right fun _ => hcode rules

theorem unreported_readHeader_iff :
    Unreported (Dictionary.readHeader reader files path) cause ↔
      (files path = .nameTooLong ∧ cause = .file (.nameTooLong path) ∨
        files path = .directory ∧ cause = .file (.directory path)) ∨
      ∃ t, (files path).read path = .ok t ∧ ∃ kind message,
        Dictionary.entriesOf reader (Dictionary.ofText t).header = .error (.failed kind message) ∧
          kind.isReported = false ∧ cause = .reader kind message := by
  unfold Dictionary.readHeader
  rw [unreported_bind_iff, unreported_readExisting_iff rfl]
  simp only [readExisting_eq_ok_iff, unreported_headerValue_iff]

/-- Which failures of building a session are not reported. -/
theorem unreported_build_iff {schema : Schema} :
    Unreported (Session.build tools files schema) cause ↔
      BuildEscape tools.reader files schema cause := by
  have hbuild (hthere : (files schema.spellingPath).exists? schema.spellingPath = .ok true) :
      Unreported (Session.build tools files schema) cause ↔
        Unreported (Session.ruleSource tools.reader files schema) cause ∨
          ∃ source, Session.ruleSource tools.reader files schema = .ok source ∧
            Unreported (Session.buildFrom tools files schema source) cause := by
    rw [Session.build_eq, hthere]
    exact unreported_bind_iff
  constructor
  · intro h
    cases hentry : files schema.spellingPath with
    | missing | blocked | impossible =>
      rw [Session.build_eq, hentry] at h
      exact absurd h (reports_error rfl cause)
    | nameTooLong =>
      rw [Session.build_eq, hentry] at h
      obtain ⟨rfl, -⟩ := unreported_error_iff.1 h
      exact .spellingName hentry
    | directory | file =>
      have hthere : (files schema.spellingPath).exists? schema.spellingPath = .ok true := by
        rw [hentry]
        rfl
      obtain h | ⟨source, hsource, h⟩ := (hbuild hthere).1 h
      · obtain ⟨hrules, h⟩ := unreported_ruleSource_iff.1 h
        obtain (⟨hname, rfl⟩ | ⟨hdirectory, rfl⟩) |
          ⟨t, hread, kind, message, hload, hkind, rfl⟩ := unreported_readHeader_iff.1 h
        · exact .spellingName hname
        · exact .spellingDirectory hrules hdirectory
        · exact .header hrules hread hload hkind
      · obtain ⟨rules, path, hrules, hcode, hname, rfl⟩ := unreported_buildFrom_iff.1 h
        exact .codeName hthere hsource hrules hcode hname
  · intro h
    cases h with
    | spellingName h =>
      rw [Session.build_eq, h]
      exact ⟨rfl, rfl⟩
    | spellingDirectory hrules h =>
      exact (hbuild (by rw [h]; rfl)).2 (.inl (unreported_ruleSource_iff.2
        ⟨hrules, unreported_readHeader_iff.2 (.inl (.inr ⟨h, rfl⟩))⟩))
    | header hrules hread hload hkind =>
      obtain ⟨bytes, hfile⟩ := exists_file_of_read hread
      exact (hbuild (by rw [hfile]; rfl)).2 (.inl (unreported_ruleSource_iff.2
        ⟨hrules, unreported_readHeader_iff.2 (.inr ⟨_, hread, _, _, hload, hkind, rfl⟩)⟩))
    | codeName hthere hsource hrules hcode hname =>
      exact (hbuild hthere).2 (.inr ⟨_, hsource, unreported_buildFrom_iff.2
        ⟨_, _, hrules, hcode, hname, rfl⟩⟩)

/-! ### The start -/

variable {a : Arguments}

/-- Why the program fails before the first annotation without a message. -/
inductive StartEscape (reader : Reader) (files : Files) (a : Arguments) : Failure → Prop
  /-- The path of the schema was left empty. -/
  | noSchema (h : ∀ path, a.schema ≠ .value path) : StartEscape reader files a .noSchema
  | schema {path : Path} {cause : Failure} (h : a.schema = .value path)
      (hcause : SchemaEscape reader files path cause) :
    StartEscape reader files a cause
  | build {path : Path} {schema : Schema} {cause : Failure}
      (h : settings reader files a = .ok (path, schema))
      (hcause : BuildEscape reader files schema cause) :
    StartEscape reader files a cause

theorem unreported_settings_iff :
    Unreported (settings reader files a) cause ↔
      (∀ path, a.schema ≠ .value path) ∧ cause = .noSchema ∨
        ∃ path, a.schema = .value path ∧ SchemaEscape reader files path cause := by
  unfold settings
  cases hschema : a.schema with
  | value path =>
    dsimp only
    rw [unreported_bind_of_reports, unreported_load_iff]
    · simp
    · exact fun _ => reports_ok _
  | absent | nothing =>
    simp [unreported_error_iff, isReported, Failure.kind, Failure.Kind.isReported]

/-- Which failures before the first annotation are not reported. -/
theorem unreported_start_iff :
    Unreported (start tools files a) cause ↔ StartEscape tools.reader files a cause := by
  unfold start
  simp only [unreported_bind_iff, unreported_settings_iff, unreported_build_iff]
  constructor
  · rintro ((⟨hschema, rfl⟩ | ⟨path, hschema, hcause⟩) | ⟨⟨path, schema⟩, hsettings, h⟩)
    · exact .noSchema hschema
    · exact .schema hschema hcause
    · obtain hcause | ⟨built, -, h⟩ := h
      · exact .build hsettings hcause
      · exact absurd h (reports_ok _ cause)
  · intro h
    cases h with
    | noSchema h => exact .inl (.inl ⟨h, rfl⟩)
    | schema h hcause => exact .inl (.inr ⟨_, h, hcause⟩)
    | build h hcause => exact .inr ⟨_, h, .inl hcause⟩

end Program

end GlyphGloss
