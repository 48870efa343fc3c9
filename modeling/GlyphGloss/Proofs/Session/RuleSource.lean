import GlyphGloss.Proofs.Session.Alike
import GlyphGloss.Session.Build
import GlyphGloss.Tools.Standard

/-!
# One source of rules

The rules of a session come from one source: from the schema, else from the header of the spelling
dictionary, else from the standard entries. Where the schema has rules, the headers of dictionaries
do not matter, whatever they hold: over files that differ in the headers of dictionaries only, a
session is built in both cases or in none, and answers all requests in the same way.

## Main definitions

* `Session.Built.behavior`: what is seen of a session that was built.
* `Session.buildFrom`: the session of a schema with rules from a source.
* `Dictionary.entriesOf`: the rule entries in a header, if they are a list.

## Main results

* `Session.build_eq`, `Session.build_eq_ok`: a session is built from its source of rules.
* `Session.behavior_build_congr`: with rules in the schema, headers do not matter.
* `Session.build_ruleSource`: where the rules of a session come from.
-/

namespace GlyphGloss

variable {tools : Tools} {files files' : Files} {path : Path}

namespace Session

/-! ### Sessions that are built -/

section Build

variable {schema : Schema} {entries : List Value} {source : RuleSource}

/-- What is seen of a session that was built: the entries of its rules, the rules, the events of
building it, and what is seen of requests in a row. -/
structure Behavior where
  entries : List Value
  rules : RuleTable
  events : List Event
  serve : List Request → List Seen

/-- What is seen of a session that was built. -/
def Built.behavior (b : Built) : Behavior :=
  ⟨b.entries, b.session.annotator.rules, b.events, b.session.serve []⟩

/-- The session of a schema with a rule table and a code dictionary. -/
def ofSchema (tools : Tools) (files : Files) (schema : Schema) (rules : RuleTable)
    (code : Shelf) : Session where
  annotator := {
    rules
    phrases := schema.phrases
    mixedTyping := schema.mixedTyping
    toneMarks := schema.toneMarks
    codePart := schema.codePart
    toTone := tools.toTone }
  keys := { cycle := keyOf schema.cycleKey, switch := keyOf schema.switchKey }
  options := OptionGroup.verbosity.ensureInitialized.1
  spelling := .closed schema.spellingPath files
  code

/-- The session of a schema with rules from a source. -/
def buildFrom (tools : Tools) (files : Files) (schema : Schema) (source : RuleSource) :
    Except Failure Built := do
  let (table, tableEvents) ← buildRules source.entries
  let (code, codeEvents) ← codeShelf files schema.codePath
  return {
    session := ofSchema tools files schema table code
    entries := source.entries
    events := source.events ++ tableEvents ++ codeEvents }

/-- A session is built from its source of rules, if there is a spelling dictionary. -/
theorem build_eq (tools : Tools) (files : Files) (schema : Schema) :
    build tools files schema =
      match (files schema.spellingPath).exists? schema.spellingPath with
      | .error cause => .error (.file cause)
      | .ok false => .error (.spellingMissing schema.spellingPath)
      | .ok true => ruleSource tools.reader files schema >>= buildFrom tools files schema := by
  unfold build
  dsimp only
  cases (files schema.spellingPath).exists? schema.spellingPath with
  | error cause => rfl
  | ok found => cases found <;> rfl

/-- What a session was built from that was built. -/
theorem build_eq_ok {built : Built} (h : build tools files schema = .ok built) :
    (files schema.spellingPath).exists? schema.spellingPath = .ok true ∧
      ∃ source table tableEvents code codeEvents,
        ruleSource tools.reader files schema = .ok source ∧
        buildRules source.entries = .ok (table, tableEvents) ∧
        codeShelf files schema.codePath = .ok (code, codeEvents) ∧
        built = {
          session := ofSchema tools files schema table code
          entries := source.entries
          events := source.events ++ tableEvents ++ codeEvents } := by
  rw [build_eq] at h
  split at h
  · cases h
  · cases h
  · next hthere =>
    obtain ⟨source, hsource, h⟩ := except_bind_eq_ok_iff.1 h
    obtain ⟨⟨table, tableEvents⟩, htable, h⟩ := except_bind_eq_ok_iff.1 h
    obtain ⟨⟨code, codeEvents⟩, hcode, h⟩ := except_bind_eq_ok_iff.1 h
    cases h
    exact ⟨hthere, source, table, tableEvents, code, codeEvents, hsource, htable, hcode, rfl⟩

/-! ### Rules in the schema -/

/-- Looking for a code dictionary fails in both cases, or gives dictionaries that read alike. -/
theorem codeShelf_congr (h : files.SameBodies files') (path : Option Path) :
    (∃ cause, codeShelf files path = .error cause ∧ codeShelf files' path = .error cause) ∨
      ∃ shelf shelf' events, codeShelf files path = .ok (shelf, events) ∧
        codeShelf files' path = .ok (shelf', events) ∧ shelf.Alike shelf' := by
  cases path with
  | none => exact .inr ⟨_, _, _, rfl, rfl, .refl _⟩
  | some path =>
    unfold codeShelf
    dsimp only
    rw [h.exists?_eq]
    cases (files path).exists? path with
    | error cause => exact .inl ⟨_, rfl, rfl⟩
    | ok found =>
      cases found with
      | true => exact .inr ⟨_, _, _, rfl, rfl, Shelf.alike_closed h path⟩
      | false => exact .inr ⟨_, _, _, rfl, rfl, .refl _⟩

theorem alike_ofSchema (tools : Tools) (h : files.SameBodies files') (schema : Schema)
    (rules : RuleTable) {code code' : Shelf} (hcode : code.Alike code') :
    (ofSchema tools files schema rules code).Alike (ofSchema tools files' schema rules code') where
  annotator_eq := rfl
  keys_eq := rfl
  options_eq := rfl
  shelf
    | .spelling => Shelf.alike_closed h schema.spellingPath
    | .code => hcode

theorem behavior_buildFrom_congr (h : files.SameBodies files') :
    (buildFrom tools files' schema source).map Built.behavior =
      (buildFrom tools files schema source).map Built.behavior := by
  unfold buildFrom
  cases buildRules source.entries with
  | error cause => rfl
  | ok found =>
    obtain ⟨cause, hcode, hcode'⟩ | ⟨code, code', events, hcode, hcode', halike⟩ :=
      codeShelf_congr h schema.codePath
    · rw [hcode, hcode']
      rfl
    · rw [hcode, hcode']
      have hserve := funext ((alike_ofSchema tools h schema found.1 halike).serve_eq [])
      exact congrArg (fun serve => Except.ok (Behavior.mk _ _ _ serve)) hserve

/-- With rules in the schema, the headers of dictionaries do not matter. -/
theorem behavior_build_congr (hentries : schema.entries = some entries)
    (h : files.SameBodies files') :
    (build tools files' schema).map Built.behavior =
      (build tools files schema).map Built.behavior := by
  rw [build_eq, build_eq, h.exists?_eq, ruleSource_of_schema hentries,
    ruleSource_of_schema hentries]
  cases (files schema.spellingPath).exists? schema.spellingPath with
  | error cause => rfl
  | ok found =>
    cases found with
    | true => exact behavior_buildFrom_congr h
    | false => rfl

end Build

end Session

theorem Schema.eq_of_readRules {v : Value} (h : (readRules v).2 = []) :
    v = ((readRules v).1.map Value.list).getD .null := by
  revert h
  unfold readRules
  split
  · exact fun _ => rfl
  · exact fun _ => rfl
  · exact nofun

/-- The rules of a schema are the list that its document sets, if it sets any. -/
theorem Schema.setting_rules_of_ofValue {directory : Option Path} {v : Value} {schema : Schema}
    (h : ofValue path directory v = .ok schema) :
    setting v "encoder/rules" = (schema.entries.map Value.list).getD .null := by
  obtain ⟨spelling, -, h⟩ := except_bind_eq_ok_iff.1 h
  dsimp only at h
  split at h
  · next hproblems =>
    obtain ⟨code, -, h⟩ := except_bind_eq_ok_iff.1 h
    obtain ⟨mixedTyping, -, h⟩ := except_bind_eq_ok_iff.1 h
    cases h
    obtain ⟨-, hrules⟩ := List.append_eq_nil_iff.1 hproblems
    exact eq_of_readRules hrules
  · cases h
  · cases h

/-! ### Rules in a header -/

namespace Dictionary

/-- The rule entries in a header, if they are a list. A blank header has none. -/
def entriesOf (reader : Reader) (header : Text) : Except Reader.Fault (Option (List Value)) :=
  if header.trim.isEmpty then .ok none else (reader.text header).map headerRules

theorem headerRules_headerValue (reader : Reader) (path : Path) (header : Text) :
    (headerValue reader path header).map headerRules =
      (entriesOf reader header).mapError (Failure.ofHeaderFault path) := by
  unfold headerValue entriesOf
  split_ifs
  · rfl
  · cases reader.text header with
    | error fault => rfl
    | ok v => cases v <;> rfl

end Dictionary

namespace Session

/-- A session with one more event in front. -/
def Built.noting (e : Event) (b : Built) : Built :=
  { b with events := e :: b.events }

section Header

variable {schema : Schema} {s : String}

/-- Without rules in the schema, the header of the spelling dictionary is the source of rules. -/
theorem ruleSource_of_header (reader : Reader) (hnone : schema.entries = none)
    (hfile : files schema.spellingPath = .file s.toUTF8) :
    ruleSource reader files schema =
      ((Dictionary.entriesOf reader
          (Dictionary.ofText (Text.normalizeBreaks s.toList)).header).mapError
        (Failure.ofHeaderFault schema.spellingPath)).map fun
          | some entries => ⟨entries, []⟩
          | none => ⟨RuleSetting.standardEntries, [.standardRules]⟩ := by
  rw [← Dictionary.headerRules_headerValue]
  unfold ruleSource Dictionary.readHeader
  rw [hnone, Files.readExisting_file hfile]
  simp only [bind, Except.bind]
  cases Dictionary.headerValue reader schema.spellingPath _ with
  | error cause => rfl
  | ok v =>
    dsimp only [Except.map]
    cases Dictionary.headerRules v <;> rfl

/-- Standard rules are like rules of the schema, but for one event. -/
theorem buildFrom_standard (tools : Tools) (files : Files) (schema : Schema)
    (entries : List Value) (e : Event) :
    buildFrom tools files schema ⟨entries, [e]⟩ =
      (buildFrom tools files schema ⟨entries, []⟩).map (Built.noting e) := by
  unfold buildFrom
  cases buildRules entries with
  | error cause => rfl
  | ok found =>
    cases codeShelf files schema.codePath <;> rfl

/-- **Where the rules of a session come from.** A schema has the rules that are a list in its
document, even an empty one. If it has rules, then the rules of the session are those and nothing
else, and the headers of dictionaries do not matter: over files that differ in them only, be they
well-formed or not, a session is built in both cases or in none, with the same failure, and requests
in a row are answered in the same way. If the schema has no rules and the spelling dictionary is a
text, then a list of rules in its header acts as if it were in the schema. Without a list there, or
with a blank header, the standard rules do, which is recorded. A header that is neither blank nor
can be read fails for the fault of the reader, whatever that is; one that is not well-formed is a
wrong value. All this holds for each reader of settings documents. -/
theorem build_ruleSource (tools : Tools) (files : Files) (schema : Schema) :
    (∀ path directory v, Schema.ofValue path directory v = .ok schema →
      Schema.setting v "encoder/rules" = (schema.entries.map Value.list).getD .null) ∧
    (∀ entries, schema.entries = some entries →
      (∀ built, build tools files schema = .ok built → built.entries = entries ∧
        ∃ events, buildRules entries = .ok (built.session.annotator.rules, events)) ∧
      ∀ files', files.SameBodies files' →
        (build tools files' schema).map Built.behavior =
          (build tools files schema).map Built.behavior) ∧
    (schema.entries = none → ∀ s : String, files schema.spellingPath = .file s.toUTF8 →
      let header := (Dictionary.ofText (Text.normalizeBreaks s.toList)).header
      (∀ entries, Dictionary.entriesOf tools.reader header = .ok (some entries) →
        build tools files schema = build tools files { schema with entries := some entries }) ∧
      (Dictionary.entriesOf tools.reader header = .ok none →
        build tools files schema =
          (build tools files { schema with entries := some RuleSetting.standardEntries }).map
            (Built.noting .standardRules)) ∧
      (∀ fault, Dictionary.entriesOf tools.reader header = .error fault →
        build tools files schema = .error (Failure.ofHeaderFault schema.spellingPath fault)) ∧
      ∀ detail, Dictionary.entriesOf tools.reader header = .error (.malformed detail) →
        ∃ cause, build tools files schema = .error cause ∧ cause.kind = .wrongValue) := by
  refine ⟨fun path directory v => Schema.setting_rules_of_ofValue, ?_, ?_⟩
  · intro entries hentries
    refine ⟨fun built hbuilt => ?_, fun files' h => behavior_build_congr hentries h⟩
    obtain ⟨-, source, table, events, _, _, hsource, htable, -, rfl⟩ := build_eq_ok hbuilt
    obtain rfl : ⟨entries, []⟩ = source :=
      Except.ok.inj ((ruleSource_of_schema hentries).symm.trans hsource)
    exact ⟨rfl, events, htable⟩
  · intro hnone s hfile header
    have hexists : (files schema.spellingPath).exists? schema.spellingPath = .ok true := by
      rw [hfile]
      rfl
    have hsource := ruleSource_of_header tools.reader hnone hfile
    have hgiven (entries : List Value) :
        build tools files { schema with entries := some entries } =
          buildFrom tools files schema ⟨entries, []⟩ := by
      rw [build_eq, hexists, ruleSource_of_schema rfl]
      rfl
    have hfault (fault : Reader.Fault)
        (h : Dictionary.entriesOf tools.reader header = .error fault) :
        build tools files schema = .error (Failure.ofHeaderFault schema.spellingPath fault) := by
      rw [build_eq, hexists, hsource, h]
      rfl
    refine ⟨fun entries h => ?_, fun h => ?_, hfault, fun detail h => ⟨_, hfault _ h, rfl⟩⟩
    · rw [hgiven, build_eq, hexists, hsource, h]
      rfl
    · rw [hgiven, ← buildFrom_standard, build_eq, hexists, hsource, h]
      rfl

/-- A dictionary with a header and the record of one character. -/
def headed (header : String) : String :=
  "---\n" ++ header ++ "\n...\n中\t[口丨,kd]\n"

/-- The dictionary at every path. -/
def headedFiles (header : String) : Files :=
  fun _ => .file (headed header).toUTF8

/-- The schema of a dictionary without codes, with some rules. -/
def spellingSchema (entries : Option (List Value)) : Schema where
  spellingPath := .parse "d.dict.yaml".toList
  codePath := none
  cycleKey := .null
  switchKey := .null
  phrases := true
  mixedTyping := false
  toneMarks := false
  codePart := .literal
  entries

theorem sameBodies_headedFiles {header header' : String}
    (h : (Dictionary.ofText (Text.normalizeBreaks (headed header').toList)).body =
      (Dictionary.ofText (Text.normalizeBreaks (headed header).toList)).body) :
    (headedFiles header).SameBodies (headedFiles header') :=
  fun _ => .inr ⟨_, _, rfl, rfl, h⟩

/-- Results without entries are told apart by the number of entries. -/
theorem eq_of_map_length {x y : Except Reader.Fault (Option (List Value))}
    (hy : ∀ entries, y = .ok (some entries) → entries = [])
    (h : x.map (Option.map List.length) = y.map (Option.map List.length)) : x = y := by
  rcases y with fault | _ | entries
  · rcases x with fault' | found <;> cases h
    rfl
  · rcases x with fault' | _ | entries' <;> cases h
    rfl
  · obtain rfl := hy entries rfl
    rcases x with fault' | _ | entries'
    · cases h
    · cases h
    · rw [List.length_eq_zero_iff.1 (Option.some.inj (Except.ok.inj h))]

/-- Headers that name the dictionary, hold an empty list of rules, or are not well-formed. -/
theorem build_ruleSource_headers :
    let built (header : String) (entries : Option (List Value)) :=
      build Tools.standard (headedFiles header) (spellingSchema entries)
    let name := "name: x"
    let rules := "encoder: \x7brules: []\x7d"
    let broken := "a: ["
    let document := .mapping [
      (.text "schema_name".toList, .mapping [(.text "spelling".toList, .text ['d'])]),
      (.text "encoder".toList, .mapping [(.text "rules".toList, .list [])])]
    Schema.setting document "encoder/rules" = .list [] ∧
    (∃ b, built name (some []) = .ok b ∧ b.entries = []) ∧
    (built broken (some [])).map Built.behavior = (built name (some [])).map Built.behavior ∧
    built rules none = built rules (some []) ∧
    built name none =
      (built name (some RuleSetting.standardEntries)).map (Built.noting .standardRules) ∧
    ∃ cause, built broken none = .error cause ∧ cause.kind = .wrongValue := by
  intro built name rules broken document
  have hsource (header : String) (entries : Option (List Value)) :=
    build_ruleSource Tools.standard (headedFiles header) (spellingSchema entries)
  obtain ⟨hdocument, hgiven, -⟩ := hsource name (some [])
  obtain ⟨hentries, hsame⟩ := hgiven [] rfl
  obtain ⟨-, -, hname⟩ := hsource name none
  obtain ⟨-, -, hrules⟩ := hsource rules none
  obtain ⟨-, -, hbroken⟩ := hsource broken none
  refine ⟨hdocument (.parse ['s']) (some (.parse ['.'])) document rfl, ?_,
    hsame _ (sameBodies_headedFiles (by decide +kernel)), ?_, ?_, ?_⟩
  · have hok : (built name (some [])).isOk = true := by decide +kernel
    cases hbuilt : built name (some []) with
    | ok b => exact ⟨b, rfl, (hentries b hbuilt).1⟩
    | error cause =>
      rw [hbuilt] at hok
      cases hok
  · exact (hrules rfl _ rfl).1 [] (eq_of_map_length (by rintro _ ⟨⟩; rfl) (by decide +kernel))
  · exact (hname rfl _ rfl).2.1 (eq_of_map_length nofun (by decide +kernel))
  · exact (hbroken rfl _ rfl).2.2.2 Yaml.malformedDetail
      (eq_of_map_length nofun (by decide +kernel))

/-- A form feed is blank, but cannot stand in a document. Such a header is passed over. -/
theorem not_isWrongValue_blankHeader :
    ¬∀ (files : Files) (schema : Schema) (s : String) (detail : Text),
      schema.entries = none → files schema.spellingPath = .file s.toUTF8 →
      Tools.standard.reader.text (Dictionary.ofText (Text.normalizeBreaks s.toList)).header =
        .error (.malformed detail) →
      ∃ cause, build Tools.standard files schema = .error cause ∧ cause.kind = .wrongValue := by
  intro h
  let feed := "\x0c"
  let header := (Dictionary.ofText (Text.normalizeBreaks (headed feed).toList)).header
  have hfault : Tools.standard.reader.text header = .error (.malformed Yaml.malformedDetail) := by
    have hload : (Tools.standard.reader.text header).map (fun _ => ()) =
        .error (.malformed Yaml.malformedDetail) := by
      decide +kernel
    cases hfound : Tools.standard.reader.text header with
    | ok v =>
      rw [hfound] at hload
      cases hload
    | error fault =>
      rw [hfound] at hload
      exact congrArg Except.error (Except.error.inj hload)
  obtain ⟨cause, hcause, -⟩ :=
    h (headedFiles feed) (spellingSchema none) (headed feed) _ rfl rfl hfault
  have hok : (build Tools.standard (headedFiles feed) (spellingSchema none)).isOk = true := by
    decide +kernel
  rw [hcause] at hok
  cases hok

end Header

end Session

end GlyphGloss
