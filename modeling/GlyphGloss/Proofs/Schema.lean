import GlyphGloss.Proofs.Reporting.Start
import GlyphGloss.Proofs.Text
import GlyphGloss.Tools.Standard
import Mathlib.Data.List.Sort

/-!
# Malformed settings

What is wrong with the settings of a document is found setting by setting, and reported in one
message that names each of them, in a fixed order. Beside this report there are two more ways in
which the settings of a document are refused. A value with a whole number of too many digits cannot
be put in a name or a message. And the tags that extend a schema are looked at behind the report, so
that tags without a length, such as a number or a date, are an error of type. All this holds for
every reader of settings documents, and whatever values it finds.

## Main definitions

* `SchemaProblem.names`, `SchemaProblem.rank`: the setting that a problem is about, and its place in
  reports.
* `Schema.HasProblem`: what is wrong with the settings of a document.
* `Schema.Lists`: the lists of all that is wrong, in order.
* `Schema.Refusal`: why the settings of a document are refused.

## Main results

* `SchemaProblem.names_infix_message`: a problem in words names its setting.
* `Schema.lists_iff`: there is one list of all that is wrong.
* `Schema.ofValue_eq_error_iff`: settings are refused for those reasons and no others.
* `Schema.load_refused`: what loading a schema reports.
-/

namespace GlyphGloss

/-! ### Values in words -/

namespace Value

/-- A value that does not count as set has no number with many digits. -/
theorem isWritable_of_not_isTruthy {v : Value} (h : v.isTruthy = false) : v.isWritable = true := by
  match v with
  | .null | .bool _ | .float _ | .text _ | .bytes _ | .stamp _ => rfl
  | .int n =>
    obtain rfl : n = 0 := by simpa [isTruthy] using h
    decide +kernel
  | .list items | .tuple items | .set items =>
    obtain rfl : items = [] := by simpa [isTruthy] using h
    rfl
  | .mapping entries =>
    obtain rfl : entries = [] := by simpa [isTruthy] using h
    rfl

theorem isWritable_of_find? {key : Text} {v : Value} {entries : List (Scalar × Value)}
    (hentries : entriesWritable entries = true) (h : find? key entries = some v) :
    v.isWritable = true := by
  induction entries with
  | nil => cases h
  | cons entry rest ih =>
    obtain ⟨k, w⟩ := entry
    rw [entriesWritable, Bool.and_eq_true, Bool.and_eq_true] at hentries
    obtain ⟨⟨-, hw⟩, hrest⟩ := hentries
    unfold find? at h
    split at h
    · cases h
    · next hentry =>
      obtain ⟨hentry, rfl⟩ := List.cons.inj hentry
      cases hentry
      split_ifs at h
      · cases h
        exact hw
      · exact ih hrest h
    · next hentry =>
      obtain ⟨-, rfl⟩ := List.cons.inj hentry
      exact ih hrest h

/-- The parts of a value that can be put in words can be put in words. -/
theorem isWritable_of_at? {v w : Value} {names : List Text} (hv : v.isWritable = true)
    (h : v.at? names = some w) : w.isWritable = true := by
  induction names generalizing v with
  | nil =>
    cases h
    exact hv
  | cons key rest ih =>
    obtain ⟨next, hnext, hrest⟩ := Option.bind_eq_some_iff.1 h
    cases v with
    | mapping entries => exact ih (isWritable_of_find? hv hnext) hrest
    | scalar | list | tuple | set => cases hnext

end Value

/-! ### Problems -/

namespace SchemaProblem

/-- The names, between slashes, of the setting that a problem is about. -/
def names : SchemaProblem → String
  | .noSpelling => "schema_name/spelling"
  | .phraseNotWhole _ => "yuhao_chaifen/lua/phrase"
  | .unknownMode _ => "yuhao_chaifen/lua/phrase_code_mode"
  | .rulesNotList => "encoder/rules"

/-- The place of a problem in reports. -/
def rank : SchemaProblem → Nat
  | .noSpelling => 0
  | .phraseNotWhole _ => 1
  | .unknownMode _ => 2
  | .rulesNotList => 3

instance : Std.Irrefl fun p p' : SchemaProblem => p.rank < p'.rank :=
  ⟨fun _ => Nat.lt_irrefl _⟩

instance : Std.Antisymm fun p p' : SchemaProblem => p.rank < p'.rank :=
  ⟨fun _ _ h h' => absurd h (Nat.lt_asymm h')⟩

/-- A problem in words names its setting. -/
theorem names_infix_message (p : SchemaProblem) : p.names.toList <:+: p.message := by
  cases p with
  | noSpelling =>
    have hback : "schema_name/spelling".toList <:+ "missing schema_name/spelling".toList := by
      decide +kernel
    exact hback.isInfix
  | phraseNotWhole v =>
    have hfront : "yuhao_chaifen/lua/phrase".toList <+:
        "yuhao_chaifen/lua/phrase must be an integer, got ".toList := by
      decide +kernel
    exact (hfront.trans (List.prefix_append _ v.literal)).isInfix
  | unknownMode v =>
    have hfront : "yuhao_chaifen/lua/phrase_code_mode".toList <+:
        "yuhao_chaifen/lua/phrase_code_mode must be literal or terse, got ".toList := by
      decide +kernel
    exact (hfront.trans (List.prefix_append _ v.literal)).isInfix
  | rulesNotList =>
    have hfront : "encoder/rules".toList <+: "encoder/rules must be a list".toList := by
      decide +kernel
    exact hfront.isInfix

end SchemaProblem

namespace Schema

variable {v w : Value} {p : SchemaProblem} {listed : List SchemaProblem}

/-- What is wrong with the settings of a document. -/
inductive HasProblem (v : Value) : SchemaProblem → Prop
  | noSpelling (hunset : (setting v "schema_name/spelling").isTruthy = false) :
    HasProblem v .noSpelling
  | phraseNotWhole {w : Value} (hvalue : setting v "yuhao_chaifen/lua/phrase" = w)
      (hset : w ≠ .null) (hwhole : ∀ n, w ≠ .int n) :
    HasProblem v (.phraseNotWhole w)
  | unknownMode {w : Value} (hvalue : setting v "yuhao_chaifen/lua/phrase_code_mode" = w)
      (hset : w.isTruthy = true) (hliteral : w ≠ .text literalWord) (hterse : w ≠ .text terseWord) :
    HasProblem v (.unknownMode w)
  | rulesNotList {w : Value} (hvalue : setting v "encoder/rules" = w) (hset : w ≠ .null)
      (hlist : ∀ items, w ≠ .list items) :
    HasProblem v .rulesNotList

/-- The lists of all that is wrong with the settings of a document, in order. -/
structure Lists (v : Value) (listed : List SchemaProblem) : Prop where
  mem_iff : ∀ p, p ∈ listed ↔ HasProblem v p
  ordered : listed.Pairwise fun p p' => p.rank < p'.rank

/-- All that is wrong with the settings of a document, as it is found. -/
def problems (v : Value) : List SchemaProblem :=
  (if (setting v "schema_name/spelling").isTruthy then [] else [.noSpelling]) ++
    ((readPhrases (setting v "yuhao_chaifen/lua/phrase")).2 ++
      (readMode (setting v "yuhao_chaifen/lua/phrase_code_mode")).2 ++
      (readRules (setting v "encoder/rules")).2)

/-! ### What is found -/

/-- A list that holds a problem under a condition, and nothing otherwise. -/
def Finds (found : List SchemaProblem) (p : SchemaProblem) (condition : Prop) : Prop :=
  condition ∧ found = [p] ∨ ¬condition ∧ found = []

theorem Finds.mem_iff {found : List SchemaProblem} {condition : Prop} {q : SchemaProblem}
    (h : Finds found q condition) : p ∈ found ↔ p = q ∧ condition := by
  obtain ⟨hcondition, rfl⟩ | ⟨hcondition, rfl⟩ := h <;> simp [hcondition]

theorem Finds.sublist {found : List SchemaProblem} {condition : Prop}
    (h : Finds found p condition) : found.Sublist [p] := by
  obtain ⟨-, rfl⟩ | ⟨-, rfl⟩ := h
  · exact .refl _
  · exact List.nil_sublist _

theorem finds_noSpelling (w : Value) :
    Finds (if w.isTruthy then [] else [.noSpelling]) .noSpelling (w.isTruthy = false) := by
  cases hset : w.isTruthy with
  | false => exact .inl ⟨rfl, rfl⟩
  | true => exact .inr ⟨nofun, rfl⟩

theorem finds_readPhrases (w : Value) :
    Finds (readPhrases w).2 (.phraseNotWhole w) (w ≠ .null ∧ ∀ n, w ≠ .int n) := by
  unfold readPhrases
  split
  · exact .inr ⟨fun h => h.1 rfl, rfl⟩
  · next n => exact .inr ⟨fun h => h.2 n rfl, rfl⟩
  · next hnull hint => exact .inl ⟨⟨hnull, hint⟩, rfl⟩

theorem finds_readMode (w : Value) :
    Finds (readMode w).2 (.unknownMode w)
      (w.isTruthy = true ∧ w ≠ .text literalWord ∧ w ≠ .text terseWord) := by
  unfold readMode
  split_ifs with hset
  · exact .inr ⟨fun h => by simp [h.1] at hset, rfl⟩
  · have hset : w.isTruthy = true := by simpa using hset
    split
    · next t =>
      split_ifs with hliteral hterse
      · exact .inr ⟨fun h => h.2.1 (congrArg Value.text hliteral), rfl⟩
      · exact .inr ⟨fun h => h.2.2 (congrArg Value.text hterse), rfl⟩
      · refine .inl ⟨⟨hset, ?_, ?_⟩, rfl⟩
        · rintro ⟨⟩
          exact hliteral rfl
        · rintro ⟨⟩
          exact hterse rfl
    · next htext => exact .inl ⟨⟨hset, htext _, htext _⟩, rfl⟩

theorem finds_readRules (w : Value) :
    Finds (readRules w).2 .rulesNotList (w ≠ .null ∧ ∀ items, w ≠ .list items) := by
  unfold readRules
  split
  · exact .inr ⟨fun h => h.1 rfl, rfl⟩
  · next items => exact .inr ⟨fun h => h.2 items rfl, rfl⟩
  · next hnull hlist => exact .inl ⟨⟨hnull, hlist⟩, rfl⟩

/-- What is found is all that is wrong, in order. -/
theorem lists_problems (v : Value) : Lists v (problems v) where
  mem_iff p := by
    rw [problems, List.mem_append, List.mem_append, List.mem_append, (finds_noSpelling _).mem_iff,
      (finds_readPhrases _).mem_iff, (finds_readMode _).mem_iff, (finds_readRules _).mem_iff]
    constructor
    · rintro (⟨rfl, hunset⟩ | (⟨rfl, hset, hwhole⟩ | ⟨rfl, hset, hliteral, hterse⟩) |
        ⟨rfl, hset, hlist⟩)
      · exact .noSpelling hunset
      · exact .phraseNotWhole rfl hset hwhole
      · exact .unknownMode rfl hset hliteral hterse
      · exact .rulesNotList rfl hset hlist
    · intro h
      cases h with
      | noSpelling hunset => exact .inl ⟨rfl, hunset⟩
      | phraseNotWhole hvalue hset hwhole =>
        subst hvalue
        exact .inr (.inl (.inl ⟨rfl, hset, hwhole⟩))
      | unknownMode hvalue hset hliteral hterse =>
        subst hvalue
        exact .inr (.inl (.inr ⟨rfl, hset, hliteral, hterse⟩))
      | rulesNotList hvalue hset hlist =>
        subst hvalue
        exact .inr (.inr ⟨rfl, hset, hlist⟩)
  ordered := by
    -- Each part is the one problem that it can find, or empty; and these problems are in order.
    have hsublist := (finds_noSpelling (setting v "schema_name/spelling")).sublist.append
      (((finds_readPhrases (setting v "yuhao_chaifen/lua/phrase")).sublist.append
        (finds_readMode (setting v "yuhao_chaifen/lua/phrase_code_mode")).sublist).append
        (finds_readRules (setting v "encoder/rules")).sublist)
    refine List.Pairwise.sublist hsublist ?_
    simp [SchemaProblem.rank]

/-- There is one list of all that is wrong. -/
theorem lists_iff : Lists v listed ↔ listed = problems v := by
  constructor
  · intro h
    have hfound := lists_problems v
    exact h.ordered.eq_of_mem_iff hfound.ordered fun p =>
      (h.mem_iff p).trans (hfound.mem_iff p).symm
  · rintro rfl
    exact lists_problems v

theorem problems_eq_nil_iff : problems v = [] ↔ ∀ p, ¬HasProblem v p := by
  rw [List.eq_nil_iff_forall_not_mem]
  exact forall_congr' fun p => not_congr ((lists_problems v).mem_iff p)

/-! ### Settings that are refused -/

variable {path directory : Path} {cause : Failure}

/-- A name gives a path, if there is one, unless it cannot be written. -/
theorem dictionaryPath_eq_error_iff :
    dictionaryPath (some directory) w = .error cause ↔
      w.isWritable = false ∧ cause = .unwritable := by
  unfold dictionaryPath
  split_ifs with hset hwritable
  · have hwritable := Value.isWritable_of_not_isTruthy (v := w) (by simpa using hset)
    exact iff_of_false nofun fun h => by simp [hwritable] at h
  · have hwritable : w.isWritable = false := by simpa using hwritable
    exact ⟨fun h => ⟨hwritable, by cases h; rfl⟩, fun h => by rw [h.2]⟩
  · exact iff_of_false nofun fun h => hwritable (by simp [h.1])

theorem dictionaryPath_eq_ok (directory : Path) (h : w.isWritable = true) :
    ∃ path?, dictionaryPath (some directory) w = .ok path? ∧ path?.isSome = w.isTruthy := by
  unfold dictionaryPath
  split_ifs with hset hwritable
  · exact ⟨none, rfl, by simpa using hset⟩
  · simp [h] at hwritable
  · exact ⟨_, rfl, by simpa using hset⟩

/-- Tags that are set have to have a length, which is to say elements. -/
theorem readTags_eq_error_iff :
    readTags w = .error cause ↔
      w.isTruthy = true ∧ w.elements? = none ∧ cause = .noLength w.fullKind := by
  unfold readTags
  cases w.isTruthy <;> cases w.elements? <;> simp [eq_comm]

/-- A date has no length. -/
example : readTags (.stamp ⟨"date", "datetime.date", "datetime.date(2001, 1, 1)".toList,
    "2001-01-01".toList⟩) = .error (.noLength "datetime.date") := by
  rfl

/-- Why the settings of a document are refused. -/
inductive Refusal (path : Path) (v : Value) : Failure → Prop
  /-- All that is wrong is reported. -/
  | invalid {listed : List SchemaProblem} (hlists : Lists v listed) (hne : listed ≠ [])
      (hspelling : (setting v "schema_name/spelling").isWritable = true)
      (hwritable : ∀ p ∈ listed, p.isWritable = true) :
    Refusal path v (.schemaInvalid path listed)
  /-- A number has too many digits for the name of a dictionary or for the report. -/
  | unwritable
      (h : (setting v "schema_name/spelling").isWritable = false ∨
        (∃ p, HasProblem v p ∧ p.isWritable = false) ∨
        (∀ p, ¬HasProblem v p) ∧ (setting v "schema_name/code").isWritable = false) :
    Refusal path v .unwritable
  /-- Nothing is wrong, but the tags are set and have no length. -/
  | tags {w : Value} (hvalue : setting v "abc_segmentor/extra_tags" = w)
      (hset : w.isTruthy = true) (hlength : w.elements? = none) (hnone : ∀ p, ¬HasProblem v p)
      (hspelling : (setting v "schema_name/spelling").isWritable = true)
      (hcode : (setting v "schema_name/code").isWritable = true) :
    Refusal path v (.noLength w.fullKind)

theorem refusal_iff_of_unwritable
    (h : (setting v "schema_name/spelling").isWritable = false) :
    Refusal path v cause ↔ cause = .unwritable := by
  constructor
  · intro hrefusal
    cases hrefusal with
    | unwritable => rfl
    | invalid _ _ hspelling | tags _ _ _ _ hspelling =>
      rw [h] at hspelling
      cases hspelling
  · rintro rfl
    exact .unwritable (.inl h)

theorem refusal_iff_of_problems (hspelling : (setting v "schema_name/spelling").isWritable = true)
    (hne : problems v ≠ []) :
    Refusal path v cause ↔ cause = problemsFailure path (problems v) := by
  unfold problemsFailure
  have hfound := (lists_problems v).mem_iff
  constructor
  · intro hrefusal
    cases hrefusal with
    | invalid hlists _ _ hwritable =>
      obtain rfl := lists_iff.1 hlists
      rw [if_pos (List.all_eq_true.2 hwritable)]
    | unwritable h =>
      obtain h | ⟨p, hp, hlong⟩ | ⟨hnone, -⟩ := h
      · rw [h] at hspelling
        cases hspelling
      · rw [if_neg]
        intro hall
        have hwritable := List.all_eq_true.1 hall p ((hfound p).2 hp)
        rw [hlong] at hwritable
        cases hwritable
      · exact absurd (problems_eq_nil_iff.2 hnone) hne
    | tags _ _ _ hnone => exact absurd (problems_eq_nil_iff.2 hnone) hne
  · rintro rfl
    split_ifs with hall
    · exact .invalid (lists_problems v) hne hspelling (List.all_eq_true.1 hall)
    · rw [Bool.not_eq_true, List.all_eq_false] at hall
      obtain ⟨p, hp, hlong⟩ := hall
      exact .unwritable (.inr (.inl ⟨p, (hfound p).1 hp, by simpa using hlong⟩))

theorem refusal_iff_of_sound (hspelling : (setting v "schema_name/spelling").isWritable = true)
    (hnone : ∀ p, ¬HasProblem v p) :
    Refusal path v cause ↔
      (setting v "schema_name/code").isWritable = false ∧ cause = .unwritable ∨
        (setting v "schema_name/code").isWritable = true ∧
          readTags (setting v "abc_segmentor/extra_tags") = .error cause := by
  rw [readTags_eq_error_iff]
  constructor
  · intro hrefusal
    cases hrefusal with
    | invalid hlists hne => exact absurd (lists_iff.1 hlists) (problems_eq_nil_iff.2 hnone ▸ hne)
    | unwritable h =>
      obtain h | ⟨p, hp, -⟩ | ⟨-, hcode⟩ := h
      · rw [h] at hspelling
        cases hspelling
      · exact absurd hp (hnone p)
      · exact .inl ⟨hcode, rfl⟩
    | tags hvalue hset hlength _ _ hcode =>
      subst hvalue
      exact .inr ⟨hcode, hset, hlength, rfl⟩
  · rintro (⟨hcode, rfl⟩ | ⟨hcode, hset, hlength, rfl⟩)
    · exact .unwritable (.inr (.inr ⟨hnone, hcode⟩))
    · exact .tags rfl hset hlength hnone hspelling hcode

/-- The kind of a refusal. -/
theorem Refusal.kind_cases (h : Refusal path v cause) :
    cause.kind = .wrongValue ∨ cause.kind = .wrongType ∧ (∀ p, ¬HasProblem v p) ∧
      (setting v "abc_segmentor/extra_tags").isTruthy = true ∧
      (setting v "abc_segmentor/extra_tags").elements? = none := by
  cases h with
  | invalid | unwritable => exact .inl rfl
  | tags hvalue hset hlength hnone =>
    subst hvalue
    exact .inr ⟨rfl, hnone, hset, hlength⟩

/-- All that is wrong is what the settings are refused for. -/
theorem ofValue_of_problems (hspelling : (setting v "schema_name/spelling").isWritable = true)
    (hne : problems v ≠ []) :
    ofValue path (some directory) v = .error (problemsFailure path (problems v)) := by
  obtain ⟨path?, hpath, hset⟩ := dictionaryPath_eq_ok directory hspelling
  unfold ofValue
  rw [hpath]
  unfold problems at hne ⊢
  rw [← hset] at hne ⊢
  cases path? with
  | none => rfl
  | some spellingPath =>
    dsimp only [bind, Except.bind]
    split
    · next hnone => exact absurd hnone hne
    · rfl
    · next hnone => cases hnone

/-- Where nothing is wrong, the codes and the tags are left to look at. -/
theorem exists_ofValue_eq (path directory : Path)
    (hspelling : (setting v "schema_name/spelling").isWritable = true) (hnone : problems v = []) :
    ∃ schema : Option Path → Bool → Schema, ofValue path (some directory) v =
      dictionaryPath (some directory) (setting v "schema_name/code") >>= fun codePath =>
        readTags (setting v "abc_segmentor/extra_tags") >>= fun mixedTyping =>
          .ok (schema codePath mixedTyping) := by
  obtain ⟨path?, hpath, hset⟩ := dictionaryPath_eq_ok directory hspelling
  unfold ofValue
  rw [hpath]
  unfold problems at hnone
  rw [← hset] at hnone
  cases path? with
  | none => cases hnone
  | some spellingPath =>
    have hrest : (readPhrases (setting v "yuhao_chaifen/lua/phrase")).2 ++
        (readMode (setting v "yuhao_chaifen/lua/phrase_code_mode")).2 ++
        (readRules (setting v "encoder/rules")).2 = [] := hnone
    dsimp only [bind, Except.bind]
    rw [hrest]
    exact ⟨_, rfl⟩

/-- Settings are refused for those reasons and no others. -/
theorem ofValue_eq_error_iff :
    ofValue path (some directory) v = .error cause ↔ Refusal path v cause := by
  cases hspelling : (setting v "schema_name/spelling").isWritable with
  | false =>
    have hname : dictionaryPath (some directory) (setting v "schema_name/spelling") =
        .error .unwritable := dictionaryPath_eq_error_iff.2 ⟨hspelling, rfl⟩
    have hfails : ofValue path (some directory) v = .error .unwritable := by
      unfold ofValue
      rw [hname]
      rfl
    rw [hfails, refusal_iff_of_unwritable hspelling, Except.error.injEq, eq_comm]
  | true =>
    by_cases hnone : problems v = []
    · obtain ⟨schema, hschema⟩ := exists_ofValue_eq path directory hspelling hnone
      rw [hschema, refusal_iff_of_sound hspelling (problems_eq_nil_iff.1 hnone),
        except_bind_eq_error_iff, dictionaryPath_eq_error_iff]
      refine or_congr_right ⟨?_, ?_⟩
      · rintro ⟨codePath, hcode, h⟩
        obtain htags | ⟨_, _, ⟨⟩⟩ := except_bind_eq_error_iff.1 h
        refine ⟨?_, htags⟩
        by_contra hlong
        rw [dictionaryPath_eq_error_iff.2 ⟨by simpa using hlong, rfl⟩] at hcode
        cases hcode
      · rintro ⟨hcode, htags⟩
        obtain ⟨codePath, hpath, -⟩ := dictionaryPath_eq_ok directory hcode
        exact ⟨codePath, hpath, except_bind_eq_error_iff.2 (.inl htags)⟩
    · rw [ofValue_of_problems hspelling hnone, refusal_iff_of_problems hspelling hnone,
        Except.error.injEq, eq_comm]

/-! ### Schemas -/

section Load

variable {reader : Reader} {files : Files} {location : Location} {bytes : ByteArray}

/-- The schema in a file is what the reader gives of it, if that is a mapping. -/
theorem load_of_file (hfile : files path = .file bytes) :
    load reader files path location =
      match reader.file bytes with
      | .error fault => .error (Failure.ofSchemaFault path fault)
      | .ok (.mapping entries) => ofValue path (location.directory? path) (.mapping entries)
      | .ok _ => .error (.schemaNotMapping path) := by
  unfold load
  rw [hfile]
  cases hread : reader.file bytes with
  | error fault => simp [Entry.bytes, hread, Except.mapError, bind, Except.bind]
  | ok v => cases v <;> simp [Entry.bytes, hread, Except.mapError, bind, Except.bind] <;> rfl

theorem load_of_mapping {entries : List (Scalar × Value)} (hfile : files path = .file bytes)
    (hread : reader.file bytes = .ok (.mapping entries)) :
    load reader files path location =
      ofValue path (location.directory? path) (.mapping entries) := by
  rw [load_of_file hfile, hread]

/-- A file whose document is a mapping that passes a test. -/
theorem exists_mapping_of_test (test : List (Scalar × Value) → Bool)
    (h : (match reader.file bytes with
      | .ok (.mapping entries) => test entries
      | _ => false) = true) :
    ∃ entries, reader.file bytes = .ok (.mapping entries) ∧ test entries = true := by
  split at h
  · next entries hread => exact ⟨entries, hread, h⟩
  · cases h

/-- The settings of a document that can be put in words can be. -/
theorem isWritable_setting (h : v.isWritable = true) (names : String) :
    (setting v names).isWritable = true := by
  unfold setting
  cases hfound : v.at? (Text.splitAtEvery '/' names.toList) with
  | none => rfl
  | some w => exact Value.isWritable_of_at? h hfound

theorem HasProblem.isWritable (h : HasProblem v p) (hv : v.isWritable = true) :
    p.isWritable = true := by
  cases h with
  | noSpelling | rulesNotList => rfl
  | phraseNotWhole hvalue | unknownMode hvalue =>
    subst hvalue
    exact isWritable_setting hv _

/-- **What loading a schema reports.** Let a schema be a file, and let its dictionaries have a
directory. If a reader finds a mapping of settings in it, whatever their values are, then there is
one list of all that is wrong with them, in order, and loading fails for the reasons of `Refusal`
and for no others. Such a failure is a wrong value, but for tags without a length where nothing is
wrong, which are a wrong type. If no number has too many digits for a message, then all that is
wrong is reported in one message that names each setting, and a schema with nothing wrong and tags
with a length, or none, is loaded. Any other value than a mapping is a wrong type, and a document
that cannot be read fails for the fault of the reader. -/
theorem load_refused (reader : Reader) (files : Files) (path : Path) (location : Location)
    (hfile : files path = .file bytes) (hdirectory : location.directory? path = some directory) :
    (∀ entries, reader.file bytes = .ok (.mapping entries) →
      let v := Value.mapping entries
      let tags := setting v "abc_segmentor/extra_tags"
      (∃! listed, Lists v listed) ∧
      (∀ cause, load reader files path location = .error cause ↔ Refusal path v cause) ∧
      (∀ cause, Refusal path v cause → cause.kind = .wrongValue ∨
        cause.kind = .wrongType ∧ (∀ p, ¬HasProblem v p) ∧ tags.isTruthy = true ∧
          tags.elements? = none) ∧
      (v.isWritable = true →
        (∀ listed, Lists v listed → listed ≠ [] → ∃ cause,
          load reader files path location = .error cause ∧ cause.kind = .wrongValue ∧
          cause.message = "Invalid schema ".toList ++ path.text ++ ": ".toList ++
            Text.join "; ".toList (listed.map (·.message)) ∧
          ∀ p, HasProblem v p → p.names.toList <:+: cause.message) ∧
        ((∀ p, ¬HasProblem v p) → (tags.isTruthy = true → tags.elements?.isSome = true) →
          ∃ schema, load reader files path location = .ok schema))) ∧
    (∀ v, reader.file bytes = .ok v → (∀ entries, v ≠ .mapping entries) →
      load reader files path location = .error (.schemaNotMapping path)) ∧
    ∀ fault, reader.file bytes = .error fault →
      load reader files path location = .error (Failure.ofSchemaFault path fault) := by
  refine ⟨?_, fun v hread hmapping => ?_, fun fault hread => ?_⟩
  · intro entries hread v tags
    have hrefused (cause : Failure) :
        load reader files path location = .error cause ↔ Refusal path v cause := by
      rw [load_of_mapping hfile hread, hdirectory, ofValue_eq_error_iff]
    refine ⟨⟨_, lists_problems v, fun _ => lists_iff.1⟩, hrefused, fun _ => Refusal.kind_cases,
      fun hwritable => ⟨fun listed hlists hne => ?_, fun hnone htags => ?_⟩⟩
    · refine ⟨_, (hrefused _).2 (.invalid hlists hne (isWritable_setting hwritable _) fun p hp =>
        ((hlists.mem_iff p).1 hp).isWritable hwritable), rfl, rfl, fun p hp => ?_⟩
      have hmember := List.mem_map_of_mem (f := (·.message)) ((hlists.mem_iff p).2 hp)
      exact p.names_infix_message.trans
        ((Text.infix_join hmember).trans (List.suffix_append _ _).isInfix)
    · cases hschema : load reader files path location with
      | ok schema => exact ⟨schema, rfl⟩
      | error cause =>
        -- Without a problem and with all numbers written, only the tags are left to refuse.
        have hrefusal := (hrefused cause).1 hschema
        rw [refusal_iff_of_sound (isWritable_setting hwritable _) hnone,
          isWritable_setting hwritable, readTags_eq_error_iff] at hrefusal
        obtain ⟨⟨⟩, -⟩ | ⟨-, hset, hlength, -⟩ := hrefusal
        have hsome := htags hset
        rw [hlength] at hsome
        cases hsome
  · rw [load_of_file hfile, hread]
    cases v with
    | mapping entries => exact absurd rfl (hmapping entries)
    | _ => rfl
  · rw [load_of_file hfile, hread]

/-- A schema in which every setting is wrong. -/
def allWrong : String :=
  "encoder: \x7brules: x\x7d\nyuhao_chaifen: \x7blua: \x7bphrase: y, phrase_code_mode: z\x7d\x7d\n"

/-- All that is wrong is named in order. -/
theorem load_refused_allWrong :
    ∃ cause, load Yaml.reader (fun _ => .file allWrong.toUTF8) (.parse ['s']) .beside =
        .error cause ∧
      cause.kind = .wrongValue ∧
      cause.message = "Invalid schema s: ".toList ++ Text.join "; ".toList [
        "missing schema_name/spelling".toList,
        "yuhao_chaifen/lua/phrase must be an integer, got 'y'".toList,
        "yuhao_chaifen/lua/phrase_code_mode must be literal or terse, got 'z'".toList,
        "encoder/rules must be a list".toList] := by
  have htest := @exists_mapping_of_test Yaml.reader allWrong.toUTF8
    fun entries =>
      (Value.mapping entries).isWritable && (problems (.mapping entries)).map (·.message) == [
        "missing schema_name/spelling".toList,
        "yuhao_chaifen/lua/phrase must be an integer, got 'y'".toList,
        "yuhao_chaifen/lua/phrase_code_mode must be literal or terse, got 'z'".toList,
        "encoder/rules must be a list".toList]
  obtain ⟨entries, hread, htest⟩ := htest (by decide +kernel)
  obtain ⟨hwritable, hreported⟩ := Bool.and_eq_true_iff.1 htest
  have hreported := eq_of_beq hreported
  have hne : problems (.mapping entries) ≠ [] := by
    intro hnil
    rw [hnil] at hreported
    exact absurd hreported.symm (List.cons_ne_nil _ _)
  obtain ⟨hmapping, -⟩ := load_refused Yaml.reader (fun _ => .file allWrong.toUTF8)
    (.parse ['s']) .beside rfl rfl
  obtain ⟨-, -, -, hshown⟩ := hmapping entries hread
  obtain ⟨cause, hcause, hkind, hmessage, -⟩ := (hshown hwritable).1 _ (lists_problems _) hne
  refine ⟨cause, hcause, hkind, ?_⟩
  rw [hmessage, hreported]
  rfl

/-- A schema in which only the tags cannot be used. -/
def numberTags : String :=
  "schema_name: \x7bspelling: d\x7d\nabc_segmentor: \x7bextra_tags: 5\x7d\n"

/-- Tags that are a number are an error of type. -/
theorem not_isWrongValue_tags :
    ¬∀ (files : Files) (path directory : Path) (bytes : ByteArray)
      (entries : List (Scalar × Value)),
      files path = .file bytes → Yaml.reader.file bytes = .ok (.mapping entries) →
      ∀ cause, load Yaml.reader files path (.inside directory) = .error cause →
        cause.kind = .wrongValue := by
  intro h
  have htest := @exists_mapping_of_test Yaml.reader numberTags.toUTF8
    fun entries =>
      match ofValue (.parse ['s']) (some (.parse ['d'])) (.mapping entries) with
      | .error cause => cause.kind == .wrongType
      | .ok _ => false
  obtain ⟨entries, hread, htest⟩ := htest (by decide +kernel)
  have hkind := h (fun _ => .file numberTags.toUTF8) (.parse ['s']) (.parse ['d']) _ entries rfl
    hread
  rw [load_of_mapping rfl hread] at hkind
  split at htest
  · next cause hvalue =>
    rw [hkind cause hvalue] at htest
    cases htest
  · cases htest

end Load

end Schema

end GlyphGloss
