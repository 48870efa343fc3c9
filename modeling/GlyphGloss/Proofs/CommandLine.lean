import GlyphGloss.CommandLine.Program
import GlyphGloss.Proofs.Annotation
import GlyphGloss.Proofs.Display
import GlyphGloss.Proofs.Options.Movement
import GlyphGloss.Proofs.Session.RuleSource
import GlyphGloss.Tools.Standard

/-!
# What the program prints

The program prints one line for each text, with the text and its comment in two cells. A comment
comes from the shown form of records, from a composition or from the dictionary of codes, and fits
into one cell each time, whatever the files hold, unless the conversion of syllables brings blanks;
so the texts can be read off the output again. The comment of a text is the one that it gets alone.

## Main definitions

* `Session.HasCells`: a session in which what annotations are made of fits into cells.
* `Program.Shown`: what the text of an argument comes to.

## Main results

* `Session.HasCells.isCell_noteFor`: all annotations of such a session fit into cells.
* `Program.start_eq_ok`: the sessions of the program at the start.
* `Program.isOn_selectPlace`: choosing a level turns on its flag and no other.
* `Program.run_finished`: what a run that comes to its end prints.
-/

namespace GlyphGloss

/-! ### Comments in cells -/

/-- An annotation fits into one cell if converted syllables have no blanks. -/
theorem Annotator.isCell_note (a : Annotator)
    (htone : ∀ syllable, Display.isNumbered syllable = true →
      ∀ c ∈ a.toTone syllable, isBlank c = false)
    (lookup : Text → Text) (level : Int) (t : Text) :
    Text.IsCell ((a.note lookup level t).text.getD []) := by
  cases hnote : (a.note lookup level t).text with
  | none => exact .nil
  | some shown =>
    have hspace {c : Char} (hc : c ∈ shown) : isBlank c → c = ' ' := by
      refine space_of_mem_note hnote (fun c hconverted hblank => ?_) hc
      obtain ⟨syllable, hnumbered, hc⟩ := hconverted
      exact absurd hblank (Bool.eq_false_iff.1 (htone syllable hnumbered c hc))
    exact ⟨fun htab => absurd (hspace htab (by decide)) (by decide),
      fun hbreak => absurd (hspace hbreak (by decide)) (by decide)⟩

/-- A dictionary file says what fits into cells, even if it cannot be read. -/
theorem Shelf.isCell_content_closed (path : Path) (files : Files) (key : Text) :
    Text.IsCell ((Shelf.closed path files).content.lookup key) := by
  cases hread : files.readExisting path (.lexiconMissing path) with
  | error cause =>
    have hfails : (Shelf.closed path files).read = .error cause := by
      rw [read, hread]
      rfl
    rw [content, hfails]
    exact .nil
  | ok t =>
    let body := (Dictionary.ofText t).body
    let lexicon := Dictionary.lexicon body
    have hfound : (Shelf.closed path files).read = .ok (lexicon, readEvents path body lexicon) := by
      rw [read, hread]
      rfl
    rw [content_eq hfound]
    exact Dictionary.isCell_lookup_lexicon t key

namespace Session

variable {s : Session}

/-- A session in which what annotations are made of fits into cells. -/
structure HasCells (s : Session) : Prop where
  /-- What the dictionary of codes says fits into cells. -/
  code : ∀ key, Text.IsCell (s.code.content.lookup key)
  /-- Converted syllables have no blanks. -/
  toTone : ∀ syllable, Display.isNumbered syllable = true →
    ∀ c ∈ s.annotator.toTone syllable, isBlank c = false

/-- Annotations fit into cells, whatever the kind of a candidate. -/
theorem HasCells.isCell_noteFor (h : s.HasCells) (kind : Candidate.Kind) (t : Text) :
    Text.IsCell (s.noteFor kind t) := by
  cases kind with
  | sentence => exact .nil
  | punctuation => exact h.code t
  | plain | simplified | completion | other => exact s.annotator.isCell_note h.toTone _ _ t

/-- A candidate without a comment keeps its text and gets its annotation as the comment, unless
annotations are off. -/
theorem annotateAll_singleton {c c' : Candidate} (hcomment : c.comment = [])
    (hresult : (s.annotateAll [c]).result = .ok [c']) :
    c'.text = c.text ∧
      c'.comment = if s.options.isOff then [] else s.noteFor c.kind c.text := by
  unfold annotateAll at hresult
  split_ifs at hresult with hoff
  · cases hresult
    exact ⟨rfl, hcomment.trans (if_pos hoff).symm⟩
  · obtain _ | ⟨hannotated, -⟩ := annotateEach_annotated hresult
    refine ⟨hannotated.text_eq, ?_⟩
    rw [hannotated.comment_eq, hcomment, List.append_nil, ite_self, if_neg hoff]

/-- A code dictionary is a file that is there, or empty. -/
theorem codeShelf_cases {files : Files} {path : Option Path} {shelf : Shelf}
    {events : List Event} (h : codeShelf files path = .ok (shelf, events)) :
    shelf = .opened .empty ∨
      ∃ path, shelf = .closed path files ∧ (files path).exists? path = .ok true := by
  unfold codeShelf at h
  split at h
  · cases h
    exact .inl rfl
  · next path =>
    split at h
    · cases h
    · next hthere =>
      cases h
      exact .inr ⟨path, rfl, hthere⟩
    · cases h
      exact .inl rfl

theorem isCell_of_codeShelf {files : Files} {path : Option Path} {shelf : Shelf}
    {events : List Event} (h : codeShelf files path = .ok (shelf, events)) (key : Text) :
    Text.IsCell (shelf.content.lookup key) := by
  obtain rfl | ⟨path, rfl, -⟩ := codeShelf_cases h
  · exact .nil
  · exact Shelf.isCell_content_closed path files key

end Session

namespace Program

variable {tools : Tools} {files : Files} {a : Arguments} {s s₀ : Session} {events : List Event}

/-! ### The session of a run -/

/-- A session at the start has the levels as its options, the conversion of the tools, and a
dictionary of codes that says what fits into cells. -/
theorem start_eq_ok (h : start tools files a = .ok (s₀, events)) :
    s₀.options = OptionGroup.verbosity.ensureInitialized.1 ∧
      s₀.annotator.toTone = tools.toTone ∧ ∀ key, Text.IsCell (s₀.code.content.lookup key) := by
  obtain ⟨⟨path, schema⟩, -, h⟩ := except_bind_eq_ok_iff.1 h
  obtain ⟨built, hbuilt, h⟩ := except_bind_eq_ok_iff.1 h
  cases h
  obtain ⟨-, _, _, _, _, _, -, -, hcode, rfl⟩ := Session.build_eq_ok hbuilt
  exact ⟨rfl, rfl, Session.isCell_of_codeShelf hcode⟩

section Levels

variable {place : Nat}

/-- Setting flags leaves those alone that are not among them. -/
theorem isOn_foldl_set {places : List (String × Nat)} {name : String}
    (h : name ∉ places.map Prod.fst) (g : OptionGroup) :
    (places.foldl (fun g (name, i) => g.set name (i == place)) g).isOn name = g.isOn name := by
  induction places generalizing g with
  | nil => rfl
  | cons first places ih =>
    rw [List.map_cons, List.mem_cons, not_or] at h
    rw [List.foldl_cons, ih h.2, OptionGroup.isOn_set, if_neg (Ne.symm h.1)]

/-- Setting the flags at their places turns on the one at the chosen place only. -/
theorem isOn_foldl_set_of_mem {places : List (String × Nat)} {name : String} {i : Nat}
    (hnodup : (places.map Prod.fst).Nodup) (h : (name, i) ∈ places) (g : OptionGroup) :
    (places.foldl (fun g (name, i) => g.set name (i == place)) g).isOn name = (i == place) := by
  induction places generalizing g with
  | nil => exact absurd h List.not_mem_nil
  | cons first places ih =>
    rw [List.map_cons, List.nodup_cons] at hnodup
    rw [List.foldl_cons]
    rcases List.mem_cons.1 h with rfl | h
    · rw [isOn_foldl_set hnodup.1, OptionGroup.isOn_set, if_pos rfl]
    · exact ih hnodup.2 h _

theorem names_selectPlace (g : OptionGroup) (place : Nat) :
    (selectPlace g place).names = g.names := by
  unfold selectPlace
  generalize g.names.zipIdx 1 = places
  induction places generalizing g with
  | nil => rfl
  | cons first places ih => rw [List.foldl_cons, ih, OptionGroup.names_set]

/-- Choosing a place turns on the flag there and no other. -/
theorem isOn_selectPlace {g : OptionGroup} (hnodup : g.names.Nodup) {name : String} {i : Nat}
    (h : (name, i) ∈ g.names.zipIdx 1) : (selectPlace g place).isOn name = (i == place) :=
  isOn_foldl_set_of_mem (by rwa [List.zipIdx_map_fst]) h g

/-- Choosing a level leaves the dictionaries alone. -/
theorem hasCells_of_selectLevel (h : selectLevel a s₀ = .ok s) (hcells : s₀.HasCells) :
    s.HasCells := by
  unfold selectLevel at h
  split at h <;> cases h <;> exact ⟨hcells.code, hcells.toTone⟩

/-- The options are the levels, and the one that the arguments choose is the only one that is on. -/
theorem options_of_selectLevel (hoptions : s₀.options = OptionGroup.verbosity.ensureInitialized.1)
    (h : selectLevel a s₀ = .ok s) :
    s.options.names = OptionGroup.levelNames ∧
      ∀ place, a.level = .value place → ∀ name i, (name, i) ∈ OptionGroup.levelNames.zipIdx 1 →
        s.options.isOn name = (i == place) := by
  have hnames : s₀.options.names = OptionGroup.levelNames := by
    rw [hoptions]
    decide
  unfold selectLevel at h
  split at h
  · next habsent =>
    cases h
    exact ⟨hnames, fun place hplace => absurd (habsent.symm.trans hplace) nofun⟩
  · cases h
  · next chosen hchosen =>
    cases h
    refine ⟨(names_selectPlace _ _).trans hnames, fun place hplace name i hname => ?_⟩
    obtain rfl : chosen = place := Choice.value.inj (hchosen.symm.trans hplace)
    rw [← hnames] at hname
    exact isOn_selectPlace (hnames ▸ by decide) hname

end Levels

/-! ### Candidates -/

variable {t : Text} {found : List Candidate}

/-- The tag of the candidates. -/
def tagOf (a : Arguments) : Text :=
  match a.tag with
  | .value tag => tag
  | _ => standardTag

/-- The lines of the texts are those of a round over their candidates. -/
theorem annotated_eq_ok (h : (annotated s a).result = .ok found) :
    ∃ shown, (s.annotateAll (a.texts.map (candidate (tagOf a)))).result = .ok shown ∧
      found.flatMap candidateLine = shown.flatMap candidateLine := by
  unfold annotated at h
  unfold tagOf
  cases htag : a.tag with
  | value tag =>
    rw [htag] at h
    exact ⟨found, h, rfl⟩
  | absent =>
    rw [htag] at h
    exact ⟨found, h, rfl⟩
  | nothing =>
    -- Without a tag, only a run with annotations off or without texts comes to an end.
    rw [htag] at h
    dsimp only at h ⊢
    split_ifs at h with hidle
    cases h
    refine ⟨a.texts.map (candidate standardTag), ?_, by simp only [List.flatMap_map]; rfl⟩
    unfold Session.annotateAll
    split_ifs with hoff
    · rfl
    · simp only [hoff, Bool.false_or, List.isEmpty_iff] at hidle
      rw [hidle]
      rfl

/-! ### Runs -/

/-- A run that comes to its end prints the output of its session. -/
theorem run_eq_finished {arguments : List Text} {output log : Text}
    (h : run tools files arguments = .finished output log) :
    ∃ a s₀ events s, Arguments.parse arguments = .ok a ∧ start tools files a = .ok (s₀, events) ∧
      selectLevel a s₀ = .ok s ∧ (Program.output s a).result = .ok output := by
  unfold run at h
  split at h
  · cases h
  · next a hparse =>
    split at h
    · unfold startFailure at h
      split_ifs at h
    · next s₀ events hstart =>
      split at h
      · cases h
      · next s hselect =>
        dsimp only at h
        split at h
        · cases h
        · next text hresult =>
          cases h
          exact ⟨a, s₀, events, s, hparse, hstart, hselect, hresult⟩

/-- Without a report, the output is the lines of a round over the texts. -/
theorem output_eq_ok {output : Text} (hcheck : a.check = false)
    (h : (Program.output s a).result = .ok output) :
    ∃ shown, (s.annotateAll (a.texts.map (candidate (tagOf a)))).result = .ok shown ∧
      output = shown.flatMap candidateLine := by
  unfold Program.output at h
  rw [hcheck] at h
  obtain ⟨head, hhead, h⟩ := Session.Reply.andThen_eq_ok_iff.1 h
  cases hhead
  obtain ⟨found, hfound, h⟩ := Session.Reply.andThen_eq_ok_iff.1 h
  cases h
  obtain ⟨shown, hshown, hlines⟩ := annotated_eq_ok hfound
  exact ⟨shown, hshown, hlines⟩

/-- What the text of an argument comes to: its candidate as a round of its own annotates it. The
comment is the annotation of the text, unless annotations are off, and fits into a cell. -/
structure Shown (s : Session) (tag t : Text) (c : Candidate) : Prop where
  alone : (s.annotateAll [candidate tag t]).result = .ok [c]
  text_eq : c.text = t
  comment_eq : c.comment =
    if s.options.isOff then [] else s.noteFor (Candidate.Kind.ofTag (String.ofList tag)) t
  isCell : Text.IsCell c.comment

/-- A candidate that comes out of a round of its own is shown in a cell. -/
theorem shown_of_annotateAll (hcells : s.HasCells) {tag : Text} {c : Candidate}
    (h : (s.annotateAll [candidate tag t]).result = .ok [c]) : Shown s tag t c := by
  obtain ⟨htext, hcomment⟩ := Session.annotateAll_singleton rfl h
  refine ⟨h, htext, hcomment, ?_⟩
  rw [hcomment]
  split_ifs
  · exact .nil
  · exact hcells.isCell_noteFor _ t

/-- **What a run prints.** Let the conversion of syllables bring no blanks, and let the texts of the
arguments have no tabs and no line feeds. A run that comes to its end without a report prints one
line for each of them, in order: the text, a tab and its comment. The comment is the one that a
round over this text alone gives it, in the session of the arguments with the chosen level as the
only one that is on; and it has no tabs and no line feeds. So the lines of the output are these, and
the texts are what stands before the first tab of each. -/
theorem run_finished {arguments : List Text} {output log : Text}
    (htone : ∀ syllable, Display.isNumbered syllable = true →
      ∀ c ∈ tools.toTone syllable, isBlank c = false)
    (hparse : Arguments.parse arguments = .ok a) (hcheck : a.check = false)
    (htexts : ∀ t ∈ a.texts, Text.IsCell t)
    (hrun : run tools files arguments = .finished output log) :
    ∃ s₀ events s shown, start tools files a = .ok (s₀, events) ∧ selectLevel a s₀ = .ok s ∧
      s.options.names = OptionGroup.levelNames ∧
      (∀ place, a.level = .value place → ∀ name i, (name, i) ∈ OptionGroup.levelNames.zipIdx 1 →
        s.options.isOn name = (i == place)) ∧
      List.Forall₂ (Shown s (tagOf a)) a.texts shown ∧
      output = shown.flatMap (fun c => c.text ++ '\t' :: c.comment ++ ['\n']) ∧
      output.lines = shown.map (fun c => c.text ++ '\t' :: c.comment) ∧
      output.lines.map (·.takeWhile (· ≠ '\t')) = a.texts := by
  obtain ⟨a', s₀, events, s, hparse', hstart, hselect, hresult⟩ := run_eq_finished hrun
  obtain rfl : a = a' := Except.ok.inj (hparse.symm.trans hparse')
  obtain ⟨hoptions, htoTone, hcode⟩ := start_eq_ok hstart
  obtain ⟨shown, hshown, houtput⟩ := output_eq_ok hcheck hresult
  have hcells : s.HasCells := hasCells_of_selectLevel hselect ⟨hcode, htoTone ▸ htone⟩
  have hall : List.Forall₂ (Shown s (tagOf a)) a.texts shown :=
    (List.forall₂_map_left_iff.1 (Session.annotateAll_alone hshown)).imp fun _ _ =>
      shown_of_annotateAll hcells
  have houtput : output =
      (shown.map fun c => c.text ++ '\t' :: c.comment).flatMap (· ++ ['\n']) := by
    rw [houtput, List.flatMap_map]
    refine List.flatMap_congr fun c _ => ?_
    rw [candidateLine, outputLine, List.append_assoc c.text]
    rfl
  have htext : shown.map (·.text) = a.texts := by
    rw [← List.forall₂_eq_eq_eq, List.forall₂_map_left_iff]
    exact hall.flip.imp fun _ _ h => h.text_eq
  have hcomments : ∀ c ∈ shown, Text.IsCell c.comment :=
    ((List.forall₂_and_left _ _).1 (hall.flip.imp fun _ _ h => ⟨h.isCell, h.text_eq⟩)).1
  have hcell (c : Candidate) (hc : c ∈ shown) : Text.IsCell c.text :=
    htexts c.text (htext ▸ List.mem_map_of_mem hc)
  have hlines : output.lines = shown.map fun c => c.text ++ '\t' :: c.comment := by
    rw [houtput]
    refine Text.lines_flatMap fun line hline => ?_
    obtain ⟨c, hc, rfl⟩ := List.mem_map.1 hline
    simp only [List.mem_append, List.mem_cons, not_or]
    exact ⟨(hcell c hc).noBreak, by decide, (hcomments c hc).noBreak⟩
  obtain ⟨hnames, hlevel⟩ := options_of_selectLevel hoptions hselect
  refine ⟨s₀, events, s, shown, hstart, hselect, hnames, hlevel, hall, ?_, hlines, ?_⟩
  · rw [houtput, List.flatMap_map]
  · rw [hlines, ← htext, List.map_map]
    refine List.map_congr_left fun c hc => ?_
    exact Text.takeWhile_ne_append_cons (hcell c hc).noTab _

/-- A schema without rules, and a dictionary with the record of one character. -/
def oneRecordFiles : Files := fun path =>
  if path = .parse ['s'] then
    .file "schema_name: \x7bspelling: d\x7d\nencoder: \x7brules: []\x7d\n".toUTF8
  else if path = .parse "d.dict.yaml".toList then .file "中\t[口\u3000丨,kd_k]\n".toUTF8
  else .missing

/-- A text with a record of wide blanks and underscores, and one without a record. -/
theorem run_finished_twoTexts :
    let arguments := ["--schema".toList, ['s'], "--level".toList, "lv2".toList, ['中'], ['国']]
    ∃ output log, run .standard oneRecordFiles arguments = .finished output log ∧
      output.lines.map (·.takeWhile (· ≠ '\t')) = [['中'], ['国']] := by
  intro arguments
  have hparse : Arguments.parse arguments =
      .ok { texts := [['中'], ['国']], schema := .value (.parse ['s']), level := .value 3 } := by
    decide +kernel
  have hfinished : (match run .standard oneRecordFiles arguments with
      | .finished _ _ => true
      | _ => false) = true := by
    decide +kernel
  cases hrun : run .standard oneRecordFiles arguments with
  | finished output log =>
    obtain ⟨_, _, _, _, _, _, _, _, _, _, _, htexts⟩ :=
      run_finished (fun _ h c hc => (Tone.allSolid_convert h c hc).noBlank) hparse rfl (by decide)
        hrun
    exact ⟨output, log, rfl, htexts⟩
  | refused | stopped | failed =>
    rw [hrun] at hfinished
    cases hfinished

end Program

end GlyphGloss
