import GlyphGloss.Proofs.Rules.Table
import Mathlib.Data.List.Forall2

/-!
# Which entries give settings

Rule entries are checked before they are converted, and the check admits exactly the entries that
the conversion understands: mappings with a formula and with one of an exact length and a range,
both of positive whole numbers, where a range is any sequence of two of them. From such entries come
as many settings in the same order, all of whose lengths are positive. Of all other entries each has
a defect, and the defects of all entries are reported together, unless a number that should be shown
in the report has too many digits to be written.

## Main definitions

* `RuleSetting.Gives`: an entry beside the setting that says the same.
* `RuleSetting.report`: the report on the defects of entries.

## Main results

* `RuleSetting.entryFaults_eq_nil_iff`, `RuleSetting.ofMapping_of_gives`: the entries that the check
  admits, and that they are converted.
* `RuleSetting.defects_eq`: the defects of entries in order.
* `RuleTable.exists_covers_of_build`: a table has no lengths but those of its settings.
* `RuleSetting.ofEntries_checked`: what becomes of a list of entries.
-/

namespace GlyphGloss

/-- A table has no lengths but those that its settings cover. -/
theorem RuleTable.exists_covers_of_build {settings : List RuleSetting} {built : Built} {n : Int}
    (h : build settings = .ok built) (hn : built.table.covers n = true) :
    ∃ s ∈ settings, s.Covers n := by
  have htable : built.table = ofAssignment (assign settings) := by
    simp only [build, bind, Except.bind] at h
    split at h
    · cases h
    · split at h <;> cases h
      rfl
  rw [covers_eq, htable, forLength_ofAssignment, get?_assign] at hn
  refine isSome_decisive?.1 ?_
  cases hs : decisive? settings n with
  | none =>
    rw [hs] at hn
    cases hn
  | some s => rfl

namespace RuleSetting

/-- An entry beside the setting that says the same: a mapping with a formula and with one of an
exact length and a range, which is a list, a tuple or bytes. -/
structure Gives (entry : Value) (s : RuleSetting) : Prop where
  exists_mapping : ∃ entries, entry = .mapping entries
  /-- The formula is a text, and not empty. -/
  exists_formula : ∃ t, t ≠ [] ∧ entry.get? formulaKey = some (.text t) ∧ s.formula = .text t
  /-- Exactly one of the two length keys has a value, which is a whole number or a sequence of
  two. -/
  lengths_eq :
    (entry.present? equalKey = some (.int s.least) ∧ entry.present? rangeKey = none ∧
      s.greatest = s.least) ∨
    (entry.present? equalKey = none ∧ ∃ range, entry.present? rangeKey = some range ∧
      range.sequence? = some [.int s.least, .int s.greatest])
  one_le_least : 1 ≤ s.least
  least_le_greatest : s.least ≤ s.greatest

/-- The number of faults of entries. -/
def faultCount (entries : List Value) : Nat :=
  (entries.flatMap entryFaults).length

/-- The report on the faults of entries: their number, the first of them in the order of the
entries, and how many more there are. -/
def report (entries : List Value) : Text :=
  let described := (entries.zipIdx 1).flatMap fun (entry, place) =>
    (entryFaults entry).map fun fault =>
      "- Rule ".toList ++ Text.ofNat place ++ ": ".toList ++ fault.message
  "Rule settings validation failed with ".toList ++ Text.ofNat (faultCount entries) ++
    " errors:\n".toList ++ Text.join ['\n'] (described.take 25) ++
    if 25 < faultCount entries then
      "\n- ... and ".toList ++ Text.ofNat (faultCount entries - 25) ++ " more".toList
    else []

variable {entries : List Value} {entry v : Value} {s : RuleSetting} {settings : List RuleSetting}

/-! ### Single entries -/

theorem formulaFaults_eq_nil_iff {found : Option Value} :
    formulaFaults found = [] ↔ ∃ t, t ≠ [] ∧ found = some (.text t) := by
  unfold formulaFaults
  split
  · next c t => simp
  · next hnone =>
    simp only [List.cons_ne_nil, false_iff, not_exists, not_and]
    rintro t hne rfl
    obtain ⟨c, t, rfl⟩ := List.exists_cons_of_ne_nil hne
    exact hnone c t rfl

theorem lengthFaults_eq_nil_iff : lengthFaults v = [] ↔ ∃ n : Int, v = .int n ∧ 0 < n := by
  unfold lengthFaults
  split
  · next n => simp
  · next hnone =>
    simp only [List.cons_ne_nil, false_iff, not_exists, not_and]
    exact fun n hn => absurd hn (hnone n)

theorem rangeFaults_eq_nil_iff :
    rangeFaults v = [] ↔ ∃ low high : Int, v.sequence? = some [.int low, .int high] ∧ 0 < low ∧
      low ≤ high := by
  unfold rangeFaults
  split
  · next low high hitems =>
    rw [hitems]
    simp only [Option.some.injEq, List.cons.injEq, Value.scalar.injEq, Scalar.int.injEq, and_true]
    constructor
    · intro h
      split_ifs at h with hpositive hinverted
      exact ⟨low, high, ⟨rfl, rfl⟩, hpositive.1, by omega⟩
    · rintro ⟨low, high, ⟨rfl, rfl⟩, hlow, hhigh⟩
      rw [if_pos (by omega), if_neg (by omega)]
  · next hnone =>
    simp only [List.cons_ne_nil, false_iff, not_exists, not_and]
    exact fun low high hitems => absurd hitems (hnone low high)

/-- An entry has no faults exactly if it gives a setting. -/
theorem entryFaults_eq_nil_iff : entryFaults entry = [] ↔ ∃ s, Gives entry s := by
  constructor
  · intro h
    unfold entryFaults at h
    split at h
    · next fields =>
      obtain ⟨hformula, hlengths⟩ := List.append_eq_nil_iff.1 h
      obtain ⟨t, hne, ht⟩ := formulaFaults_eq_nil_iff.1 hformula
      split at hlengths
      · next v hequal hrange =>
        obtain ⟨n, rfl, hn⟩ := lengthFaults_eq_nil_iff.1 hlengths
        exact ⟨⟨.text t, n, n⟩, ⟨fields, rfl⟩, ⟨t, hne, ht, rfl⟩, .inl ⟨hequal, hrange, rfl⟩, hn,
          Int.le_refl n⟩
      · next v hequal hrange =>
        obtain ⟨low, high, hitems, hlow, hhigh⟩ := rangeFaults_eq_nil_iff.1 hlengths
        exact ⟨⟨.text t, low, high⟩, ⟨fields, rfl⟩, ⟨t, hne, ht, rfl⟩,
          .inr ⟨hequal, v, hrange, hitems⟩, hlow, hhigh⟩
      · cases hlengths
    · cases h
  · rintro ⟨s, ⟨fields, rfl⟩, ⟨t, hne, hformula, -⟩, hlengths, hleast, hgreatest⟩
    rw [entryFaults, formulaFaults_eq_nil_iff.2 ⟨t, hne, hformula⟩, List.nil_append]
    obtain ⟨hequal, hrange, -⟩ | ⟨hequal, range, hrange, hitems⟩ := hlengths
    · rw [hequal, hrange]
      exact lengthFaults_eq_nil_iff.2 ⟨_, rfl, hleast⟩
    · rw [hequal, hrange]
      exact rangeFaults_eq_nil_iff.2 ⟨_, _, hitems, hleast, hgreatest⟩

theorem get?_of_present? {key : Text} (h : entry.present? key = some v) :
    entry.get? key = some v := by
  unfold Value.present? at h
  split at h
  · cases h
  · exact h

/-- An entry without faults is converted. -/
theorem ofMapping_of_gives (h : Gives entry s) : ofMapping entry = .ok s := by
  obtain ⟨-, ⟨t, -, hformula, hs⟩, hlengths, -, -⟩ := h
  obtain ⟨formula, least, greatest⟩ := s
  have hrequired : required entry formulaKey = .ok (.text t) := by
    rw [required, hformula]
  obtain ⟨hequal, -, hgreatest⟩ | ⟨hequal, range, hrange, hitems⟩ := hlengths
  · rw [ofMapping, hequal]
    simp only [hrequired]
    cases hs
    cases hgreatest
    rfl
  · have hrequiredRange : required entry rangeKey = .ok range := by
      rw [required, get?_of_present? hrange]
    have hpair : pair range = .ok (.int least, .int greatest) := by
      rw [pair, Value.elements?_of_sequence? hitems]
    rw [ofMapping, hequal]
    simp only [hrequired, hrequiredRange, bind, Except.bind, hpair]
    cases hs
    rfl

/-! ### Lists of entries -/

/-- The defects of entries: the faults of each with its place, in order. -/
theorem defects_eq (entries : List Value) :
    defects entries =
      (entries.zipIdx 1).flatMap fun (entry, place) => (entryFaults entry).map (.mk place) := by
  have hfrom (place : Nat) : defectsFrom place entries =
      (entries.zipIdx place).flatMap fun (entry, place) =>
        (entryFaults entry).map (.mk place) := by
    induction entries generalizing place with
    | nil => rfl
    | cons entry entries ih =>
      rw [defectsFrom, ih, List.zipIdx_cons, List.flatMap_cons]
  exact hfrom 1

/-- The faults of the defects of entries are the faults of the entries. -/
theorem map_fault_defects (entries : List Value) :
    (defects entries).map Defect.fault = entries.flatMap entryFaults := by
  have hfault (place : Nat) (faults : List Fault) :
      (faults.map (Defect.mk place)).map Defect.fault = faults := by
    rw [List.map_map]
    exact List.map_id _
  rw [defects_eq, List.map_flatMap]
  simp only [hfault]
  calc (entries.zipIdx 1).flatMap (fun item => entryFaults item.1)
      = ((entries.zipIdx 1).map Prod.fst).flatMap entryFaults := by rw [List.flatMap_map]
    _ = entries.flatMap entryFaults := by rw [List.zipIdx_map_fst]

theorem length_defects (entries : List Value) : (defects entries).length = faultCount entries := by
  rw [faultCount, ← map_fault_defects, List.length_map]

/-- What holds of the faults of all defects holds of the faults of all entries. -/
theorem forall_mem_defects_iff (entries : List Value) (p : Fault → Prop) :
    (∀ d ∈ defects entries, p d.fault) ↔
      ∀ entry ∈ entries, ∀ fault ∈ entryFaults entry, p fault := by
  rw [← List.forall_mem_flatMap, ← map_fault_defects, List.forall_mem_map]

/-- Entries have no defects exactly if each of them gives a setting. -/
theorem defects_eq_nil_iff : defects entries = [] ↔ ∀ entry ∈ entries, ∃ s, Gives entry s := by
  simp only [← entryFaults_eq_nil_iff, List.eq_nil_iff_forall_not_mem]
  exact forall_mem_defects_iff entries fun _ => False

theorem convertAll_of_gives (h : List.Forall₂ Gives entries settings) :
    convertAll entries = .ok settings := by
  induction h with
  | nil => rfl
  | cons hfirst _ ih =>
    rw [convertAll, ofMapping_of_gives hfirst]
    dsimp only
    rw [ih]
    rfl

/-- Entries that each give a setting give a list of them. -/
theorem exists_forall₂_gives_iff :
    (∃ settings, List.Forall₂ Gives entries settings) ↔ ∀ entry ∈ entries, ∃ s, Gives entry s := by
  induction entries with
  | nil => simp
  | cons entry entries ih =>
    rw [List.forall_mem_cons, ← ih]
    simp only [List.forall₂_cons_left_iff]
    constructor
    · rintro ⟨_, s, settings, hs, hsettings, -⟩
      exact ⟨⟨s, hs⟩, settings, hsettings⟩
    · rintro ⟨⟨s, hs⟩, settings, hsettings⟩
      exact ⟨_, s, settings, hs, hsettings, rfl⟩

/-- A list of entries is converted, unless it has defects. -/
theorem ofEntries_list (entries : List Value) :
    ofEntries (.list entries) =
      if defects entries = [] then convertAll entries
      else .error (if (defects entries).all (·.fault.isWritable) then .defects (defects entries)
        else .unwritable) := by
  have helements : Value.elements? (.list entries) = some entries := rfl
  rw [ofEntries, helements]
  dsimp only
  cases defects entries <;> rfl

/-- The outcome of entries with defects. -/
theorem ofEntries_of_defects (h : defects entries ≠ []) :
    ofEntries (.list entries) =
      .error (if (defects entries).all (·.fault.isWritable) then .defects (defects entries)
        else .unwritable) := by
  rw [ofEntries_list, if_neg h]

/-- Settings come from entries that all give one. -/
theorem ofEntries_eq_ok_iff :
    ofEntries (.list entries) = .ok settings ↔ List.Forall₂ Gives entries settings := by
  have hconvert (h : defects entries = []) : ofEntries (.list entries) = convertAll entries := by
    rw [ofEntries_list, if_pos h]
  constructor
  · intro h
    by_cases hnone : defects entries = []
    · obtain ⟨found, hfound⟩ := exists_forall₂_gives_iff.2 (defects_eq_nil_iff.1 hnone)
      rw [hconvert hnone, convertAll_of_gives hfound] at h
      cases h
      exact hfound
    · rw [ofEntries_of_defects hnone] at h
      cases h
  · intro h
    rw [hconvert (defects_eq_nil_iff.2 (exists_forall₂_gives_iff.1 ⟨_, h⟩)), convertAll_of_gives h]

/-- The message on the defects of entries is the report on their faults. -/
theorem message_defects (entries : List Value) :
    (EntriesError.defects (defects entries)).message = report entries := by
  rw [EntriesError.message, ErrorReport.text, List.length_map, length_defects, List.map_take,
    List.map_map, defects_eq, List.map_flatMap]
  simp only [List.map_map]
  rfl

/-- **The check admits what the conversion understands.** Settings come from a list of entries
exactly if each entry gives one: they are these in order, with the formulas as they are and with
ranges of positive lengths. A range can be written as a list, but as a tuple or as bytes too. Each
entry that gives a setting is converted, and no table of the settings has a length below one. An
entry gives no setting exactly if it has a fault. Where there are no settings, the failure is a
wrong value. It reports the faults of all entries, unless one of them shows a number with too many
digits to be written. -/
theorem ofEntries_checked (entries : List Value) :
    (∀ settings, ofEntries (.list entries) = .ok settings ↔ List.Forall₂ Gives entries settings) ∧
    ((∃ settings, ofEntries (.list entries) = .ok settings) ↔
      ∀ entry ∈ entries, ∃ s, Gives entry s) ∧
    (∀ entry s, Gives entry s → ofMapping entry = .ok s) ∧
    (∀ settings built, ofEntries (.list entries) = .ok settings →
      RuleTable.build settings = .ok built → ∀ n, built.table.covers n = true → 1 ≤ n) ∧
    (∀ entry, (¬∃ s, Gives entry s) ↔ 1 ≤ (entryFaults entry).length) ∧
    ∀ cause, ofEntries (.list entries) = .error cause →
      (Failure.entries cause).kind = .wrongValue ∧
      ((∀ entry ∈ entries, ∀ fault ∈ entryFaults entry, fault.isWritable = true) →
        cause.message = report entries) ∧
      ((∃ entry ∈ entries, ∃ fault ∈ entryFaults entry, fault.isWritable = false) →
        cause.message = Numeral.limitMessage none) := by
  refine ⟨fun settings => ofEntries_eq_ok_iff, ?_, fun entry s => ofMapping_of_gives, ?_, ?_, ?_⟩
  · simp only [ofEntries_eq_ok_iff, exists_forall₂_gives_iff]
  · intro settings built hsettings hbuilt n hn
    obtain ⟨s, hs, hcovers⟩ := RuleTable.exists_covers_of_build hbuilt hn
    have hgives := (ofEntries_eq_ok_iff.1 hsettings).flip
    have hpositive : ∀ s ∈ settings, 1 ≤ s.least :=
      ((List.forall₂_and_left _ _).1 (hgives.imp fun s entry (h : Gives entry s) =>
        And.intro h.one_le_least h)).1
    exact Int.le_trans (hpositive s hs) hcovers.1
  · intro entry
    rw [← entryFaults_eq_nil_iff, ← List.length_eq_zero_iff, Nat.one_le_iff_ne_zero]
  · intro cause hcause
    have hdefects : defects entries ≠ [] := fun hnone => by
      obtain ⟨settings, hsettings⟩ := exists_forall₂_gives_iff.2 (defects_eq_nil_iff.1 hnone)
      rw [ofEntries_eq_ok_iff.2 hsettings] at hcause
      cases hcause
    rw [ofEntries_of_defects hdefects] at hcause
    have hwritable := forall_mem_defects_iff entries (·.isWritable = true)
    split_ifs at hcause with hall
    · cases hcause
      refine ⟨rfl, fun _ => message_defects entries, fun ⟨entry, hentry, fault, hfault, hnot⟩ => ?_⟩
      have hfault := hwritable.1 (List.all_eq_true.1 hall) entry hentry fault hfault
      exact absurd (hfault.symm.trans hnot) nofun
    · cases hcause
      exact ⟨rfl, fun hfaults => absurd (List.all_eq_true.2 (hwritable.2 hfaults)) hall,
        fun _ => rfl⟩

/-- Two faults in each of thirteen entries without anything, and one more. -/
theorem ofEntries_checked_empty :
    let entries := List.replicate 13 (.mapping []) ++ [.list []]
    ∃ cause, ofEntries (.list entries) = .error cause ∧
      "Rule settings validation failed with 27 errors:\n- Rule 1: missing formula\n".toList <+:
        cause.message ∧
      "\n- Rule 13: missing formula\n- ... and 2 more".toList <:+ cause.message := by
  intro entries
  obtain ⟨-, hall, -, -, hfaulty, hreported⟩ := ofEntries_checked entries
  cases hcause : ofEntries (.list entries) with
  | ok settings =>
    have hlast := hall.1 ⟨settings, hcause⟩ (.list []) (by simp [entries])
    exact absurd hlast ((hfaulty _).2 (by decide))
  | error cause =>
    obtain ⟨-, hmessage, -⟩ := hreported cause hcause
    refine ⟨cause, rfl, ?_⟩
    rw [hmessage (by decide)]
    decide +kernel

/-- Two bytes are a range as a list of two numbers is. -/
example : ofEntries (.list [.mapping [(.text rangeKey, .bytes [1, 2]),
    (.text formulaKey, .text "Aa".toList)]]) = .ok [⟨.text "Aa".toList, 1, 2⟩] := by
  rfl

/-- A length that is not positive and has too many digits cannot be shown in a report. -/
theorem ofEntries_equalEntry {n : Int} (hn : n ≤ 0) (hlong : Numeral.isWritable n = false) :
    ofEntries (.list [equalEntry n "Aa"]) = .error .unwritable := by
  have hlength : lengthFaults (.int n) = [.badLength (.int n)] := if_neg (by omega)
  have hfaults : defects [equalEntry n "Aa"] = [⟨1, .badLength (.int n)⟩] :=
    congrArg (List.map (Defect.mk 1) · ++ []) hlength
  have hnot : Fault.isWritable (.badLength (.int n)) = false := hlong
  rw [ofEntries_of_defects (by rw [hfaults]; exact List.cons_ne_nil _ _), hfaults,
    List.all_cons, hnot]
  rfl

/-- Of an entry with a negative length of 4301 digits the report is not what is said. -/
theorem not_report_longLength :
    let entries := [equalEntry (-(Nat.pow 10 Numeral.digitLimit : Int)) "Aa"]
    ∃ cause, ofEntries (.list entries) = .error cause ∧ cause.message ≠ report entries := by
  intro entries
  have hnegative := Int.neg_nonpos_of_nonneg (Int.natCast_nonneg (Nat.pow 10 Numeral.digitLimit))
  refine ⟨.unwritable, ofEntries_equalEntry hnegative ?_, fun h => ?_⟩
  · rw [Numeral.isWritable, Int.natAbs_neg, Int.natAbs_natCast]
    exact decide_eq_false (Nat.lt_irrefl _)
  · exact absurd (congrArg List.head? h) (by decide)

end RuleSetting

end GlyphGloss
