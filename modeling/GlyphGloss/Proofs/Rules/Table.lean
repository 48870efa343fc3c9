import GlyphGloss.Failure
import GlyphGloss.Proofs.OrderedMap
import GlyphGloss.Rules.Table
import Mathlib.Data.List.Basic
import Mathlib.Tactic.Common

/-!
# Which setting decides on a length

Rule settings may overlap, be empty or be inverted. Of the settings that cover a length the last one
decides, and the others leave no trace at it: a table is built exactly when every covered length is
decided by a formula that can be read, and it then gives each length the formula of the setting that
decides on it. The formulas that cannot be read are reported together, each once, in the order in
which the lengths that they were decided for were first covered by any setting.

## Main definitions

* `RuleSetting.Covers`: the lengths of a setting.
* `RuleTable.decisive?`: the last setting that covers a length.
* `RuleTable.coveredLengths`: the covered lengths in the order in which they are first covered.
* `RuleTable.decidedTexts`, `RuleTable.invalidTexts`: the formulas that lengths have in the end, and
  those of them that cannot be read.
* `RuleTable.Follows`: a table that gives each length what the settings say.

## Main results

* `RuleTable.get?_assign`, `RuleTable.keys_assign`: what an assignment holds, and in which order.
* `RuleTable.forLength_ofAssignment`: the formula that a table of an assignment gives a length.
* `RuleTable.build_eq`: the outcome of building a table.
* `RuleTable.build_settings`: when a table is built, what it holds, and what is reported otherwise.
-/

namespace GlyphGloss

/-- Whether a setting covers a length. -/
def RuleSetting.Covers (s : RuleSetting) (n : Int) : Prop :=
  s.least ≤ n ∧ n ≤ s.greatest

instance (s : RuleSetting) (n : Int) : Decidable (s.Covers n) :=
  inferInstanceAs (Decidable (_ ∧ _))

/-- The formula of a setting, if it is a text. -/
def RuleSetting.text? (s : RuleSetting) : Option Text :=
  match s.formula with
  | .text t => some t
  | _ => none

namespace RuleTable

/-- The last setting that covers a length. -/
def decisive? (settings : List RuleSetting) (n : Int) : Option RuleSetting :=
  settings.reverse.find? (·.Covers n)

/-- The lengths that are covered, in the order in which they are first covered. -/
def coveredLengths (settings : List RuleSetting) : List Int :=
  (settings.flatMap (·.lengths)).eraseDups

/-- The formulas that the covered lengths have in the end, length by length. -/
def decidedTexts (settings : List RuleSetting) : List Text :=
  (coveredLengths settings).filterMap fun n => (decisive? settings n).bind (·.text?)

/-- The distinct formulas that some length has in the end but that cannot be read. -/
def invalidTexts (settings : List RuleSetting) : List Text :=
  (decidedTexts settings).eraseDups.filter fun t => (Formula.parse? t).isNone

/-- A table that gives each length the formula of the setting that decides on it. -/
structure Follows (table : RuleTable) (settings : List RuleSetting) : Prop where
  /-- The setting that decides on a length gives it its formula. -/
  forLength_eq : ∀ n,
    table.forLength n = (decisive? settings n).bind fun s => Formula.ofValue? s.formula
  /-- The lengths of the table are those that some setting covers. -/
  covers_iff : ∀ n, table.covers n = true ↔ ∃ s ∈ settings, s.Covers n
  /-- The table has as many lengths as are covered. -/
  size_eq : table.size = (coveredLengths settings).length
  /-- The lengths are listed in increasing order. -/
  lengths_sorted : (table.toList.map Prod.fst).Pairwise (· < ·)

variable {settings before after : List RuleSetting} {s s' : RuleSetting} {n : Int}

/-! ### The setting that decides -/

theorem decisive?_concat (settings : List RuleSetting) (s : RuleSetting) (n : Int) :
    decisive? (settings ++ [s]) n = if s.Covers n then some s else decisive? settings n := by
  by_cases h : s.Covers n <;> simp [decisive?, h]

theorem mem_of_decisive? (h : decisive? settings n = some s) : s ∈ settings ∧ s.Covers n :=
  ⟨List.mem_reverse.1 (List.mem_of_find?_eq_some h), by simpa using List.find?_some h⟩

/-- Some setting decides on a length exactly when some setting covers it. -/
theorem isSome_decisive? : (decisive? settings n).isSome ↔ ∃ s ∈ settings, s.Covers n := by
  simp [decisive?]

/-- Two neighbours that cover no length in common may change places. -/
theorem decisive?_swap (hdisjoint : ¬(s.Covers n ∧ s'.Covers n)) :
    decisive? (before ++ s' :: s :: after) n = decisive? (before ++ s :: s' :: after) n := by
  have hpair : [s', s].reverse.find? (·.Covers n) = [s, s'].reverse.find? (·.Covers n) := by
    by_cases hs : s.Covers n
    · have hs' : ¬s'.Covers n := fun h => hdisjoint ⟨hs, h⟩
      simp [hs, hs']
    · by_cases hs' : s'.Covers n <;> simp [hs, hs']
  have hsplit (t u : RuleSetting) : before ++ t :: u :: after = before ++ [t, u] ++ after := by
    rw [List.append_assoc]
    rfl
  simp only [decisive?, hsplit, List.reverse_append, List.find?_append, hpair]

/-! ### The assignment -/

/-- In the end a length has the formula of the setting that decides on it. -/
theorem get?_assign (settings : List RuleSetting) (n : Int) :
    (assign settings).get? n = (decisive? settings n).map (·.formula) := by
  induction settings using List.reverseRecOn with
  | nil => exact OrderedMap.get?_empty n
  | append_singleton settings s ih =>
    have hconcat : (assign (settings ++ [s])).get? n =
        if s.Covers n then some s.formula else (assign settings).get? n :=
      get?_assign_concat settings s n
    rw [hconcat, decisive?_concat, ih]
    split_ifs <;> rfl

/-- The lengths of an assignment stand in the order in which they are first covered. -/
theorem keys_assign (settings : List RuleSetting) :
    (assign settings).keys = coveredLengths settings := by
  have hflat : assign settings =
      (settings.flatMap fun s => s.lengths.map fun n => (n, s.formula)).foldl
        (fun m entry => m.insert entry.1 entry.2) ∅ := by
    rw [List.foldl_flatMap]
    simp only [List.foldl_map]
    rfl
  rw [hflat, OrderedMap.keys_foldl_insert, List.map_flatMap, coveredLengths]
  simp only [List.map_map, Function.comp_def, List.map_id']

theorem mem_coveredLengths : n ∈ coveredLengths settings ↔ ∃ s ∈ settings, s.Covers n := by
  simp only [coveredLengths, List.mem_eraseDups, List.mem_flatMap, RuleSetting.mem_lengths_iff,
    RuleSetting.Covers]

/-! ### The table of an assignment -/

/-- Lengths that are given formulas one after the other, where there is one. -/
theorem getElem?_foldl_insert (formula? : Int → Option Formula) (ns : List Int)
    (rules : Std.TreeMap Int Formula) (n : Int) :
    (ns.foldl (fun rules k => (formula? k).elim rules (rules.insert k)) rules)[n]? =
      if n ∈ ns then (formula? n).or rules[n]? else rules[n]? := by
  induction ns generalizing rules with
  | nil => rfl
  | cons k ns ih =>
    have hstep : ((formula? k).elim rules (rules.insert k))[n]? =
        if k = n then (formula? n).or rules[n]? else rules[n]? := by
      cases hk : formula? k with
      | none =>
        split_ifs with hkn
        · rw [← hkn, hk, Option.none_or]
          rfl
        · rfl
      | some f =>
        rw [Option.elim_some, Std.TreeMap.getElem?_insert]
        simp only [Std.LawfulEqOrd.compare_eq_iff_eq]
        split_ifs with hkn
        · rw [← hkn, hk, Option.some_or]
        · rfl
    rw [List.foldl_cons, ih, hstep]
    by_cases hkn : k = n
    · subst hkn
      by_cases hmem : k ∈ ns
      · simp only [hmem, List.mem_cons, or_true, ↓reduceIte]
        cases formula? k <;> rfl
      · simp only [hmem, List.mem_cons, or_false, ↓reduceIte]
    · have hne : ¬n = k := fun h => hkn h.symm
      simp only [hkn, hne, List.mem_cons, false_or, ↓reduceIte]

/-- A length has the formula that its value in the assignment writes. -/
theorem forLength_ofAssignment (assigned : OrderedMap Int Value) (n : Int) :
    (ofAssignment assigned).forLength n = (assigned.get? n).bind Formula.ofValue? := by
  have hfold : (ofAssignment assigned).rules = assigned.keys.foldl
      (fun rules k => ((assigned.get? k).bind Formula.ofValue?).elim rules (rules.insert k)) ∅ := by
    simp only [ofAssignment, OrderedMap.toList, List.foldl_filterMap]
    congr 1
    funext rules k
    cases assigned.get? k <;> rfl
  rw [forLength, hfold, getElem?_foldl_insert]
  by_cases hmem : n ∈ assigned.keys
  · rw [if_pos hmem, Std.TreeMap.getElem?_emptyc, Option.or_none]
  · rw [OrderedMap.mem_keys_iff, Bool.not_eq_true, Option.isSome_eq_false_iff,
      Option.isNone_iff_eq_none] at hmem
    rw [if_neg (by rw [OrderedMap.mem_keys_iff, hmem]; exact Bool.false_ne_true), hmem]
    rfl

theorem covers_eq (table : RuleTable) (n : Int) :
    table.covers n = (table.forLength n).isSome :=
  Std.TreeMap.contains_eq_isSome_getElem?

/-- The lengths of a table are listed in increasing order. -/
theorem lengths_sorted (table : RuleTable) : (table.toList.map Prod.fst).Pairwise (· < ·) := by
  rw [List.pairwise_map]
  refine Std.TreeMap.ordered_keys_toList.imp fun {a b} h => ?_
  exact Std.compare_eq_lt.1 h

/-- A table has as many lengths as there are different ones with a formula. -/
theorem size_eq_length {table : RuleTable} {ns : List Int} (hnodup : ns.Nodup)
    (hmem : ∀ n, n ∈ ns ↔ table.covers n = true) : table.size = ns.length := by
  have hkeys : table.rules.keys.Perm ns := by
    rw [List.perm_ext_iff_of_nodup _ hnodup]
    · intro n
      rw [Std.TreeMap.mem_keys, hmem, covers, Std.TreeMap.contains_iff_mem]
    · exact Std.TreeMap.nodup_keys
  rw [← hkeys.length_eq, Std.TreeMap.length_keys, size]

/-- Two tables that give each length the same formula list the same lengths and formulas. -/
theorem toList_congr {table table' : RuleTable}
    (h : ∀ n, table.forLength n = table'.forLength n) : table.toList = table'.toList :=
  (Std.TreeMap.Equiv.of_forall_constGet?_eq h).toList_eq

/-- The table of settings whose deciding formulas can all be read follows the settings. -/
theorem follows_ofAssignment
    (hread : ∀ n, ∀ s ∈ decisive? settings n, (Formula.ofValue? s.formula).isSome) :
    (ofAssignment (assign settings)).Follows settings := by
  have hlength (n : Int) : (ofAssignment (assign settings)).forLength n =
      (decisive? settings n).bind fun s => Formula.ofValue? s.formula := by
    rw [forLength_ofAssignment, get?_assign, Option.bind_map]
    rfl
  have hcovers (n : Int) : (ofAssignment (assign settings)).covers n = true ↔
      ∃ s ∈ settings, s.Covers n := by
    rw [covers_eq, hlength, ← isSome_decisive?]
    cases hs : decisive? settings n with
    | none => rfl
    | some s => simpa using hread n s hs
  refine ⟨hlength, hcovers, ?_, lengths_sorted _⟩
  refine size_eq_length ?_ fun n => mem_coveredLengths.trans (hcovers n).symm
  rw [← keys_assign]
  exact OrderedMap.keys_nodup _

/-! ### Formulas that are texts -/

theorem invalidMessage_text (t : Text) :
    Formula.invalidMessage (.scalar (.text t)) = "Invalid formula: ".toList ++ t.quoted := by
  have hwritable : Value.isWritable (.scalar (.text t)) = true := rfl
  have hliteral : Value.literal (.scalar (.text t)) = t.quoted := rfl
  rw [Formula.invalidMessage, if_pos hwritable, hliteral]

/-- The report on texts that are no formulas. -/
theorem message_invalid (ts : List Text) :
    (BuildError.invalid (ts.map Scalar.text)).message =
      ErrorReport.text "Rule table construction".toList
        (ts.map fun t => "Invalid formula: ".toList ++ t.quoted) := by
  unfold BuildError.message
  simp only [List.map_map, Function.comp_def, invalidMessage_text]

section Texts

/-- Distinct images are the images of the distinct items, where images are told apart like the
items. -/
theorem eraseDupsBy_map {α β : Type} (f : α → β) {same : β → β → Bool} {same' : α → α → Bool}
    (h : ∀ a b, same (f a) (f b) = same' a b) (xs : List α) :
    (xs.map f).eraseDupsBy same = (xs.eraseDupsBy same').map f := by
  cases xs with
  | nil => rfl
  | cons x xs =>
    rw [List.map_cons, List.eraseDupsBy_cons, List.eraseDupsBy_cons, List.map_cons,
      List.filter_map]
    simp only [Function.comp_def, h]
    rw [eraseDupsBy_map f h]
termination_by xs.length
decreasing_by exact Nat.lt_succ_of_le (List.length_filter_le _ _)

theorem scalars_map_text (ts : List Text) :
    scalars (ts.map Value.text) = .ok (ts.map Scalar.text) := by
  induction ts with
  | nil => rfl
  | cons t ts ih =>
    rw [List.map_cons, scalars, ih]
    rfl

variable (htexts : ∀ s ∈ settings, ∃ t, s.formula = .text t)
include htexts

theorem values_assign : (assign settings).values = (decidedTexts settings).map Value.text := by
  rw [OrderedMap.values, keys_assign, decidedTexts, List.map_filterMap]
  refine List.filterMap_congr fun n _ => ?_
  rw [get?_assign]
  cases hs : decisive? settings n with
  | none => rfl
  | some s =>
    obtain ⟨t, ht⟩ := htexts s (mem_of_decisive? hs).1
    simp [RuleSetting.text?, ht]

theorem mem_decidedTexts {t : Text} :
    t ∈ decidedTexts settings ↔ ∃ n, ∃ s ∈ decisive? settings n, s.formula = .text t := by
  have hvalue : Value.text t ∈ (assign settings).values ↔ t ∈ decidedTexts settings := by
    rw [values_assign htexts]
    simp
  rw [← hvalue, OrderedMap.mem_values_iff]
  simp [get?_assign]

theorem distinctFormulas_assign : distinctFormulas (assign settings) =
    .ok ((decidedTexts settings).eraseDups.map Scalar.text) := by
  rw [distinctFormulas, values_assign htexts, scalars_map_text]
  exact congrArg Except.ok (eraseDupsBy_map Scalar.text (fun _ _ => rfl) _)

/-- The outcome of building a table: the formulas that cannot be read if there are any, else the
table of the assignment. -/
theorem build_eq :
    build settings =
      if invalidTexts settings = [] then
        .ok ⟨ofAssignment (assign settings), (decidedTexts settings).eraseDups.length⟩
      else .error (.invalid ((invalidTexts settings).map Scalar.text)) := by
  have hfilter : (((decidedTexts settings).eraseDups.map Scalar.text).filter
        fun s => (Formula.ofValue? (.scalar s)).isNone) =
      (invalidTexts settings).map Scalar.text := by
    rw [List.filter_map]
    rfl
  simp only [build, distinctFormulas_assign htexts, bind, Except.bind, hfilter, List.length_map]
  cases invalidTexts settings <;> rfl

theorem mem_invalidTexts {t : Text} :
    t ∈ invalidTexts settings ↔
      Formula.parse? t = none ∧ ∃ n, ∃ s ∈ decisive? settings n, s.formula = .text t := by
  rw [invalidTexts, List.mem_filter, List.mem_eraseDups, mem_decidedTexts htexts,
    Option.isNone_iff_eq_none, and_comm]

/-- All formulas can be read exactly when every length is decided by one that can. -/
theorem invalidTexts_eq_nil_iff :
    invalidTexts settings = [] ↔
      ∀ n, ∀ s ∈ decisive? settings n, (Formula.ofValue? s.formula).isSome := by
  rw [List.eq_nil_iff_forall_not_mem]
  constructor
  · intro hnone n s hs
    obtain ⟨t, ht⟩ := htexts s (mem_of_decisive? hs).1
    rw [ht, Formula.ofValue?, Option.isSome_iff_ne_none]
    exact fun hinvalid => hnone t ((mem_invalidTexts htexts).2 ⟨hinvalid, n, s, hs, ht⟩)
  · intro hread t ht
    obtain ⟨hinvalid, n, s, hs, hformula⟩ := (mem_invalidTexts htexts).1 ht
    have hsome := hread n s hs
    rw [hformula, Formula.ofValue?, hinvalid] at hsome
    exact Bool.false_ne_true hsome

end Texts

/-- Neighbours that cover no length in common may change places: the table stays the same, or there
is none either way. -/
theorem build_swap (htexts : ∀ r ∈ before ++ s :: s' :: after, ∃ t, r.formula = .text t)
    (hdisjoint : ∀ n, ¬(s.Covers n ∧ s'.Covers n)) :
    (build (before ++ s' :: s :: after)).toOption.map (·.table.toList) =
      (build (before ++ s :: s' :: after)).toOption.map (·.table.toList) := by
  have hswapped : ∀ r ∈ before ++ s' :: s :: after, ∃ t, r.formula = .text t := fun r hr =>
    htexts r (((List.Perm.swap s s' after).append_left before).mem_iff.1 hr)
  have hinvalid : invalidTexts (before ++ s' :: s :: after) = [] ↔
      invalidTexts (before ++ s :: s' :: after) = [] := by
    rw [invalidTexts_eq_nil_iff htexts, invalidTexts_eq_nil_iff hswapped]
    simp only [decisive?_swap (hdisjoint _)]
  have htables : (ofAssignment (assign (before ++ s' :: s :: after))).toList =
      (ofAssignment (assign (before ++ s :: s' :: after))).toList :=
    toList_congr fun n => by
      rw [forLength_ofAssignment, forLength_ofAssignment, get?_assign, get?_assign,
        decisive?_swap (hdisjoint n)]
  rw [build_eq htexts, build_eq hswapped]
  by_cases hnone : invalidTexts (before ++ s :: s' :: after) = []
  · rw [if_pos hnone, if_pos (hinvalid.2 hnone)]
    exact congrArg some htables
  · rw [if_neg hnone, if_neg (mt hinvalid.1 hnone)]
    rfl

/-- **The last setting that covers a length decides.** Building a table fails exactly when the
formula that decides on some length cannot be read. It then reports the formulas of that kind, each
once, in the order in which their lengths were first covered; a formula that decides on no length is
not reported, whether it covers none or is overwritten at all of them. A table that is built gives
each length the formula that decides on it, has the covered lengths and no others, and lists them in
increasing order. Two neighbouring settings that cover no length in common can change places. -/
theorem build_settings (htexts : ∀ s ∈ settings, ∃ t, s.formula = .text t) :
    ((∃ cause, build settings = .error cause) ↔
      ∃ n, ∃ s ∈ decisive? settings n, Formula.ofValue? s.formula = none) ∧
    (∀ cause, build settings = .error cause →
      Failure.ofBuildError cause = .wrongValue ∧
      cause.message = ErrorReport.text "Rule table construction".toList
        ((invalidTexts settings).map fun t => "Invalid formula: ".toList ++ t.quoted)) ∧
    (∀ t, t ∈ invalidTexts settings ↔
      Formula.parse? t = none ∧ ∃ n, ∃ s ∈ decisive? settings n, s.formula = .text t) ∧
    (∀ built, build settings = .ok built → built.table.Follows settings) ∧
    ∀ before s s' after, settings = before ++ s :: s' :: after →
      (∀ n, ¬(s.Covers n ∧ s'.Covers n)) →
      (build (before ++ s' :: s :: after)).toOption.map (·.table.toList) =
        (build settings).toOption.map (·.table.toList) := by
  have hbuild := build_eq htexts
  have hinvalid := invalidTexts_eq_nil_iff htexts
  refine ⟨?_, ?_, fun t => mem_invalidTexts htexts, ?_, ?_⟩
  · have hfails : (∃ cause, build settings = .error cause) ↔ invalidTexts settings ≠ [] := by
      rw [hbuild]
      split_ifs with hnone <;> simp [hnone]
    simp only [hfails, ne_eq, hinvalid, Option.isSome_iff_ne_none]
    push Not
    rfl
  · intro cause hcause
    rw [hbuild] at hcause
    split_ifs at hcause with hnone
    obtain rfl := Except.error.inj hcause
    exact ⟨rfl, message_invalid _⟩
  · intro built hbuilt
    rw [hbuild] at hbuilt
    split_ifs at hbuilt with hnone
    obtain rfl := Except.ok.inj hbuilt
    exact follows_ofAssignment (hinvalid.1 hnone)
  · rintro before s s' after rfl hdisjoint
    exact build_swap htexts hdisjoint

/-- A formula that is overwritten everywhere and one without lengths are not reported; the others
are, the one for the length that was covered first in front. -/
theorem build_settings_overlapping :
    let settings : List RuleSetting := [⟨.text "AaBa".toList, 4, 5⟩, ⟨.text ['y'], 2, 3⟩,
      ⟨.text ['q'], 7, 6⟩, ⟨.text ['z'], -1, -1⟩, ⟨.text ['x'], 4, 4⟩,
      ⟨.text "AaAb".toList, 3, 3⟩, ⟨.text "AaZz".toList, -2, 0⟩]
    ∃ cause, build settings = .error cause ∧ cause.message =
      Text.join ['\n'] ["Rule table construction failed with 2 errors:".toList,
        "- Invalid formula: 'x'".toList, "- Invalid formula: 'y'".toList] := by
  intro settings
  have htexts : ∀ s ∈ settings, ∃ t, s.formula = .text t := by
    simp only [settings, List.forall_mem_cons]
    exact ⟨⟨_, rfl⟩, ⟨_, rfl⟩, ⟨_, rfl⟩, ⟨_, rfl⟩, ⟨_, rfl⟩, ⟨_, rfl⟩, ⟨_, rfl⟩, nofun⟩
  obtain ⟨hfails, hreported, -⟩ := build_settings htexts
  obtain ⟨cause, hcause⟩ := hfails.2 ⟨4, ⟨.text ['x'], 4, 4⟩, rfl, rfl⟩
  refine ⟨cause, hcause, ?_⟩
  rw [(hreported cause hcause).2]
  decide +kernel

end RuleTable

end GlyphGloss
