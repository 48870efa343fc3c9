import GlyphGloss.Proofs.Record.Joined
import GlyphGloss.Record.Check
import Mathlib.Data.List.SplitBy

/-!
# Checking merged records

The values of a dictionary are checked after the rows of a character were merged. Where one row ends
with a closing bracket and the next one starts with an opening bracket, the merged text is cut
between them again, and both are checked as if they stood alone. Elsewhere the two rows run
together and are checked as one text. Checking the merged text is therefore checking the runs of
rows; a run of several malformed rows can pass, but no run of well-formed rows fails.

## Main definitions

* `Record.MeetAtJoint`: two texts that are cut apart again when a space joins them.
* `Record.runs`: the runs of values that are not cut apart.
* `Record.Reports`: whether a check reports a key.

## Main results

* `Record.hasMalformed_join`: checking joined values that are cut apart again.
* `Record.bracketed_of_hasMalformed_eq_false`: what passes stands between brackets.
* `Record.reports_items`: checking a merged lexicon.
-/

namespace GlyphGloss.Record

variable {t u w value : Text} {values : List Text}

/-! ### Values that are cut apart again -/

/-- Whether the one text ends with a closing bracket and the other starts with an opening one. -/
def MeetAtJoint (u w : Text) : Prop :=
  u.getLast? = some ']' ∧ w.head? = some '['

instance : DecidableRel MeetAtJoint := fun _ _ => inferInstanceAs (Decidable (_ ∧ _))

theorem Closes.of_getLast? (h : u.getLast? = some ']') : Closes u := by
  obtain ⟨front, rfl⟩ := List.getLast?_eq_some_iff.1 h
  rw [closes_iff, List.reverse_append]
  exact .inr rfl

theorem Opens.of_head? (h : w.head? = some '[') : Opens w := by
  obtain ⟨rest, rfl⟩ := List.head?_eq_some_iff.1 h
  rw [opens_iff]
  exact .inr rfl

/-- The records of joined values are the records of the values if neighbours meet at a joint. -/
theorem splitJoined_join_of_isChain (h : values.IsChain MeetAtJoint) :
    splitJoined (Text.join [' '] values) = values.flatMap splitJoined := by
  induction values with
  | nil => rfl
  | cons value values ih =>
    cases values with
    | nil => rw [Text.join_singleton, List.flatMap_singleton]
    | cons next values =>
      obtain ⟨⟨hcloses, hopens⟩, hrest⟩ := List.isChain_cons_cons.1 h
      have hne : next ≠ [] := fun hnil => by simp [hnil] at hopens
      have hjoin : (Text.join [' '] (next :: values)).head? = some '[' := by
        rw [Text.head?_join_cons hne, hopens]
      rw [Text.join_cons_cons,
        splitJoined_append (Closes.of_getLast? hcloses) (Opens.of_head? hjoin), ih hrest]
      rfl

/-- The empty value needs no case of its own, since it has no record. -/
theorem hasMalformed_eq (value : Text) :
    hasMalformed value = (splitJoined value).any isMalformed := by
  cases value <;> rfl

/-- Joined values are checked one by one if neighbours meet at a joint. -/
theorem hasMalformed_join (h : values.IsChain MeetAtJoint) :
    hasMalformed (Text.join [' '] values) = values.any hasMalformed := by
  rw [hasMalformed_eq, splitJoined_join_of_isChain h, List.any_flatMap, funext hasMalformed_eq]

/-! ### Runs of values -/

/-- The runs of values whose neighbours do not meet at a joint, each with spaces in between. -/
def runs (values : List Text) : List Text :=
  (values.splitBy fun u w => ¬MeetAtJoint u w).map (Text.join [' '])

/-- The runs make up the merged text. -/
theorem join_runs (values : List Text) :
    Text.join [' '] (runs values) = Text.join [' '] values := by
  rw [runs, Text.join_map_join (List.nil_notMem_splitBy _ _), List.flatten_splitBy]

/-- Runs meet at a joint. -/
theorem isChain_runs (values : List Text) : (runs values).IsChain MeetAtJoint := by
  rw [runs, List.isChain_map]
  refine (List.isChain_getLast_head_splitBy _ values).imp fun run next hmeet => ?_
  obtain ⟨hrun, hnext, hmeet⟩ := hmeet
  obtain ⟨hcloses, hopens⟩ : MeetAtJoint (run.getLast hrun) (next.head hnext) := by
    simpa using hmeet
  obtain ⟨first, rest, rfl⟩ := List.exists_cons_of_ne_nil hnext
  have hlast : run.getLast hrun ≠ [] := fun hnil => by simp [hnil] at hcloses
  have hfirst : first ≠ [] := fun hnil => by simp [hnil] at hopens
  constructor
  · rw [← List.dropLast_append_getLast hrun, Text.getLast?_join_concat hlast]
    exact hcloses
  · rw [Text.head?_join_cons hfirst]
    exact hopens

/-! ### What passes the check -/

/-- The first part of a cut starts as the text does. -/
theorem exists_cutAfter_cons (c : Char) (t : Text) :
    ∃ part parts, cutAfter 0 (c :: t) = (c :: part) :: parts := by
  rw [cutAfter]
  split
  · obtain ⟨part, parts, hparts⟩ := List.exists_cons_of_ne_nil (cutAfter_ne_nil 0 t)
    exact ⟨part, parts, by rw [hparts, Text.consHead]⟩
  · exact ⟨[], _, rfl⟩

/-- The last part of a cut ends as the text does, since nothing is dropped at its end. -/
theorem exists_cutAfter_concat {done : Nat} (hdone : done < t.length) :
    ∃ parts part, cutAfter done t = parts ++ [part] ∧ part ≠ [] ∧
      part.getLast? = t.getLast? := by
  induction t generalizing done with
  | nil => exact absurd hdone (Nat.not_lt_zero _)
  | cons c t ih =>
    by_cases ht : t = []
    · subst ht
      obtain rfl : done = 0 := Nat.lt_one_iff.1 hdone
      refine ⟨[], [c], ?_, List.cons_ne_nil _ _, rfl⟩
      rw [cutAfter]
      split_ifs <;> rfl
    rw [List.getLast?_cons_of_ne_nil ht]
    cases done with
    | succ done => exact ih (Nat.lt_of_succ_lt_succ hdone)
    | zero =>
      rw [cutAfter]
      cases hjoint : (if c = ']' then joint t else 0) with
      | zero =>
        obtain ⟨parts, part, hcut, hpart, hlast⟩ := ih (List.length_pos_iff.2 ht)
        simp only [hcut]
        cases parts with
        | nil =>
          refine ⟨[], c :: part, rfl, List.cons_ne_nil _ _, ?_⟩
          rw [List.getLast?_cons_of_ne_nil hpart, hlast]
        | cons first parts => exact ⟨(c :: first) :: parts, part, rfl, hpart, hlast⟩
      | succ blanks =>
        -- A joint ends before the bracket behind it.
        have hlt : blanks + 1 < t.length := by
          split_ifs at hjoint
          rw [← hjoint]
          exact joint_lt_length (hjoint ▸ Nat.succ_ne_zero blanks)
        obtain ⟨parts, part, hcut, hpart, hlast⟩ := ih hlt
        exact ⟨[c] :: parts, part, by simp only [hcut, List.cons_append], hpart, hlast⟩

theorem bracketed_of_isMalformed_eq_false (h : isMalformed t = false) :
    t.head? = some '[' ∧ t.getLast? = some ']' := by
  by_contra hnone
  rw [isMalformed, if_neg hnone] at h
  contradiction

/-- A trimmed value that passes the check stands between brackets, even if it holds several
records. -/
theorem bracketed_of_hasMalformed_eq_false (htrim : value.trim = value) (hne : value ≠ [])
    (h : hasMalformed value = false) : value.head? = some '[' ∧ value.getLast? = some ']' := by
  rw [hasMalformed_eq, List.any_eq_false, splitJoined, htrim] at h
  have hpass (part : Text) (hpart : part ∈ cutAfter 0 value) (hne : part ≠ []) :
      part.head? = some '[' ∧ part.getLast? = some ']' := by
    refine bracketed_of_isMalformed_eq_false (Bool.eq_false_iff.2 (h part ?_))
    rw [List.mem_filter]
    exact ⟨hpart, by simpa using hne⟩
  constructor
  · obtain ⟨c, rest, rfl⟩ := List.exists_cons_of_ne_nil hne
    obtain ⟨part, parts, hcut⟩ := exists_cutAfter_cons c rest
    exact (hpass (c :: part) (by simp [hcut]) (by simp)).1
  · obtain ⟨parts, part, hcut, hpart, hlast⟩ :=
      exists_cutAfter_concat (List.length_pos_iff.2 hne)
    rw [← hlast]
    exact (hpass part (by simp [hcut]) hpart).2

/-- Trimmed values that pass the check meet at joints. -/
theorem isChain_of_hasMalformed_eq_false
    (h : ∀ value ∈ values, value.trim = value ∧ value ≠ [] ∧ hasMalformed value = false) :
    values.IsChain MeetAtJoint := by
  have hbracketed (value : Text) (hvalue : value ∈ values) :
      value.head? = some '[' ∧ value.getLast? = some ']' := by
    obtain ⟨htrim, hne, hpass⟩ := h value hvalue
    exact bracketed_of_hasMalformed_eq_false htrim hne hpass
  refine List.Pairwise.isChain (List.pairwise_of_forall_mem_list fun u hu w hw => ?_)
  exact ⟨(hbracketed u hu).2, (hbracketed w hw).1⟩

/-! ### Checking a lexicon -/

/-- Whether the check of entries reports a key. -/
def Reports (entries : List (Text × Text)) (key : Text) : Prop :=
  key ∈ (findMalformed entries).map Prod.fst

instance (entries : List (Text × Text)) (key : Text) : Decidable (Reports entries key) :=
  inferInstanceAs (Decidable (_ ∈ _))

theorem reports_singleton (key value : Text) :
    Reports [(key, value)] key ↔ hasMalformed value := by
  simp [Reports, findMalformed, List.filter_cons]

/-- The check reports a key of a lexicon for its merged text. -/
theorem reports_items_iff (m : Lexicon) (key : Text) :
    Reports m.items key ↔ hasMalformed (m.lookup key) := by
  have hkey (h : hasMalformed (m.lookup key)) : key ∈ m.keys := by
    by_contra hnone
    rw [m.mem_keys_iff, Option.not_isSome_iff_eq_none] at hnone
    rw [Lexicon.lookup, Lexicon.valuesOf, hnone] at h
    contradiction
  simp only [Reports, findMalformed, Lexicon.items_eq, List.mem_map, List.mem_filter]
  constructor
  · rintro ⟨_, ⟨⟨key', -, rfl⟩, hmalformed⟩, rfl⟩
    exact hmalformed
  · exact fun h => ⟨(key, m.lookup key), ⟨⟨key, hkey h, rfl⟩, h⟩, rfl⟩

/-- **Checking merged rows is checking their runs.** If the values of a key are trimmed, the check
of the merged lexicon reports the key exactly when the check of a run of its distinct values alone
does. Then some value that the rows give for it is reported alone, too; and a value that is reported
alone is reported after the merge if each of the distinct values ends with a closing bracket before
one that starts with an opening bracket. -/
theorem reports_items {rows : List (Text × Text)} {key : Text}
    (htrim : ∀ value, (key, value) ∈ rows → value.trim = value) :
    (Reports (Lexicon.ofRows rows).items key ↔
      ∃ run ∈ runs (Lexicon.given rows key).eraseDups, Reports [(key, run)] key) ∧
    (Reports (Lexicon.ofRows rows).items key →
      ∃ value ∈ Lexicon.given rows key, Reports [(key, value)] key) ∧
    ((Lexicon.given rows key).eraseDups.IsChain MeetAtJoint →
      (Reports (Lexicon.ofRows rows).items key ↔
        ∃ value ∈ Lexicon.given rows key, Reports [(key, value)] key)) := by
  simp only [reports_items_iff, reports_singleton, Lexicon.lookup_ofRows]
  have hmeet (hchain : (Lexicon.given rows key).eraseDups.IsChain MeetAtJoint) :
      hasMalformed (Text.join [' '] (Lexicon.given rows key).eraseDups) ↔
        ∃ value ∈ Lexicon.given rows key, hasMalformed value := by
    simp only [hasMalformed_join hchain, List.any_eq_true, List.mem_eraseDups]
  refine ⟨?_, fun hreported => ?_, hmeet⟩
  · rw [← join_runs, hasMalformed_join (isChain_runs _), List.any_eq_true]
  · -- Without such a value, all of them stand between brackets, so that they meet at joints.
    by_contra hnone
    simp only [not_exists, not_and, Bool.not_eq_true] at hnone
    have hchain : (Lexicon.given rows key).eraseDups.IsChain MeetAtJoint := by
      refine isChain_of_hasMalformed_eq_false fun value hvalue => ?_
      rw [List.mem_eraseDups] at hvalue
      obtain ⟨hrow, hne⟩ := Lexicon.mem_given.1 hvalue
      exact ⟨htrim value hrow, hne, hnone value hvalue⟩
    obtain ⟨value, hvalue, hmalformed⟩ := (hmeet hchain).1 hreported
    exact absurd hmalformed (Bool.eq_false_iff.1 (hnone value hvalue))

/-- A record without a spelling is reported between others. -/
theorem reports_items_threeRows :
    let rows : List (Text × Text) := [(['中'], "[口丨,kd]".toList), (['国'], "[囗".toList),
      (['中'], "[,x] [丨]".toList), (['中'], "[口丨,kd]".toList)]
    Reports (Lexicon.ofRows rows).items ['中'] ∧
      (Lexicon.given rows ['中']).eraseDups.IsChain MeetAtJoint := by
  intro rows
  have hall : ∀ row ∈ rows, row.1 = ['中'] → row.2.trim = row.2 := by decide
  have htrim (value : Text) (hrow : (['中'], value) ∈ rows) : value.trim = value :=
    hall _ hrow rfl
  have hchain : (Lexicon.given rows ['中']).eraseDups.IsChain MeetAtJoint := by decide
  obtain ⟨-, -, hmeet⟩ := reports_items htrim
  exact ⟨(hmeet hchain).2 ⟨"[,x] [丨]".toList, by decide, by decide⟩, hchain⟩

/-- Two rows of which each is reported alone pass the check as one record. -/
theorem not_reports_items_fusedRows :
    let rows : List (Text × Text) := [(['中'], "[口".toList), (['中'], "丨]".toList)]
    (∀ row ∈ rows, row.2.trim = row.2) ∧ ¬Reports (Lexicon.ofRows rows).items ['中'] ∧
      ∀ value ∈ Lexicon.given rows ['中'], Reports [(['中'], value)] ['中'] := by
  decide

end GlyphGloss.Record
