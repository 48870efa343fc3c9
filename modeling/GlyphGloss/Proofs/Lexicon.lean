import GlyphGloss.Lexicon
import GlyphGloss.Proofs.OrderedMap
import GlyphGloss.Proofs.Text
import Mathlib.Data.List.Induction

/-!
# What a lexicon holds

A lexicon that was gathered from rows holds, for each key, the distinct values of its rows in the
order in which they first appear, without the empty ones; the rows of other keys do not matter. Rows
that come later add values at the end.

## Main definitions

* `Lexicon.given`: the values that rows give for a key.

## Main results

* `Lexicon.valuesOf_ofRows`: the values of a key.
* `Lexicon.exists_valuesOf_ofRows_append`: what more rows add to the values of a key.
* `Lexicon.keys_ofRows`, `Lexicon.items_eq`: the keys, and the items.
-/

namespace GlyphGloss.Lexicon

variable {rows : List (Text × Text)} {key value : Text}

/-- The values that rows give for a key, in order and without the empty ones. -/
def given (rows : List (Text × Text)) (key : Text) : List Text :=
  ((rows.filter (·.1 = key)).map Prod.snd).filter (!·.isEmpty)

theorem mem_given : value ∈ given rows key ↔ (key, value) ∈ rows ∧ value ≠ [] := by
  simp [given]

theorem given_append (rows more : List (Text × Text)) (key : Text) :
    given (rows ++ more) key = given rows key ++ given more key := by
  simp only [given, List.filter_append, List.map_append]

theorem given_singleton (key' value key : Text) :
    given [(key', value)] key = if key' = key ∧ value ≠ [] then [value] else [] := by
  by_cases hkey : key' = key
  · cases value <;> simp [given, hkey]
  · simp [given, hkey]

/-- The rows of other keys do not matter. -/
theorem given_filter (rows : List (Text × Text)) (key : Text) :
    given (rows.filter (·.1 = key)) key = given rows key := by
  rw [given, List.filter_filter]
  simp only [Bool.and_self]
  rfl

/-! ### Distinct values -/

theorem addValue_eraseDups (values : List Text) (value : Text) :
    addValue values.eraseDups value =
      (values ++ if value = [] then [] else [value]).eraseDups := by
  simp only [addValue, List.isEmpty_iff, List.mem_eraseDups]
  by_cases hvalue : value = []
  · simp [hvalue]
  · simp only [hvalue, false_or, ↓reduceIte, OrderedMap.eraseDups_concat]

/-- The values of a key are the distinct ones that its rows give, in order of first appearance. -/
theorem valuesOf_ofRows (rows : List (Text × Text)) (key : Text) :
    (ofRows rows).valuesOf key = (given rows key).eraseDups := by
  induction rows using List.reverseRecOn with
  | nil => rfl
  | append_singleton rows row ih =>
    obtain ⟨key', value⟩ := row
    rw [ofRows_concat, valuesOf_addRow, given_append, given_singleton]
    by_cases hkey : key' = key
    · rw [if_pos hkey, hkey, ih, addValue_eraseDups]
      by_cases hvalue : value = [] <;> simp [hvalue]
    · simp [hkey, ih]

theorem lookup_ofRows (rows : List (Text × Text)) (key : Text) :
    (ofRows rows).lookup key = Text.join [' '] (given rows key).eraseDups := by
  rw [lookup, valuesOf_ofRows]

/-- What more rows add to the values of a key are values that they give for it. -/
theorem exists_valuesOf_ofRows_append (rows more : List (Text × Text)) (key : Text) :
    ∃ added, (ofRows (rows ++ more)).valuesOf key = (ofRows rows).valuesOf key ++ added ∧
      ∀ value ∈ added, value ∈ given more key := by
  rw [valuesOf_ofRows, valuesOf_ofRows, given_append, List.eraseDups_append]
  refine ⟨_, rfl, fun value hvalue => ?_⟩
  rw [List.mem_eraseDups, List.removeAll, List.mem_filter] at hvalue
  exact hvalue.1

/-! ### Keys -/

/-- The keys are those of the rows, in order of first appearance. -/
theorem keys_ofRows (rows : List (Text × Text)) :
    (ofRows rows).keys = (rows.map Prod.fst).eraseDups :=
  OrderedMap.keys_foldl_insert Prod.fst (fun m row => addValue (valuesOf m row.1) row.2) rows

/-- The items are the keys with their texts. -/
theorem items_eq (m : Lexicon) : m.items = m.keys.map fun key => (key, m.lookup key) := by
  rw [items, OrderedMap.toList, List.map_filterMap, ← List.filterMap_eq_map]
  refine List.filterMap_congr fun key hkey => ?_
  obtain ⟨values, hvalues⟩ := Option.isSome_iff_exists.1 ((m.mem_keys_iff key).1 hkey)
  rw [hvalues, Function.comp_apply, lookup, valuesOf, hvalues]
  rfl

theorem size_ofRows (rows : List (Text × Text)) :
    (ofRows rows).size = (rows.map Prod.fst).eraseDups.length := by
  rw [← keys_ofRows]
  exact Array.length_toList.symm

end GlyphGloss.Lexicon
