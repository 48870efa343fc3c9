import GlyphGloss.OrderedMap
import Mathlib.Data.List.Induction

/-!
# The order of the keys of a map

A map that is filled entry by entry lists its keys in the order in which they first appear among the
entries, whatever values they are given.

## Main results

* `OrderedMap.eraseDups_concat`: one more item is kept if it is a new one.
* `OrderedMap.keys_foldl_insert`: the keys of a map that is filled entry by entry.
-/

namespace GlyphGloss.OrderedMap

/-- One more item is kept if it is a new one. -/
theorem eraseDups_concat {α : Type} [BEq α] [LawfulBEq α] (xs : List α) (x : α) :
    (xs ++ [x]).eraseDups = if x ∈ xs then xs.eraseDups else xs.eraseDups ++ [x] := by
  rw [List.eraseDups_append]
  by_cases hx : x ∈ xs
  · simp [List.removeAll, hx]
  · simp [List.removeAll, hx, List.eraseDups_cons]

variable {ι κ α : Type} [Ord κ] [Std.TransOrd κ] [Std.LawfulEqOrd κ] [BEq κ] [LawfulBEq κ]

/-- The keys of a map that is filled entry by entry are those of the entries, in order of first
appearance. A value may depend on what the map holds when it is given. -/
theorem keys_foldl_insert (key : ι → κ) (value : OrderedMap κ α → ι → α) (xs : List ι) :
    (xs.foldl (fun m x => insert m (key x) (value m x)) ∅).keys = (xs.map key).eraseDups := by
  classical
  induction xs using List.reverseRecOn with
  | nil => rfl
  | append_singleton xs x ih =>
    rw [List.foldl_append, List.foldl_cons, List.foldl_nil, keys_insert, ih, List.map_append,
      List.map_singleton, eraseDups_concat]
    simp only [List.mem_eraseDups]

end GlyphGloss.OrderedMap
