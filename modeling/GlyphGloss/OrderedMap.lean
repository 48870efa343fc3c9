import Std.Data.TreeMap

/-!
# Maps that remember the order of their keys

A map from keys to values that lists its keys in the order in which they were first given a value.
Giving a key another value replaces the value and leaves the key where it is.

## Main definitions

* `OrderedMap`: the maps.
* `OrderedMap.get?`, `OrderedMap.insert`, `OrderedMap.keys`, `OrderedMap.toList`,
  `OrderedMap.values`, `OrderedMap.size`.

## Main results

* `OrderedMap.get?_insert`: the value under a key after an insertion.
* `OrderedMap.keys_insert`: the keys after an insertion.
* `OrderedMap.keys_nodup`: no key is listed twice.
* `OrderedMap.mem_values_iff`: the values are those under the keys.
* `OrderedMap.map_fst_toList`: the entries are the keys in their order.
-/

namespace GlyphGloss

variable {κ : Type u} {α : Type v} [Ord κ] [Std.TransOrd κ] [Std.LawfulEqOrd κ]

/-- A map that lists its keys in the order in which they were first given a value. -/
structure OrderedMap (κ : Type u) (α : Type v) [Ord κ] [Std.TransOrd κ] [Std.LawfulEqOrd κ] where
  /-- The keys, in the order of their first insertion. -/
  order : Array κ
  /-- The values under the keys. -/
  table : Std.TreeMap κ α
  /-- No key is listed twice. -/
  order_nodup : order.toList.Nodup
  /-- The keys that are listed are those with a value. -/
  mem_order_iff : ∀ k, k ∈ order ↔ k ∈ table

namespace OrderedMap

/-- The map without keys. -/
def empty : OrderedMap κ α where
  order := #[]
  table := ∅
  order_nodup := by simp
  mem_order_iff := by simp

instance : EmptyCollection (OrderedMap κ α) := ⟨empty⟩

/-- The value under a key. -/
def get? (m : OrderedMap κ α) (k : κ) : Option α :=
  m.table[k]?

/-- The keys, in the order of their first insertion. -/
def keys (m : OrderedMap κ α) : List κ :=
  m.order.toList

/-- The number of keys. -/
def size (m : OrderedMap κ α) : Nat :=
  m.order.size

/-- The map with a value given to a key. -/
def insert (m : OrderedMap κ α) (k : κ) (a : α) : OrderedMap κ α :=
  if h : k ∈ m.table then
    { order := m.order
      table := m.table.insert k a
      order_nodup := m.order_nodup
      mem_order_iff := by
        intro k'
        rw [m.mem_order_iff, Std.TreeMap.mem_insert, Std.LawfulEqOrd.compare_eq_iff_eq]
        constructor
        · exact Or.inr
        · rintro (rfl | hk)
          · exact h
          · exact hk }
  else
    { order := m.order.push k
      table := m.table.insert k a
      order_nodup := by
        have hk : k ∉ m.order := fun hm => h ((m.mem_order_iff k).1 hm)
        rw [Array.toList_push, List.nodup_append]
        refine ⟨m.order_nodup, by simp, ?_⟩
        intro a ha b hb hab
        simp only [List.mem_singleton] at hb
        subst hb hab
        exact hk (Array.mem_toList_iff.1 ha)
      mem_order_iff := by
        intro k'
        rw [Array.mem_push, m.mem_order_iff, Std.TreeMap.mem_insert,
          Std.LawfulEqOrd.compare_eq_iff_eq]
        constructor
        · rintro (hk | rfl)
          · exact Or.inr hk
          · exact Or.inl rfl
        · rintro (rfl | hk)
          · exact Or.inr rfl
          · exact Or.inl hk }

/-- The entries, in the order of the keys. -/
def toList (m : OrderedMap κ α) : List (κ × α) :=
  m.keys.filterMap fun k => (m.get? k).map (k, ·)

/-- The values, in the order of the keys. -/
def values (m : OrderedMap κ α) : List α :=
  m.keys.filterMap m.get?

@[simp]
theorem get?_empty (k : κ) : (∅ : OrderedMap κ α).get? k = none := by
  change (∅ : Std.TreeMap κ α)[k]? = none
  simp

/-- A key has the value that it was last given. -/
theorem get?_insert [DecidableEq κ] (m : OrderedMap κ α) (k k' : κ) (a : α) :
    (m.insert k a).get? k' = if k = k' then some a else m.get? k' := by
  have : (m.insert k a).table = m.table.insert k a := by
    unfold insert
    split <;> rfl
  simp only [get?, this, Std.TreeMap.getElem?_insert, Std.LawfulEqOrd.compare_eq_iff_eq]

/-- A key has a value exactly when it is listed. -/
theorem mem_keys_iff (m : OrderedMap κ α) (k : κ) : k ∈ m.keys ↔ (m.get? k).isSome := by
  rw [keys, Array.mem_toList_iff, m.mem_order_iff, get?, Std.TreeMap.isSome_getElem?_iff_mem]

/-- A new key comes last, and a key that is there stays where it is. -/
theorem keys_insert [DecidableEq κ] (m : OrderedMap κ α) (k : κ) (a : α) :
    (m.insert k a).keys = if k ∈ m.keys then m.keys else m.keys ++ [k] := by
  have hk : k ∈ m.keys ↔ k ∈ m.table := by rw [keys, Array.mem_toList_iff, m.mem_order_iff]
  unfold insert
  split
  · next h =>
    rw [if_pos (hk.2 h)]
    rfl
  · next h =>
    have : k ∉ m.keys := fun hm => h (hk.1 hm)
    rw [if_neg this]
    simp [keys]

/-- No key is listed twice. -/
theorem keys_nodup (m : OrderedMap κ α) : m.keys.Nodup := m.order_nodup

/-- The values are those under the keys. -/
theorem mem_values_iff (m : OrderedMap κ α) (a : α) : a ∈ m.values ↔ ∃ k, m.get? k = some a := by
  rw [values, List.mem_filterMap]
  refine ⟨fun ⟨k, _, h⟩ => ⟨k, h⟩, fun ⟨k, h⟩ => ⟨k, ?_, h⟩⟩
  rw [mem_keys_iff, h]
  rfl

/-- The entries are the keys in their order. -/
theorem map_fst_toList (m : OrderedMap κ α) : m.toList.map Prod.fst = m.keys := by
  have h : ∀ ks : List κ, (∀ k ∈ ks, (m.get? k).isSome) →
      (ks.filterMap fun k => (m.get? k).map (k, ·)).map Prod.fst = ks := by
    intro ks hks
    induction ks with
    | nil => rfl
    | cons k ks ih =>
      obtain ⟨a, ha⟩ := Option.isSome_iff_exists.1 (hks k (by simp))
      simp [ha, ih fun k' hk' => hks k' (List.mem_cons_of_mem _ hk')]
  exact h m.keys fun k hk => (m.mem_keys_iff k).1 hk

end OrderedMap

end GlyphGloss
