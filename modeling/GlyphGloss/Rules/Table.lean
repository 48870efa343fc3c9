import GlyphGloss.Formula
import GlyphGloss.OrderedMap
import GlyphGloss.Rules.Setting

/-!
# Rule tables

A rule table gives a formula to each of finitely many phrase lengths. It is built from settings in
order, a later setting replacing an earlier one at the lengths that both cover. Only the formulas
that some length has in the end are read, each once, in the order in which the lengths that have
them were first covered; if any of them is no formula the table is not built.

## Main definitions

* `RuleTable`: the table.
* `RuleTable.assign`: the text of the formula that each covered length has in the end.
* `RuleTable.distinctFormulas`: the formulas that have to be read.
* `RuleTable.build`: the table of a list of settings.

## Main results

* `RuleTable.assign_append`: settings are applied one after the other.
* `RuleTable.get?_assign_concat`: the last setting that covers a length decides.
-/

namespace GlyphGloss

/-- The formula that a value writes, which has to be a text. -/
def Formula.ofValue? : Value → Option Formula
  | .text t => Formula.parse? t
  | _ => none

/-- The message on a value that writes no formula. -/
def Formula.invalidMessage (v : Value) : Text :=
  if v.isWritable then "Invalid formula: ".toList ++ v.literal else Numeral.limitMessage none

/-- A formula for each of finitely many phrase lengths. -/
structure RuleTable where
  /-- The formulas by phrase length. -/
  rules : Std.TreeMap Int Formula

namespace RuleTable

/-- The table without lengths. -/
def empty : RuleTable := ⟨∅⟩

/-- The formula for a phrase length. -/
def forLength (table : RuleTable) (n : Int) : Option Formula :=
  table.rules[n]?

/-- Whether a phrase length has a formula. -/
def covers (table : RuleTable) (n : Int) : Bool :=
  table.rules.contains n

/-- The number of phrase lengths with a formula. -/
def size (table : RuleTable) : Nat :=
  table.rules.size

/-- The lengths with their formulas, in increasing order. -/
def toList (table : RuleTable) : List (Int × Formula) :=
  table.rules.toList

/-! ### Building a table -/

/-- Gives the formula of a setting to the lengths that it covers. -/
def applySetting (m : OrderedMap Int Value) (s : RuleSetting) : OrderedMap Int Value :=
  s.lengths.foldl (fun m n => m.insert n s.formula) m

/-- The formula that each covered length has in the end, not yet read. -/
def assign (settings : List RuleSetting) : OrderedMap Int Value :=
  settings.foldl applySetting ∅

/-- Why a table was not built. -/
inductive BuildError where
  /-- A formula is a value that is not compared with others. -/
  | notComparable (kind : String)
  /-- Values that had to be read are no formulas. -/
  | invalid (formulas : List Scalar)

/-- A build error in words. -/
def BuildError.message : BuildError → Text
  | .notComparable kind => "unhashable type: '".toList ++ kind.toList ++ ['\'']
  | .invalid formulas =>
    ErrorReport.text "Rule table construction".toList
      (formulas.map fun s => Formula.invalidMessage (.scalar s))

/-- The scalars among values that all have to be scalars. -/
def scalars : List Value → Except BuildError (List Scalar)
  | [] => .ok []
  | .scalar s :: rest => (scalars rest).map (s :: ·)
  | v :: _ => .error (.notComparable v.kind)

/-- The formulas that have to be read: each once, in the order in which the lengths that have them
were first covered. -/
def distinctFormulas (assigned : OrderedMap Int Value) : Except BuildError (List Scalar) :=
  (scalars assigned.values).map (List.eraseDupsBy fun s t => Scalar.same s t)

/-- The table of an assignment whose formulas can all be read. -/
def ofAssignment (assigned : OrderedMap Int Value) : RuleTable :=
  ⟨assigned.toList.foldl
    (fun rules (n, v) => (Formula.ofValue? v).elim rules (rules.insert n)) ∅⟩

/-- A built table, with the number of formulas that were read for it. -/
structure Built where
  /-- The table. -/
  table : RuleTable
  /-- The number of distinct formulas. -/
  formulas : Nat

/-- The table of a list of settings. -/
def build (settings : List RuleSetting) : Except BuildError Built := do
  let assigned := assign settings
  let formulas ← distinctFormulas assigned
  match formulas.filter fun s => (Formula.ofValue? (.scalar s)).isNone with
  | [] => return { table := ofAssignment assigned, formulas := formulas.length }
  | invalid => throw (.invalid invalid)

/-- Settings are applied one after the other. -/
theorem assign_append (ss : List RuleSetting) (s : RuleSetting) :
    assign (ss ++ [s]) = applySetting (assign ss) s := by
  simp [assign]

/-- The formula of a setting goes to the lengths that it covers and to no other. -/
theorem get?_applySetting (m : OrderedMap Int Value) (s : RuleSetting) (n : Int) :
    (applySetting m s).get? n = if n ∈ s.lengths then some s.formula else m.get? n := by
  unfold applySetting
  generalize s.lengths = ns
  induction ns generalizing m with
  | nil => simp
  | cons k ns ih =>
    rw [List.foldl_cons, ih, OrderedMap.get?_insert]
    by_cases h : n ∈ ns
    · simp [h]
    · by_cases hk : k = n
      · simp [hk]
      · have : n ≠ k := fun e => hk e.symm
        simp [h, hk, this]

/-- The last setting that covers a length decides its formula. -/
theorem get?_assign_concat (ss : List RuleSetting) (s : RuleSetting) (n : Int) :
    (assign (ss ++ [s])).get? n =
      if s.least ≤ n ∧ n ≤ s.greatest then some s.formula else (assign ss).get? n := by
  rw [assign_append, get?_applySetting]
  simp only [RuleSetting.mem_lengths_iff]

end RuleTable

end GlyphGloss
