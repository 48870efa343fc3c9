import GlyphGloss.Proofs.Boundary

/-!
# First alternates and codes as they are written

The codes of a record are taken apart in two ways. For the first alternate the code field is cut at
its underscores before the alternate is taken apart; for the codes as they are written the whole
field is, and an underscore is a component like any other code point. The alternates that are empty
are left out, so that both ways meet only where the field does not start with an underscore, and a
brace could join what stands on both sides of an underscore to one unit. Apart from that, the first
alternate has the components before the first underscore.

## Main definitions

* `Composition.IsUnmarkedAt`: whether an instruction refers to codes without an underscore.

## Main results

* `Component.split_of_noBrace`: the components of a text without braces.
* `Record.part_terse`: the first alternate of a code field.
* `Record.components_terse`: the components of the first alternate.
* `Composition.compose_terse_eq_literal`: first alternates and codes as they are written, in records
  and in compositions.
-/

namespace GlyphGloss

/-- Without braces, each code point that is not blank is a component. -/
theorem Component.split_of_noBrace {t : Text} (h : ∀ c ∈ t, isBrace c = false) :
    split t = (t.filter (!isBlank ·)).map ([·]) := by
  induction t with
  | nil => rfl
  | cons c t ih =>
    rw [List.forall_mem_cons] at h
    have ih := ih h.2
    cases hblank : isBlank c with
    | true => rw [split_cons_of_blank hblank, ih, List.filter_cons_of_neg (by simp [hblank])]
    | false =>
      have hopening : c ≠ '{' := (isBrace_eq_false_iff.1 h.1).1
      rw [split_cons_of_single hblank fun hc => absurd hc hopening, ih,
        List.filter_cons_of_pos (by simp [hblank]), List.map_cons]

/-! ### Records -/

namespace Record

variable {r : Record}

/-- A code field that does not start with an underscore has its first alternate up to the first
one. -/
theorem part_terse (h : r.code.head? ≠ some '_') :
    r.part .terse = r.code.takeWhile (· ≠ '_') := by
  have hhead : (r.code.splitAtEvery '_').head? = some (r.code.takeWhile (· ≠ '_')) := by
    simp only [Text.splitAtEvery, Text.head?_splitWhen, Bool.beq_eq_decide_eq, decide_not, ne_eq]
  obtain ⟨others, hsplit⟩ := List.head?_eq_some_iff.1 hhead
  rw [part, alternates, hsplit]
  cases hcode : r.code with
  | nil =>
    rw [hcode] at hsplit
    obtain rfl : others = [] := (List.cons.inj hsplit).2.symm
    rfl
  | cons c rest =>
    have hc : c ≠ '_' := fun hc => h (by rw [hcode, hc, List.head?_cons])
    simp [hc]

/-- Where no brace can join what an underscore divides, the first alternate has the components that
stand before the first underscore. -/
theorem components_terse (hbrace : ∀ c ∈ r.code, Component.isBrace c = false)
    (h : r.code.head? ≠ some '_') :
    r.components .terse = (r.components .literal).takeWhile (· ≠ ['_']) := by
  have hpart : ∀ c ∈ r.code.takeWhile (· ≠ '_'), Component.isBrace c = false :=
    fun c hc => hbrace c (List.takeWhile_subset _ hc)
  -- An underscore is not blank, so that the blanks can be left out before or after the cut.
  have hmark : (fun c => !!isBlank c || decide (c ≠ '_')) = fun c => decide (c ≠ '_') := by
    funext c
    by_cases hc : c = '_'
    · subst hc
      rfl
    · simp [hc]
  calc r.components .terse
      = ((r.code.takeWhile (· ≠ '_')).filter (!isBlank ·)).map ([·]) := by
        rw [components_eq_split, part_terse h, Component.split_of_noBrace hpart]
    _ = ((r.code.filter (!isBlank ·)).takeWhile (· ≠ '_')).map ([·]) := by
        rw [List.takeWhile_filter, hmark]
    _ = (r.components .literal).takeWhile (· ≠ ['_']) := by
        rw [components_eq_split, part, Component.split_of_noBrace hbrace, List.takeWhile_map]
        simp [Function.comp_def]

/-- Without an underscore the first alternate is the whole code field, whatever braces are in it. -/
theorem components_terse_of_unmarked (h : '_' ∉ r.code) :
    r.components .terse = r.components .literal := by
  have hhead : r.code.head? ≠ some '_' := fun hhead => h (List.mem_of_mem_head? hhead)
  have hwhole : r.code.takeWhile (· ≠ '_') = r.code := by
    rw [List.takeWhile_eq_self_iff]
    intro c hc
    simpa using fun hmark : c = '_' => h (hmark ▸ hc)
  rw [components_eq_split, components_eq_split, part_terse hhead, hwhole, part]

end Record

/-! ### Compositions -/

namespace Composition

variable {lookup : Text → Text} {phrase : Text} {i : Instruction}

/-- Whether no underscore is in the codes that an instruction refers to: the code field of the first
record of the character that it names. -/
def IsUnmarkedAt (lookup : Text → Text) (phrase : Text) (i : Instruction) : Prop :=
  ∀ raw ∈ value? lookup phrase i, ∀ r ∈ Record.readFirst? raw, '_' ∉ r.code

instance : Decidable (IsUnmarkedAt lookup phrase i) :=
  inferInstanceAs (Decidable (∀ raw ∈ value? lookup phrase i, ∀ r ∈ Record.readFirst? raw,
    '_' ∉ r.code))

/-- Both ways to take codes apart give the same components where an instruction refers to codes
without an underscore. -/
theorem componentsOf?_terse_of_isUnmarkedAt (h : IsUnmarkedAt lookup phrase i) :
    (value? lookup phrase i).map (Record.componentsOf? · .terse) =
      (value? lookup phrase i).map (Record.componentsOf? · .literal) := by
  refine Option.map_congr fun raw hraw => ?_
  refine Option.map_congr fun r hr => ?_
  exact Record.components_terse_of_unmarked (h raw hraw r hr)

/-- **The first alternate ends at the first underscore.** Let the code field of a record have no
brace and not start with an underscore. Then its first alternate has the components of the codes as
they are written up to the first underscore among them, and all of them if there is none. Where no
underscore is in the code field of the first record of any character that the formula of a phrase
names, whatever braces are in it, the phrase has the same composition of first alternates and of
codes as they are written, or none of either for the same reason. -/
theorem compose_terse_eq_literal (table : RuleTable) (lookup : Text → Text) (phrase : Text) :
    (∀ r : Record, (∀ c ∈ r.code, Component.isBrace c = false) → r.code.head? ≠ some '_' →
      r.components .terse = (r.components .literal).takeWhile (· ≠ ['_'])) ∧
    ((∀ formula, table.forLength phrase.length = some formula →
        ∀ i ∈ formula, IsUnmarkedAt lookup phrase i) →
      compose table lookup .terse phrase = compose table lookup .literal phrase) := by
  refine ⟨fun r => Record.components_terse, fun h => ?_⟩
  refine compose_congr_part table (by simp) fun formula hformula i hi => ?_
  exact componentsOf?_terse_of_isUnmarkedAt (h formula hformula i hi)

/-- A blank in front of the first of two underscores, and a phrase with a unit among its codes whose
middle character, which is not named, has several alternates. -/
theorem compose_terse_eq_literal_unitInCode :
    let r : Record := ⟨["口".toList, "\t__k d".toList]⟩
    let store := Lexicon.ofRows [(['中'], "[口丨,\x7bk d\x7dk]".toList), (['国'], "[囗,g]".toList),
      (['人'], "[人,r_en]".toList)]
    r.components .terse = [] ∧ r.components .literal = [['_'], ['_'], ['k'], ['d']] ∧
      compose firstAndLast store.lookup .terse ['中', '人', '国'] =
        .ok "\x7bk d\x7dg～".toList := by
  intro r store
  obtain ⟨hrecord, hphrase⟩ := compose_terse_eq_literal firstAndLast store.lookup ['中', '人', '国']
  have hformula : firstAndLast.forLength 3 = some [⟨1, 1⟩, ⟨-1, -1⟩, ⟨1, 5⟩] := by decide
  have hunmarked : ∀ formula, firstAndLast.forLength 3 = some formula →
      ∀ i ∈ formula, IsUnmarkedAt store.lookup ['中', '人', '国'] i := by
    intro formula hfound
    obtain rfl := Option.some.inj (hformula.symm.trans hfound)
    decide
  have hbrace : ∀ c ∈ r.code, Component.isBrace c = false :=
    List.forall_iff_forall_mem.1 (by decide)
  refine ⟨?_, by decide, ?_⟩
  · rw [hrecord r hbrace (by decide)]
    decide
  · rw [hphrase hunmarked]
    rfl

end Composition

end GlyphGloss
