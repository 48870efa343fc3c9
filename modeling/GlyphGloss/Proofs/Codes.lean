import GlyphGloss.Proofs.Verbosity

/-!
# The codes of a phrase

A field is shown by its words, after its marks were turned into other code points; the codes of a
phrase are cut out of the composed code as it is, and then sorted by their lengths. Turning braces
into angle brackets changes no length and no cut, so that the codes of a phrase are the words of the
field in another order, in which the shorter ones come first and those of one length keep their
order. The text that shows them has them as its words, and as its codes.

## Main definitions

* `Display.angled`: the code point shown for a brace.

## Main results

* `Display.filter_mergeSort`: items of one measure keep their order when they are sorted by it.
* `Display.fieldWords_eq`: the words of a field are the codes before they are sorted.
* `Display.map_angled_codes`: the codes in the order in which they are shown.
* `Display.codeWords_join`, `Display.codes_join_codes`: codes come back from the text that shows
  them.
* `Display.codes_sorted`: the codes of a phrase, and how they are shown.
-/

namespace GlyphGloss.Display

variable {c : Char} {code token spelling : Text} {level : Int}

/-! ### Sorting by a measure -/

/-- Items of one measure keep their order when a list is sorted by the measure. -/
theorem filter_mergeSort {α : Type} (measure : α → Nat) (xs : List α) (n : Nat) :
    (xs.mergeSort fun x y => measure x ≤ measure y).filter (measure · = n) =
      xs.filter (measure · = n) := by
  have htrans (x y z : α) (hxy : decide (measure x ≤ measure y) = true)
      (hyz : decide (measure y ≤ measure z) = true) : decide (measure x ≤ measure z) = true := by
    rw [decide_eq_true_eq] at *
    exact Nat.le_trans hxy hyz
  have htotal (x y : α) :
      (decide (measure x ≤ measure y) || decide (measure y ≤ measure x)) = true := by
    simpa using Nat.le_total (measure x) (measure y)
  -- Items of one measure are sorted in any order, and a sort keeps what is sorted already.
  have hsorted : (xs.filter (measure · = n)).Pairwise fun x y =>
      decide (measure x ≤ measure y) = true := by
    refine List.pairwise_of_forall_mem_list fun x hx y hy => ?_
    simp only [List.mem_filter, decide_eq_true_eq] at hx hy ⊢
    omega
  have hsub := (List.sublist_mergeSort htrans htotal hsorted List.filter_sublist).filter
    (measure · = n)
  rw [List.filter_filter] at hsub
  simp only [Bool.and_self] at hsub
  exact (hsub.eq_of_length ((List.mergeSort_perm _ _).filter _).length_eq.symm).symm

/-! ### Codes and the words of a field -/

/-- The code point that is shown for a brace. -/
def angled (c : Char) : Char :=
  if c = '{' then '<' else if c = '}' then '>' else c

theorem symbol_eq_angled (h : c ≠ '_') : symbol c = angled c := by
  rw [symbol, if_neg h, angled]

/-- A code is not empty, and nothing in it separates codes. -/
theorem of_mem_codeWords (h : token ∈ codeWords code) :
    token ≠ [] ∧ ∀ c ∈ token, isBlank c = false ∧ c ≠ '_' := by
  refine ⟨by simpa using List.of_mem_filter h, fun c hc => ?_⟩
  simpa using (Text.exists_mem_filter_splitWhen.1 ⟨token, h, hc⟩).2

theorem mem_codes_iff : token ∈ codes code ↔ token ∈ codeWords code :=
  (List.mergeSort_perm _ _).mem_iff

/-- The words of a field are the codes before they are sorted, with angle brackets for braces. -/
theorem fieldWords_eq (code : Text) : fieldWords code = (codeWords code).map (List.map angled) := by
  have hcut : (fun c => isBlank (symbol c)) = fun c => isBlank c || c == '_' := by
    funext c
    rw [Bool.eq_iff_iff, isBlank_symbol_iff]
    simp
  have hempty : (fun t : Text => !t.isEmpty) ∘ List.map symbol = fun t => !t.isEmpty := by
    funext t
    cases t <;> rfl
  rw [fieldWords, Text.words, Text.splitWhen_map, hcut, List.filter_map, hempty]
  refine List.map_congr_left fun token htoken => List.map_congr_left fun c hc => ?_
  exact symbol_eq_angled ((of_mem_codeWords htoken).2 c hc).2

/-- With angle brackets for braces, the codes are the words of the field sorted by their lengths. -/
theorem map_angled_codes (code : Text) :
    (codes code).map (List.map angled) =
      (Text.words (field code)).mergeSort fun s t => s.length ≤ t.length := by
  rw [words_field, fieldWords_eq, codes]
  exact List.map_mergeSort fun s _ t _ => by simp

theorem codes_pairwise (code : Text) :
    (codes code).Pairwise fun s t => s.length ≤ t.length := by
  have hsorted : (codes code).Pairwise fun s t => decide (s.length ≤ t.length) = true :=
    List.pairwise_mergeSort (fun s t u => by simpa using Nat.le_trans)
      (fun s t => by simpa using Nat.le_total _ _) (codeWords code)
  simpa only [decide_eq_true_eq] using hsorted

/-! ### Codes read back -/

/-- Codes come back from the text that they make with spaces between them. -/
theorem codeWords_join {tokens : List Text}
    (h : ∀ token ∈ tokens, token ≠ [] ∧ ∀ c ∈ token, isBlank c = false ∧ c ≠ '_') :
    codeWords (Text.join [' '] tokens) = tokens := by
  refine Text.filter_splitWhen_join (by decide) (fun hnil => (h [] hnil).1 rfl) ?_
  intro token htoken c hc
  simpa using (h token htoken).2 c hc

/-- Sorted codes are the codes of the text that they make. -/
theorem codes_join_codes (code : Text) : codes (Text.join [' '] (codes code)) = codes code := by
  rw [codes, codeWords_join fun token htoken => of_mem_codeWords (mem_codes_iff.1 htoken)]
  exact List.mergeSort_of_pairwise (by simpa using codes_pairwise code)

/-! ### Phrases -/

/-- The angle brackets around a phrase show that it has no codes. -/
theorem altOpening_prefix_phrase_iff (h : level ≠ 1) (spelling : Text) (code : Option Text) :
    altOpening <+: phrase spelling code level ↔ codes (code.getD []) = [] := by
  rw [phrase_of_ne_one h]
  split_ifs with hnone
  · simp only [hnone, List.append_assoc, List.prefix_append]
  · refine iff_of_false (fun hprefix => ?_) hnone
    obtain ⟨rest, hrest⟩ := hprefix
    exact absurd (congrArg List.head? hrest) (by simp [altOpening, opening])

theorem codes_getD_eq_nil_iff {code : Option Text} :
    codes (code.getD []) = [] ↔ ∀ found ∈ code, codes found = [] := by
  cases code <;> simp [codes, codeWords]

/-- **The codes of a phrase.** They are not empty, and neither blanks nor underscores are in them.
With angle brackets for braces they are the words of the shown field, the shorter ones first and
those of one length in their order. The text that they make with spaces between them has the same
codes. From the second level on, a phrase stands between angle brackets exactly if it has no code or
one without such words; otherwise exactly these stand behind the shown spelling, one after the
other. -/
theorem codes_sorted :
    (∀ code : Text,
      (∀ token ∈ codes code, token ≠ [] ∧ ∀ c ∈ token, isBlank c = false ∧ c ≠ '_') ∧
      ((codes code).map (List.map angled)).Perm (Text.words (field code)) ∧
      (codes code).Pairwise (fun s t => s.length ≤ t.length) ∧
      (∀ n : Nat, ((codes code).map (List.map angled)).filter (·.length = n) =
        (Text.words (field code)).filter (·.length = n)) ∧
      codes (Text.join [' '] (codes code)) = codes code) ∧
    ∀ (spelling : Text) (code : Option Text) (level : Int), level ≠ 1 →
      (altOpening <+: phrase spelling code level ↔ ∀ found ∈ code, codes found = []) ∧
      ((∀ found ∈ code, codes found = []) →
        phrase spelling code level = altOpening ++ field spelling ++ altClosing) ∧
      ∀ found ∈ code, codes found ≠ [] →
        phrase spelling code level = opening ++ field spelling ++ separator ++
          Text.join [' '] (codes found) ++ closing ∧
        Text.splitAtEvery ' ' (Text.join [' '] (codes found)) = codes found := by
  refine ⟨fun code => ⟨?_, ?_, codes_pairwise code, fun n => ?_, codes_join_codes code⟩, ?_⟩
  · exact fun token htoken => of_mem_codeWords (mem_codes_iff.1 htoken)
  · rw [map_angled_codes]
    exact List.mergeSort_perm _ _
  · rw [map_angled_codes]
    exact filter_mergeSort List.length _ n
  · intro spelling code level hlevel
    rw [altOpening_prefix_phrase_iff hlevel, ← codes_getD_eq_nil_iff, phrase_of_ne_one hlevel]
    refine ⟨Iff.rfl, fun hnone => if_pos hnone, ?_⟩
    rintro found rfl hfound
    refine ⟨if_neg hfound, Text.splitAtEvery_join hfound fun token htoken hspace => ?_⟩
    have hletter := (of_mem_codeWords (mem_codes_iff.1 htoken)).2 ' ' hspace
    exact absurd hletter.1 (by decide)

/-- Three codes with a unit, of which the last one is shown first, and a code of separators only. -/
theorem codes_sorted_unitInCode :
    let code := "_abc\u3000\x7bb\x7d__a\t".toList
    codes (Text.join [' '] (codes code)) = [['a'], ['a', 'b', 'c'], ['\x7b', 'b', '\x7d']] ∧
      phrase ['口'] (some code) 2 = "〔口 · a abc \x7bb\x7d〕".toList ∧
      altOpening <+: phrase ['口'] (some "\u3000__".toList) 3 := by
  intro code
  obtain ⟨hcodes, hphrase⟩ := codes_sorted
  have hwords : codeWords code = [['a', 'b', 'c'], ['\x7b', 'b', '\x7d'], ['a']] := by
    decide +kernel
  have hfound : codes code = [['a'], ['a', 'b', 'c'], ['\x7b', 'b', '\x7d']] := by
    rw [codes, hwords]
    simp [List.mergeSort, List.MergeSort.Internal.splitInTwo]
  have hnone : codes "\u3000__".toList = [] := by decide +kernel
  have hsome : codes code ≠ [] := by simp [hfound]
  refine ⟨(hcodes code).2.2.2.2.trans hfound, ?_, ?_⟩
  · rw [((hphrase ['口'] (some code) 2 (by decide)).2.2 code rfl hsome).1, hfound]
    decide +kernel
  · exact (hphrase ['口'] (some "\u3000__".toList) 3 (by decide)).1.2 fun found hsome =>
      Option.some.inj hsome ▸ hnone

end GlyphGloss.Display
