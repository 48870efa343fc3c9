import GlyphGloss.Text.Lines
import Mathlib.Data.List.DropRight
import Mathlib.Tactic.Common

/-!
# Trimmed texts, joined texts and parts

Trimming cuts the blanks around a text away: it leaves a text alone exactly when neither of its ends
is blank, and what it leaves starts and ends with the first and the last code point that is not
blank. Joined parts can be followed from each part to the next one; in particular lines that were
joined by line feeds come back. The parts that a text is split into have all its code points but the
separators, so that the parts of a line between its tabs fit into one cell each.

## Main definitions

* `Text.IsCell`: the texts that fit into one cell of a line.

## Main results

* `Text.forall_or_exists_first`: the first item that does not satisfy a test.
* `Text.trim_eq_self_iff`: when trimming changes nothing.
* `Text.head?_trim`, `Text.getLast?_trim`: how a trimmed text starts and ends.
* `Text.exists_trim`, `Text.trim_append_of_blank`: the blanks around a trimmed text.
* `Text.join_append`, `Text.join_map_join`: joined parts in two portions, and in any number.
* `Text.join_append_eq_join`: two portions of joined parts, of which each may be empty.
* `Text.join_cons`: joined parts with the separators in front.
* `Text.join_prefix_join_append`: more parts at the end leave what was there in front.
* `Text.join_induction`: what holds of the parts holds of the joined text.
* `Text.filter_join`: joined parts without their separators.
* `Text.exists_mem_splitWhen`: the code points of the parts of a text.
* `Text.filter_splitWhen_join`: joined parts come back.
* `Text.words_append_cons`: the words on both sides of a blank.
* `Text.isCell_of_mem_splitAtEvery`: the cells of a line.
* `Text.lines_join`, `Text.lines_join_append`: joined lines.
-/

namespace GlyphGloss.Text

/-! ### The first item of a kind -/

section First

variable {α : Type} {p : α → Bool} {front : List α} {x : α}

theorem takeWhile_append_cons (hfront : ∀ y ∈ front, p y) (hx : p x = false) (rest : List α) :
    (front ++ x :: rest).takeWhile p = front := by
  rw [List.takeWhile_append_of_pos hfront, List.takeWhile_cons_of_neg (Bool.eq_false_iff.1 hx),
    List.append_nil]

theorem dropWhile_append_cons (hfront : ∀ y ∈ front, p y) (hx : p x = false) (rest : List α) :
    (front ++ x :: rest).dropWhile p = x :: rest := by
  rw [List.dropWhile_append_of_pos hfront, List.dropWhile_cons_of_neg (Bool.eq_false_iff.1 hx)]

/-- All items satisfy `p`, or there is a first one that does not. -/
theorem forall_or_exists_first (p : α → Bool) (xs : List α) :
    (∀ x ∈ xs, p x) ∨ ∃ front x rest, xs = front ++ x :: rest ∧ (∀ y ∈ front, p y) ∧
      p x = false := by
  have hsplit := List.takeWhile_append_dropWhile (p := p) (l := xs)
  have hfront : ∀ y ∈ xs.takeWhile p, p y := fun _ => List.mem_takeWhile_imp
  cases hrest : xs.dropWhile p with
  | nil =>
    rw [hrest, List.append_nil] at hsplit
    exact .inl (hsplit ▸ hfront)
  | cons x rest =>
    have hx := List.head?_dropWhile_not p xs
    rw [hrest] at hsplit hx
    exact .inr ⟨_, x, rest, hsplit.symm, hfront, hx⟩

end First

/-! ### Trimmed texts -/

/-- A text whose last code point does not satisfy `p` has no end to drop. -/
theorem dropEndWhile_eq_self_iff {p : Char → Bool} {t : Text} :
    t.dropEndWhile p = t ↔ ∀ c ∈ t.getLast?, p c = false := by
  change List.rdropWhile p t = t ↔ _
  rw [List.rdropWhile_eq_self_iff]
  constructor
  · intro h c hc
    obtain ⟨front, rfl⟩ := List.getLast?_eq_some_iff.1 hc
    have hlast := h (List.concat_ne_nil c front)
    rw [List.getLast_append_singleton] at hlast
    exact Bool.eq_false_iff.2 hlast
  · intro h hne
    exact Bool.eq_false_iff.1 (h _ (List.getLast?_eq_some_getLast hne))

theorem trimStart_eq_self_iff {t : Text} :
    t.trimStart = t ↔ ∀ c ∈ t.head?, isBlank c = false := by
  cases t with
  | nil => simp [trimStart]
  | cons c t =>
    rw [trimStart, List.dropWhile_eq_self_iff]
    simp

/-- Trimming changes nothing exactly when neither end is blank. -/
theorem trim_eq_self_iff {t : Text} :
    t.trim = t ↔ (∀ c ∈ t.head?, isBlank c = false) ∧ ∀ c ∈ t.getLast?, isBlank c = false := by
  rw [← trimStart_eq_self_iff, ← dropEndWhile_eq_self_iff]
  constructor
  · intro h
    have hsuffix : t.trimStart <:+ t := List.dropWhile_suffix _
    have hfront : t.trim <+: t.trimStart := List.rdropWhile_prefix _ _
    -- Neither cut can shorten the text, since the text is as long as what both leave of it.
    have hstart : t.trimStart = t := by
      refine hsuffix.eq_of_length_le ?_
      calc t.length = t.trim.length := by rw [h]
        _ ≤ t.trimStart.length := hfront.length_le
    refine ⟨hstart, ?_⟩
    rwa [trim, hstart] at h
  · rintro ⟨hstart, hend⟩
    rw [trim, hstart]
    exact hend

/-- A trimmed text starts with the first code point that is not blank. -/
theorem head?_trim (t : Text) : t.trim.head? = t.find? (!isBlank ·) := by
  have hstart : t.find? (!isBlank ·) = t.trimStart.head? := by
    simp only [List.find?_eq_head?_dropWhile_not, Bool.not_not]
    rfl
  rw [hstart, trim]
  cases hrest : t.trimStart with
  | nil => rfl
  | cons c rest =>
    have hc : isBlank c = false := by
      rw [hrest] at hstart
      simpa using List.find?_some hstart
    simp only [trimEnd, dropEndWhile, List.reverse_cons, List.dropWhile_append]
    split_ifs <;> simp [hc]

/-- A trimmed text ends with the last code point that is not blank. -/
theorem getLast?_trim (t : Text) : t.trim.getLast? = t.reverse.find? (!isBlank ·) := by
  have hblank : (t.takeWhile isBlank).reverse.find? (!isBlank ·) = none := by
    rw [List.find?_eq_none]
    intro c hc
    simpa using List.mem_takeWhile_imp (List.mem_reverse.1 hc)
  conv_rhs => rw [← List.takeWhile_append_dropWhile (p := isBlank) (l := t)]
  rw [List.reverse_append, List.find?_append, hblank, Option.or_none,
    List.find?_eq_head?_dropWhile_not]
  simp only [Bool.not_not, trim, trimEnd, dropEndWhile, List.getLast?_reverse]
  rfl

/-- Nothing is left of a text that is blank. -/
theorem trim_eq_nil_iff {t : Text} : t.trim = [] ↔ ∀ c ∈ t, isBlank c := by
  rw [← List.head?_eq_none_iff, head?_trim, List.find?_eq_none]
  simp

@[simp]
theorem trim_trim (t : Text) : t.trim.trim = t.trim := by
  have hfound {u : Text} : ∀ c ∈ u.find? (!isBlank ·), isBlank c = false := fun c hc => by
    simpa using List.find?_some hc
  rw [trim_eq_self_iff, head?_trim, getLast?_trim]
  exact ⟨hfound, hfound⟩

/-- A text is its trimmed text with blanks around it. -/
theorem exists_trim (t : Text) :
    ∃ front back, t = front ++ t.trim ++ back ∧ (∀ c ∈ front, isBlank c) ∧
      ∀ c ∈ back, isBlank c := by
  refine ⟨t.takeWhile isBlank, t.trimStart.rtakeWhile isBlank, ?_,
    fun _ => List.mem_takeWhile_imp, fun _ => List.mem_rtakeWhile_imp⟩
  change t = _ ++ t.trimStart.rdropWhile isBlank ++ _
  rw [List.append_assoc, List.rdropWhile_append_rtakeWhile, trimStart,
    List.takeWhile_append_dropWhile]

theorem trim_subset (t : Text) : t.trim ⊆ t := by
  obtain ⟨front, back, hsplit, -, -⟩ := exists_trim t
  intro c hc
  rw [hsplit]
  exact List.mem_append_left _ (List.mem_append_right _ hc)

/-- Blanks around a text are trimmed away. -/
theorem trim_append_of_blank {front back : Text} (hfront : ∀ c ∈ front, isBlank c)
    (hback : ∀ c ∈ back, isBlank c) (t : Text) : (front ++ t ++ back).trim = t.trim := by
  have hend (u : Text) : (u ++ back).trimEnd = u.trimEnd := by
    rw [trimEnd, trimEnd, dropEndWhile, dropEndWhile, List.reverse_append,
      List.dropWhile_append_of_pos fun c hc => hback c (List.mem_reverse.1 hc)]
  rw [trim, trim, trimStart, List.append_assoc, List.dropWhile_append_of_pos hfront,
    List.dropWhile_append]
  split_ifs with hempty
  · rw [trimStart, List.isEmpty_iff.1 hempty, List.dropWhile_eq_nil_iff.2 hback]
  · exact hend _

theorem trim_append_of_left {u : Text} (hu : u.trim = []) (w : Text) :
    (u ++ w).trim = w.trim := by
  have hnil : ∀ c ∈ ([] : Text), isBlank c := nofun
  rw [← trim_append_of_blank (trim_eq_nil_iff.1 hu) hnil w, List.append_nil]

theorem trim_append_of_right {w : Text} (hw : w.trim = []) (u : Text) :
    (u ++ w).trim = u.trim := by
  have hnil : ∀ c ∈ ([] : Text), isBlank c := nofun
  rw [← trim_append_of_blank hnil (trim_eq_nil_iff.1 hw) u, List.nil_append]

/-- Between two texts that are not blank, only blanks of theirs are added to what stands there. -/
theorem exists_trim_append {u w : Text} (hu : u.trim ≠ []) (hw : w.trim ≠ []) :
    ∃ back front, (∀ c ∈ back, isBlank c) ∧ (∀ c ∈ front, isBlank c) ∧
      ∀ t, (u ++ t ++ w).trim = u.trim ++ (back ++ t ++ front) ++ w.trim := by
  obtain ⟨frontU, backU, hsplitU, hfrontU, hbackU⟩ := exists_trim u
  obtain ⟨frontW, backW, hsplitW, hfrontW, hbackW⟩ := exists_trim w
  refine ⟨backU, frontW, hbackU, hfrontW, fun t => ?_⟩
  have htrim : (u.trim ++ (backU ++ t ++ frontW) ++ w.trim).trim =
      u.trim ++ (backU ++ t ++ frontW) ++ w.trim := by
    rw [trim_eq_self_iff, List.append_assoc, List.head?_append_of_ne_nil _ hu,
      ← List.append_assoc, List.getLast?_append_of_ne_nil _ hw]
    exact ⟨(trim_eq_self_iff.1 (trim_trim u)).1, (trim_eq_self_iff.1 (trim_trim w)).2⟩
  rw [← htrim, ← trim_append_of_blank hfrontU hbackW (u.trim ++ (backU ++ t ++ frontW) ++ w.trim)]
  conv_lhs => rw [hsplitU, hsplitW]
  simp only [List.append_assoc]

/-! ### Joined texts -/

variable {sep : Text} {parts more : List Text}

@[simp]
theorem join_singleton (sep part : Text) : join sep [part] = part := List.intercalate_singleton

theorem join_cons_cons (sep part next : Text) (parts : List Text) :
    join sep (part :: next :: parts) = part ++ sep ++ join sep (next :: parts) :=
  List.intercalate_cons_cons

/-- Joined parts, each but the first with the separator in front. -/
theorem join_cons (sep part : Text) (parts : List Text) :
    join sep (part :: parts) = part ++ parts.flatMap (sep ++ ·) := by
  induction parts generalizing part with
  | nil => rw [join_singleton, List.flatMap_nil, List.append_nil]
  | cons next parts ih =>
    rw [join_cons_cons, ih next, List.flatMap_cons]
    simp only [List.append_assoc]

/-- Only if there are no parts, nothing is joined. -/
theorem join_eq_nil_iff (hparts : [] ∉ parts) : join sep parts = [] ↔ parts = [] := by
  cases parts with
  | nil => simp [join]
  | cons part parts =>
    have hpart : part ≠ [] := fun hnil => hparts (hnil ▸ List.mem_cons_self)
    simp [join_cons, hpart]

/-- Joined parts in two portions, with the separator between these. -/
theorem join_append (hparts : parts ≠ []) (hmore : more ≠ []) :
    join sep (parts ++ more) = join sep parts ++ sep ++ join sep more := by
  induction parts with
  | nil => exact absurd rfl hparts
  | cons part parts ih =>
    cases parts with
    | nil =>
      obtain ⟨next, more, rfl⟩ := List.exists_cons_of_ne_nil hmore
      rw [List.singleton_append, join_cons_cons, join_singleton]
    | cons next parts =>
      rw [List.cons_append, List.cons_append, join_cons_cons, join_cons_cons, ← List.cons_append,
        ih (List.cons_ne_nil _ _)]
      simp only [List.append_assoc]

/-- Joined parts in two portions, of which each may be empty. -/
theorem join_append_eq_join (hparts : [] ∉ parts) (hmore : [] ∉ more) :
    join sep (parts ++ more) =
      join sep ([join sep parts, join sep more].filter (!·.isEmpty)) := by
  have hnil {parts : List Text} (h : parts = []) : join sep parts = [] := by rw [h]; rfl
  have hkept {parts : List Text} (h : [] ∉ parts) (hne : parts ≠ []) : join sep parts ≠ [] :=
    fun hjoin => hne ((join_eq_nil_iff h).1 hjoin)
  by_cases hp : parts = [] <;> by_cases hm : more = []
  · simp [hp, hm, hnil]
  · simp [hp, hnil, hkept hmore hm]
  · simp [hm, hnil, hkept hparts hp]
  · rw [join_append hp hm]
    simp [hkept hparts hp, hkept hmore hm, join_cons_cons]

/-- Joining joined parts. -/
theorem join_map_join {groups : List (List Text)} (hgroups : [] ∉ groups) :
    join sep (groups.map (join sep)) = join sep groups.flatten := by
  induction groups with
  | nil => rfl
  | cons group groups ih =>
    rw [List.mem_cons, not_or] at hgroups
    have hrest := ih hgroups.2
    cases groups with
    | nil => simp
    | cons next groups =>
      have hnext : (next :: groups).flatten ≠ [] := by
        obtain ⟨first, rest, rfl⟩ := List.exists_cons_of_ne_nil fun hnil : next = [] =>
          hgroups.2 (hnil ▸ List.mem_cons_self)
        exact List.cons_ne_nil _ _
      rw [List.flatten_cons, join_append (Ne.symm hgroups.1) hnext, ← hrest]
      exact join_cons_cons _ _ _ _

theorem head?_join_cons {part : Text} (hpart : part ≠ []) :
    (join sep (part :: parts)).head? = part.head? := by
  cases parts with
  | nil => rw [join_singleton]
  | cons next parts =>
    rw [join_cons_cons, List.append_assoc, List.head?_append_of_ne_nil _ hpart]

theorem getLast?_join_concat {part : Text} (hpart : part ≠ []) :
    (join sep (parts ++ [part])).getLast? = part.getLast? := by
  by_cases hparts : parts = []
  · rw [hparts, List.nil_append, join_singleton]
  · rw [join_append hparts (List.cons_ne_nil _ _), join_singleton,
      List.getLast?_append_of_ne_nil _ hpart]

/-- More parts at the end leave what was there in front. -/
theorem join_prefix_join_append (sep : Text) (parts more : List Text) :
    join sep parts <+: join sep (parts ++ more) := by
  by_cases hparts : parts = []
  · rw [hparts]
    exact List.nil_prefix
  · by_cases hmore : more = []
    · refine ⟨[], ?_⟩
      rw [hmore, List.append_nil, List.append_nil]
    · rw [join_append hparts hmore, List.append_assoc]
      exact List.prefix_append _ _

/-- What holds of all parts, and of two texts with the separator between them if it holds of both,
holds of joined parts. -/
theorem join_induction {P : Text → Prop} (hnil : P [])
    (happend : ∀ u w, P u → P w → P (u ++ sep ++ w)) (hparts : ∀ part ∈ parts, P part) :
    P (join sep parts) := by
  induction parts with
  | nil => exact hnil
  | cons part parts ih =>
    have hrest := ih fun p hp => hparts p (List.mem_cons_of_mem _ hp)
    cases parts with
    | nil =>
      rw [join_singleton]
      exact hparts part List.mem_cons_self
    | cons next parts =>
      rw [join_cons_cons]
      exact happend _ _ (hparts part List.mem_cons_self) hrest

/-- A code point of joined parts is one of the separator or of a part. -/
theorem mem_join {c : Char} (h : c ∈ join sep parts) : c ∈ sep ∨ ∃ part ∈ parts, c ∈ part := by
  revert h
  refine join_induction (P := fun t => c ∈ t → c ∈ sep ∨ ∃ part ∈ parts, c ∈ part) ?_ ?_ ?_
  · exact fun h => absurd h List.not_mem_nil
  · intro u w hu hw h
    rw [List.mem_append, List.mem_append] at h
    rcases h with (h | h) | h
    exacts [hu h, .inl h, hw h]
  · exact fun part hpart h => .inr ⟨part, hpart, h⟩

/-- Joined parts without their separators. -/
theorem filter_join {p : Char → Bool} (hsep : ∀ c ∈ sep, p c = false)
    (hparts : ∀ part ∈ parts, ∀ c ∈ part, p c) : (join sep parts).filter p = parts.flatten := by
  have hnone : sep.filter p = [] := List.filter_eq_nil_iff.2 (by simpa using hsep)
  induction parts with
  | nil => rfl
  | cons part parts ih =>
    rw [List.forall_mem_cons] at hparts
    have hpart := List.filter_eq_self.2 hparts.1
    have hrest := ih hparts.2
    cases parts with
    | nil => simp [hpart]
    | cons next parts =>
      rw [join_cons_cons, List.filter_append, List.filter_append, hpart, hnone, hrest,
        List.append_nil]
      rfl

/-- A part stands in what it is joined to. -/
theorem infix_join {part : Text} (hpart : part ∈ parts) : part <:+: join sep parts := by
  obtain ⟨before, after, rfl⟩ := List.append_of_mem hpart
  have hrest : join sep [part] <+: join sep (part :: after) :=
    join_prefix_join_append sep [part] after
  rw [join_singleton] at hrest
  by_cases hbefore : before = []
  · rw [hbefore, List.nil_append]
    exact hrest.isInfix
  · rw [join_append hbefore (List.cons_ne_nil _ _)]
    exact hrest.isInfix.trans (List.suffix_append _ _).isInfix

/-- A part keeps its code points when it is joined. -/
theorem mem_join_of_mem {part : Text} {c : Char} (hpart : part ∈ parts) (hc : c ∈ part) :
    c ∈ join sep parts :=
  (infix_join hpart).subset hc

/-! ### Parts -/

theorem flatten_consHead (c : Char) (parts : List Text) :
    (consHead c parts).flatten = c :: parts.flatten := by
  cases parts <;> rfl

/-- Splitting loses the separators only. -/
theorem flatten_splitWhen (p : Char → Bool) (t : Text) :
    (splitWhen p t).flatten = t.filter (!p ·) := by
  induction t with
  | nil => rfl
  | cons c t ih =>
    rw [splitWhen_cons]
    split_ifs with hc
    · simp [hc, ih]
    · simp [hc, flatten_consHead, ih]

/-- Splitting what code points are turned into. -/
theorem splitWhen_map (p : Char → Bool) (f : Char → Char) (t : Text) :
    splitWhen p (t.map f) = (splitWhen (fun c => p (f c)) t).map (List.map f) := by
  induction t with
  | nil => rfl
  | cons c t ih =>
    rw [List.map_cons, splitWhen_cons, splitWhen_cons, ih]
    split_ifs
    · rfl
    · cases splitWhen (fun c => p (f c)) t <;> rfl

/-- Only what separates the code points of a text matters. -/
theorem splitWhen_congr {p q : Char → Bool} {t : Text} (h : ∀ c ∈ t, p c = q c) :
    splitWhen p t = splitWhen q t := by
  induction t with
  | nil => rfl
  | cons c t ih =>
    rw [List.forall_mem_cons] at h
    rw [splitWhen_cons, splitWhen_cons, h.1, ih h.2]

/-- Parts that are not empty come back from what they are joined to, if the separator between them
is the only one. -/
theorem filter_splitWhen_join {p : Char → Bool} {sep : Char} {parts : List Text}
    (hsep : p sep = true) (hne : [] ∉ parts) (hparts : ∀ part ∈ parts, ∀ c ∈ part, p c = false) :
    (splitWhen p (join [sep] parts)).filter (!·.isEmpty) = parts := by
  induction parts with
  | nil => rfl
  | cons part parts ih =>
    rw [List.mem_cons, not_or] at hne
    rw [List.forall_mem_cons] at hparts
    have ih := ih hne.2 hparts.2
    have hpart : (splitWhen p part).filter (!·.isEmpty) = [part] := by
      rw [splitWhen_of_forall hparts.1, List.filter_cons_of_pos (by simpa using Ne.symm hne.1),
        List.filter_nil]
    cases parts with
    | nil => rw [join_singleton, hpart]
    | cons next parts =>
      rw [join_cons_cons, List.append_assoc, List.singleton_append, splitWhen_append_cons p hsep,
        List.filter_append, hpart, ih, List.singleton_append]

/-- The first part is what stands before the first separator. -/
theorem head?_splitWhen (p : Char → Bool) (t : Text) :
    (splitWhen p t).head? = some (t.takeWhile (!p ·)) := by
  induction t with
  | nil => rfl
  | cons c t ih =>
    rw [splitWhen_cons, List.takeWhile_cons]
    cases hc : p c with
    | true => rfl
    | false =>
      obtain ⟨parts, hparts⟩ := List.head?_eq_some_iff.1 ih
      rw [hparts]
      rfl

/-- The code points of the parts of a text are those that do not separate them. -/
theorem exists_mem_splitWhen {p : Char → Bool} {c : Char} {t : Text} :
    (∃ part ∈ splitWhen p t, c ∈ part) ↔ c ∈ t ∧ p c = false := by
  rw [← List.mem_flatten, flatten_splitWhen, List.mem_filter, Bool.not_eq_true']

/-- The empty parts do not matter. -/
theorem exists_mem_filter_splitWhen {p : Char → Bool} {c : Char} {t : Text} :
    (∃ part ∈ (splitWhen p t).filter (!·.isEmpty), c ∈ part) ↔ c ∈ t ∧ p c = false := by
  rw [← exists_mem_splitWhen, ← List.mem_flatten, List.flatten_filter_not_isEmpty,
    List.mem_flatten]

theorem exists_mem_words {c : Char} {t : Text} :
    (∃ word ∈ words t, c ∈ word) ↔ c ∈ t ∧ isBlank c = false :=
  exists_mem_filter_splitWhen

theorem nil_notMem_words (t : Text) : [] ∉ words t := by
  simp [words]

/-- A blank divides the words before it from those behind it. -/
theorem words_append_cons {sep : Char} (hsep : isBlank sep) (t u : Text) :
    words (t ++ sep :: u) = words t ++ words u := by
  rw [words, splitWhen_append_cons isBlank hsep, List.filter_append, words, words]

/-- What stands before the first separator. -/
theorem takeWhile_ne_append_cons {sep : Char} {t : Text} (h : sep ∉ t) (rest : Text) :
    (t ++ sep :: rest).takeWhile (· ≠ sep) = t := by
  refine takeWhile_append_cons (fun c hc => ?_) (by simp) rest
  simpa using fun hsep : c = sep => h (hsep ▸ hc)

/-! ### Cells -/

/-- Whether a text fits into one cell of a line. -/
structure IsCell (t : Text) : Prop where
  /-- It has no tab. -/
  noTab : '\t' ∉ t
  /-- It has no line feed. -/
  noBreak : '\n' ∉ t

instance (t : Text) : Decidable (IsCell t) :=
  decidable_of_iff ('\t' ∉ t ∧ '\n' ∉ t) ⟨fun ⟨htab, hbreak⟩ => ⟨htab, hbreak⟩,
    fun h => ⟨h.noTab, h.noBreak⟩⟩

theorem IsCell.nil : IsCell [] :=
  ⟨List.not_mem_nil, List.not_mem_nil⟩

theorem IsCell.of_subset {t u : Text} (h : IsCell t) (hsub : u ⊆ t) : IsCell u :=
  ⟨fun htab => h.noTab (hsub htab), fun hbreak => h.noBreak (hsub hbreak)⟩

/-- Joined cells are a cell if the separator is one. -/
theorem IsCell.join (hsep : IsCell sep) (hparts : ∀ part ∈ parts, IsCell part) :
    IsCell (join sep parts) := by
  constructor
  · intro htab
    rcases mem_join htab with htab | ⟨part, hpart, htab⟩
    exacts [hsep.noTab htab, (hparts part hpart).noTab htab]
  · intro hbreak
    rcases mem_join hbreak with hbreak | ⟨part, hpart, hbreak⟩
    exacts [hsep.noBreak hbreak, (hparts part hpart).noBreak hbreak]

/-- The parts of a line between its tabs are cells. -/
theorem isCell_of_mem_splitAtEvery {line part : Text} (hline : '\n' ∉ line)
    (hpart : part ∈ splitAtEvery '\t' line) : IsCell part := by
  have hmem (c : Char) (hc : c ∈ part) : c ∈ line ∧ (c == '\t') = false :=
    exists_mem_splitWhen.1 ⟨part, hpart, hc⟩
  exact ⟨fun htab => absurd (hmem _ htab).2 (by decide), fun hbreak => hline (hmem _ hbreak).1⟩

/-! ### Lines -/

/-- Lines have no line feeds. -/
theorem noBreak_of_mem_lines {line t : Text} (h : line ∈ lines t) : '\n' ∉ line := by
  have hpart : line ∈ splitAtEvery '\n' t := by
    rw [lines] at h
    split_ifs at h
    · exact List.dropLast_subset _ h
    · exact h
  exact fun hbreak => absurd (exists_mem_splitWhen.1 ⟨line, hpart, hbreak⟩).2 (by decide)

/-- Lines between line feeds come back if the last one is not empty. -/
theorem lines_join (hlines : ∀ line ∈ parts, '\n' ∉ line) (hne : parts ≠ [])
    (hlast : parts.getLast? ≠ some []) : lines (join ['\n'] parts) = parts := by
  rw [lines, splitAtEvery_join hne hlines, if_neg hlast]

/-- Lines between line feeds come back from a text that has one more line feed at its end. -/
theorem lines_join_append (hlines : ∀ line ∈ parts, '\n' ∉ line) (hne : parts ≠ []) :
    lines (join ['\n'] parts ++ ['\n']) = parts := by
  have hjoin : join ['\n'] parts ++ ['\n'] = join ['\n'] (parts ++ [[]]) := by
    rw [join_append hne (List.cons_ne_nil _ _), join_singleton, List.append_nil]
  have hsplit : splitAtEvery '\n' (join ['\n'] (parts ++ [[]])) = parts ++ [[]] := by
    refine splitAtEvery_join (List.concat_ne_nil [] parts) fun line hline => ?_
    rcases List.mem_append.1 hline with hline | hline
    · exact hlines line hline
    · rw [List.mem_singleton.1 hline]
      exact List.not_mem_nil
  rw [hjoin, lines, hsplit]
  simp

end GlyphGloss.Text
