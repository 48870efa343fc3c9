/-!
# Texts, blanks, trimming and splitting

A text that is taken apart is a list of code points. This file fixes which code points are blank
and gives the cuts that every format here is made of: trimming, splitting at separators, and the
words of a text.

## Main definitions

* `Text`: a list of code points.
* `isBlank`: the blank code points.
* `Text.trim`, `Text.trimStart`, `Text.trimEnd`, `Text.dropEndWhile`.
* `Text.splitWhen`, `Text.words`, `Text.join`.

## Main results

* `Text.splitWhen_ne_nil`: splitting gives at least one part.
* `Text.splitWhen_append_cons`: the parts on both sides of a separator.
* `Text.join_splitAtEvery`: joining the parts with the separator gives the text back.
* `Text.splitAtEvery_join`: parts without the separator come back from the joined text.
-/

namespace GlyphGloss

/-- A text, as the list of its code points. -/
abbrev Text := List Char

/-- The blank code points: tab to carriage return, the four information separators, the space,
next line, and the spaces and separators of the general punctuation and ideographic blocks. -/
def isBlank (c : Char) : Bool :=
  let n := c.toNat
  (0x09 ≤ n && n ≤ 0x0D) || (0x1C ≤ n && n ≤ 0x20) || n == 0x85 || n == 0xA0 || n == 0x1680 ||
    (0x2000 ≤ n && n ≤ 0x200A) || n == 0x2028 || n == 0x2029 || n == 0x202F || n == 0x205F ||
    n == 0x3000

namespace Text

/-! ### Trimming -/

/-- The text without its longest end whose code points all satisfy `p`. -/
def dropEndWhile (p : Char → Bool) (t : Text) : Text :=
  (t.reverse.dropWhile p).reverse

/-- The text without leading blanks. -/
def trimStart (t : Text) : Text :=
  t.dropWhile isBlank

/-- The text without trailing blanks. -/
def trimEnd (t : Text) : Text :=
  t.dropEndWhile isBlank

/-- The text without blanks at either end. -/
def trim (t : Text) : Text :=
  t.trimStart.trimEnd

/-! ### Splitting -/

/-- Puts a code point in front of the first part. -/
def consHead (c : Char) : List Text → List Text
  | [] => [[c]]
  | part :: parts => (c :: part) :: parts

/-- The parts of a text between the code points that satisfy `p`, empty parts included. -/
def splitWhen (p : Char → Bool) (t : Text) : List Text :=
  t.foldr (fun c parts => if p c then [] :: parts else consHead c parts) [[]]

/-- The parts of a text between the occurrences of one code point. -/
def splitAtEvery (sep : Char) (t : Text) : List Text :=
  t.splitWhen (· == sep)

/-- The longest runs of code points that are not blank. -/
def words (t : Text) : List Text :=
  (t.splitWhen isBlank).filter (!·.isEmpty)

/-- The parts in order with `sep` between neighbours. -/
def join (sep : Text) (parts : List Text) : Text :=
  sep.intercalate parts

@[simp]
theorem splitWhen_nil (p : Char → Bool) : splitWhen p [] = [[]] := rfl

theorem splitWhen_cons (p : Char → Bool) (c : Char) (t : Text) :
    splitWhen p (c :: t) =
      if p c then [] :: splitWhen p t else consHead c (splitWhen p t) := rfl

/-- Splitting gives at least one part. -/
theorem splitWhen_ne_nil (p : Char → Bool) (t : Text) : splitWhen p t ≠ [] := by
  cases t with
  | nil => simp
  | cons c t =>
    rw [splitWhen_cons]
    split
    · simp
    · cases splitWhen p t <;> simp [consHead]

/-- A code point put in front of the first part comes first in the joined text. -/
theorem join_consHead (sep : Text) (c : Char) {parts : List Text} (h : parts ≠ []) :
    join sep (consHead c parts) = c :: join sep parts := by
  match parts, h with
  | [part], _ => simp [consHead, join, List.intercalate]
  | part :: next :: parts, _ => simp [consHead, join, List.intercalate]

/-- Joining the parts between the occurrences of a code point with that code point gives the text
back. -/
theorem join_splitAtEvery (sep : Char) (t : Text) : join [sep] (splitAtEvery sep t) = t := by
  unfold splitAtEvery
  induction t with
  | nil => simp [join, List.intercalate]
  | cons c t ih =>
    rw [splitWhen_cons]
    split
    · next h =>
      cases hs : splitWhen (· == sep) t with
      | nil => exact absurd hs (splitWhen_ne_nil _ t)
      | cons part parts =>
        rw [hs] at ih
        simp only [join, List.intercalate] at ih
        simp [join, List.intercalate, ih, eq_of_beq h]
    · rw [join_consHead _ _ (splitWhen_ne_nil _ t), ih]

theorem consHead_append {parts : List Text} (h : parts ≠ []) (c : Char) (more : List Text) :
    consHead c (parts ++ more) = consHead c parts ++ more := by
  obtain ⟨part, parts, rfl⟩ := List.exists_cons_of_ne_nil h
  rfl

/-- A text without separators is one part. -/
theorem splitWhen_of_forall {p : Char → Bool} {t : Text} (h : ∀ c ∈ t, p c = false) :
    splitWhen p t = [t] := by
  induction t with
  | nil => rfl
  | cons c t ih =>
    rw [List.forall_mem_cons] at h
    rw [splitWhen_cons, h.1, ih h.2]
    rfl

/-- A separator divides the parts before it from those behind it. -/
theorem splitWhen_append_cons (p : Char → Bool) {sep : Char} (hsep : p sep = true) (t u : Text) :
    splitWhen p (t ++ sep :: u) = splitWhen p t ++ splitWhen p u := by
  induction t with
  | nil => rw [List.nil_append, splitWhen_cons, if_pos hsep, splitWhen_nil, List.singleton_append]
  | cons c t ih =>
    rw [List.cons_append, splitWhen_cons, splitWhen_cons, ih]
    split
    · rw [List.cons_append]
    · rw [consHead_append (splitWhen_ne_nil p t)]

/-- A text without the separator is one part. -/
theorem splitAtEvery_of_notMem {sep : Char} {t : Text} (h : sep ∉ t) :
    splitAtEvery sep t = [t] := by
  refine splitWhen_of_forall fun c hc => ?_
  rw [beq_eq_false_iff_ne]
  rintro rfl
  exact h hc

/-- The text up to the first separator is the first part. -/
theorem splitAtEvery_append {sep : Char} {t : Text} (h : sep ∉ t) (rest : Text) :
    splitAtEvery sep (t ++ sep :: rest) = t :: splitAtEvery sep rest := by
  have hparts : splitAtEvery sep (t ++ sep :: rest) = splitAtEvery sep t ++ splitAtEvery sep rest :=
    splitWhen_append_cons (· == sep) (beq_self_eq_true sep) t rest
  rw [hparts, splitAtEvery_of_notMem h, List.singleton_append]

/-- Parts without the separator come back from the joined text. -/
theorem splitAtEvery_join {sep : Char} {parts : List Text} (hne : parts ≠ [])
    (h : ∀ part ∈ parts, sep ∉ part) : splitAtEvery sep (join [sep] parts) = parts := by
  induction parts with
  | nil => exact absurd rfl hne
  | cons part parts ih =>
    have hpart : sep ∉ part := h part List.mem_cons_self
    match parts, ih, h with
    | [], _, _ => simpa [join, List.intercalate] using splitAtEvery_of_notMem hpart
    | next :: parts, ih, h =>
      have hrest := ih (by simp) fun p hp => h p (List.mem_cons_of_mem _ hp)
      have hjoin : join [sep] (part :: next :: parts) =
          part ++ sep :: join [sep] (next :: parts) := by
        simp [join, List.intercalate]
      rw [hjoin, splitAtEvery_append hpart, hrest]

end Text

end GlyphGloss
