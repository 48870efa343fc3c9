import GlyphGloss.Proofs.Lexicon
import GlyphGloss.Record.Joined

/-!
# Joining records and cutting them apart

The records of a character are joined by single spaces when its rows are merged, and are cut apart
at the joints when they are read. The cut finds the spaces again: a text that ends with a closing
bracket and a text that starts with an opening one are cut apart from each other wherever else they
are cut, whatever blanks stand around them, so that records without a joint inside come back from
the merged value.

## Main definitions

* `Record.HasJoint`: blanks between a closing and an opening bracket.
* `Record.IsUncut`: a text between brackets without a joint inside.
* `Record.Opens`, `Record.Closes`: how texts start and end that can stand beside a joint.

## Main results

* `Record.cutAfter_append`: the cuts of two texts with blanks between them.
* `Record.splitJoined_append`, `Record.readAll_append`: the records of two texts.
* `Record.splitJoined_lookup`: the records of a merged value.
-/

namespace GlyphGloss.Record

variable {t u v w blanks : Text}

/-! ### Joints -/

/-- Whether blanks stand between a closing and an opening bracket of a text. -/
def HasJoint (t : Text) : Prop :=
  ∃ blanks, blanks ≠ [] ∧ (∀ c ∈ blanks, isBlank c) ∧ ']' :: blanks ++ ['['] <:+: t

/-- A text between brackets that is not cut anywhere. -/
structure IsUncut (t : Text) : Prop where
  /-- It starts with an opening bracket. -/
  opens : t.head? = some '['
  /-- It ends with a closing bracket. -/
  closes : t.getLast? = some ']'
  /-- There is no joint inside. -/
  noJoint : ¬HasJoint t

/-- Blanks are a joint if what follows them is an opening bracket. -/
theorem joint_append_cons {x : Char} (hblanks : ∀ c ∈ blanks, isBlank c)
    (hx : isBlank x = false) (rest : Text) :
    joint (blanks ++ x :: rest) = if x = '[' then blanks.length else 0 := by
  simp [joint, Text.takeWhile_append_cons hblanks hx]

/-- Blanks that nothing follows are no joint. -/
theorem joint_of_blank (h : ∀ c ∈ t, isBlank c) : joint t = 0 := by
  simp [joint, List.takeWhile_eq_self_iff.2 h]

/-- Behind a joint stands an opening bracket. -/
theorem exists_of_joint_ne_zero (h : joint t ≠ 0) :
    ∃ blanks rest, t = blanks ++ '[' :: rest ∧ blanks ≠ [] ∧ (∀ c ∈ blanks, isBlank c) ∧
      joint t = blanks.length := by
  rcases Text.forall_or_exists_first isBlank t with hblank | ⟨blanks, x, rest, rfl, hblanks, hx⟩
  · exact absurd (joint_of_blank hblank) h
  · rw [joint_append_cons hblanks hx] at h ⊢
    split_ifs at h ⊢ with hopening
    · exact ⟨blanks, rest, by rw [hopening], List.ne_nil_of_length_pos (by omega), hblanks, rfl⟩
    · exact absurd rfl h

theorem joint_lt_length (h : joint t ≠ 0) : joint t < t.length := by
  obtain ⟨blanks, rest, rfl, -, -, hjoint⟩ := exists_of_joint_ne_zero h
  rw [hjoint, List.length_append, List.length_cons]
  omega

theorem joint_eq_zero (h : ¬HasJoint (']' :: t)) : joint t = 0 := by
  by_contra hne
  obtain ⟨blanks, rest, rfl, hblanks, hall, -⟩ := exists_of_joint_ne_zero hne
  exact h ⟨blanks, hblanks, hall, [], rest, by simp⟩

/-- What stands behind a code point that is not blank does not matter to a joint before it. -/
theorem joint_append {c : Char} (hc : c ∈ u) (hblank : isBlank c = false) (w : Text) :
    joint (u ++ w) = joint u := by
  rcases Text.forall_or_exists_first isBlank u with hall | ⟨blanks, x, rest, rfl, hblanks, hx⟩
  · exact absurd (hall c hc) (Bool.eq_false_iff.1 hblank)
  · rw [List.append_assoc, List.cons_append, joint_append_cons hblanks hx,
      joint_append_cons hblanks hx]

/-! ### Cuts -/

/-- A text without a joint is not cut. -/
theorem cutAfter_of_not_hasJoint (h : ¬HasJoint t) : cutAfter 0 t = [t] := by
  induction t with
  | nil => rfl
  | cons c t ih =>
    have hnone : (if c = ']' then joint t else 0) = 0 := by
      split_ifs with hc
      · exact joint_eq_zero (hc ▸ h)
      · rfl
    have hrest : ¬HasJoint t := fun ⟨blanks, hne, hall, hin⟩ =>
      h ⟨blanks, hne, hall, hin.trans (List.infix_cons (List.infix_refl t))⟩
    rw [cutAfter, hnone, ih hrest]
    rfl

/-- A text that ends with a closing bracket and a text that starts with an opening one are cut apart
at the blanks between them, and each of them where it is cut alone. -/
theorem cutAfter_append (hne : blanks ≠ []) (hblanks : ∀ c ∈ blanks, isBlank c)
    (hw : w.head? = some '[') {done : Nat} (hdone : done ≤ u.length) :
    cutAfter done (u ++ ']' :: (blanks ++ w)) = cutAfter done (u ++ [']']) ++ cutAfter 0 w := by
  obtain ⟨w, rfl⟩ := List.head?_eq_some_iff.1 hw
  induction u generalizing done with
  | nil =>
    obtain rfl : done = 0 := Nat.le_zero.1 hdone
    obtain ⟨n, hn⟩ := Nat.exists_eq_add_one_of_ne_zero (List.length_pos_iff.2 hne).ne'
    have hjoint : joint (blanks ++ '[' :: w) = n + 1 := by
      rw [joint_append_cons hblanks (by decide), if_pos rfl, hn]
    have hbehind : cutAfter (n + 1) (blanks ++ '[' :: w) = cutAfter 0 ('[' :: w) := by
      rw [cutAfter_eq_drop (by simp [hn]), ← hn, List.drop_left]
    rw [List.nil_append, List.nil_append, cutAfter, if_pos rfl, hjoint]
    simp only [hbehind]
    rfl
  | cons c u ih =>
    cases done with
    | succ done => exact ih (Nat.le_of_succ_le_succ hdone)
    | zero =>
      have hmem : ']' ∈ u ++ [']'] := by simp
      have hjoint : joint (u ++ ']' :: (blanks ++ '[' :: w)) = joint (u ++ [']']) := by
        rw [← joint_append hmem (by decide) (blanks ++ '[' :: w)]
        simp
      rw [List.cons_append, List.cons_append, cutAfter, cutAfter, hjoint]
      cases hcut : (if c = ']' then joint (u ++ [']']) else 0) with
      | zero =>
        simp only [ih (Nat.zero_le _)]
        exact Text.consHead_append (cutAfter_ne_nil _ _) _ _
      | succ n =>
        -- The joint ends before the last code point, which is no opening bracket.
        have hle : n + 1 ≤ u.length := by
          split_ifs at hcut
          have hlt : joint (u ++ [']']) < (u ++ [']']).length :=
            joint_lt_length (by rw [hcut]; exact Nat.succ_ne_zero n)
          rw [hcut, List.length_append, List.length_singleton] at hlt
          exact Nat.le_of_lt_succ hlt
        simp only [ih hle]
        rfl

/-- A text is cut exactly where it has a joint. -/
theorem cutAfter_eq_singleton_iff : cutAfter 0 t = [t] ↔ ¬HasJoint t := by
  refine ⟨?_, cutAfter_of_not_hasJoint⟩
  rintro huncut ⟨blanks, hne, hblanks, front, rest, rfl⟩
  have hcut := cutAfter_append hne hblanks (w := '[' :: rest) rfl (Nat.zero_le front.length)
  have hlength := congrArg List.length huncut
  simp only [List.append_assoc, List.cons_append, List.nil_append] at hlength
  rw [hcut, List.length_append, List.length_singleton] at hlength
  have hfront := List.length_pos_iff.2 (cutAfter_ne_nil 0 (front ++ [']']))
  have hrest := List.length_pos_iff.2 (cutAfter_ne_nil 0 ('[' :: rest))
  omega

instance : Decidable (HasJoint t) :=
  decidable_of_iff (cutAfter 0 t ≠ [t]) (by rw [ne_eq, cutAfter_eq_singleton_iff, not_not])

instance : Decidable (IsUncut t) :=
  decidable_of_iff (t.head? = some '[' ∧ t.getLast? = some ']' ∧ ¬HasJoint t)
    ⟨fun ⟨hopens, hcloses, hnone⟩ => ⟨hopens, hcloses, hnone⟩,
      fun h => ⟨h.opens, h.closes, h.noJoint⟩⟩

/-! ### The records of a value -/

/-- Whether a text starts with an opening bracket, blanks aside, if it is not blank. -/
def Opens (t : Text) : Prop :=
  t.trim = [] ∨ t.trim.head? = some '['

/-- Whether a text ends with a closing bracket, blanks aside, if it is not blank. -/
def Closes (t : Text) : Prop :=
  t.trim = [] ∨ t.trim.getLast? = some ']'

instance : Decidable (Opens t) :=
  inferInstanceAs (Decidable (_ ∨ _))

instance : Decidable (Closes t) :=
  inferInstanceAs (Decidable (_ ∨ _))

theorem opens_iff :
    Opens t ↔ t.find? (!isBlank ·) = none ∨ t.find? (!isBlank ·) = some '[' := by
  rw [Opens, ← List.head?_eq_none_iff, Text.head?_trim]

theorem closes_iff :
    Closes t ↔ t.reverse.find? (!isBlank ·) = none ∨ t.reverse.find? (!isBlank ·) = some ']' := by
  rw [Closes, ← List.getLast?_eq_none_iff, Text.getLast?_trim]

theorem Opens.append_space (hu : Opens u) (hw : Opens w) : Opens (u ++ [' '] ++ w) := by
  have hspace : [' '].find? (!isBlank ·) = none := by decide
  rw [opens_iff] at hu hw ⊢
  rw [List.find?_append, List.find?_append, hspace, Option.or_none]
  rcases hu with hu | hu <;> rw [hu]
  · exact hw
  · exact .inr rfl

theorem Closes.append_space (hu : Closes u) (hw : Closes w) : Closes (u ++ [' '] ++ w) := by
  have hspace : [' '].reverse.find? (!isBlank ·) = none := by decide
  rw [closes_iff] at hu hw ⊢
  rw [List.reverse_append, List.reverse_append, List.find?_append, List.find?_append, hspace,
    Option.none_or]
  rcases hw with hw | hw <;> rw [hw]
  · exact hu
  · exact .inr rfl

theorem Opens.join {values : List Text} (h : ∀ value ∈ values, Opens value) :
    Opens (Text.join [' '] values) :=
  Text.join_induction (.inl rfl) (fun _ _ => Opens.append_space) h

theorem Closes.join {values : List Text} (h : ∀ value ∈ values, Closes value) :
    Closes (Text.join [' '] values) :=
  Text.join_induction (.inl rfl) (fun _ _ => Closes.append_space) h

/-- Only the trimmed text matters to its records. -/
theorem splitJoined_congr (h : t.trim = u.trim) : splitJoined t = splitJoined u := by
  rw [splitJoined, h, splitJoined]

theorem splitJoined_of_trim_eq_nil (h : t.trim = []) : splitJoined t = [] := by
  rw [splitJoined, h]
  rfl

/-- A text that ends with a closing bracket and a text that starts with an opening bracket are cut
apart at the space between them. -/
theorem splitJoined_append (hu : Closes u) (hw : Opens w) :
    splitJoined (u ++ [' '] ++ w) = splitJoined u ++ splitJoined w := by
  have hspace : Text.trim [' '] = [] := by decide
  rcases hu with hu | hcloses
  · have htrim : (u ++ [' '] ++ w).trim = w.trim := by
      rw [List.append_assoc, Text.trim_append_of_left hu, Text.trim_append_of_left hspace]
    rw [splitJoined_congr htrim, splitJoined_of_trim_eq_nil hu, List.nil_append]
  rcases hw with hw | hopens
  · have htrim : (u ++ [' '] ++ w).trim = u.trim := by
      rw [Text.trim_append_of_right hw, Text.trim_append_of_right hspace]
    rw [splitJoined_congr htrim, splitJoined_of_trim_eq_nil hw, List.append_nil]
  have hneU : u.trim ≠ [] := fun h => by simp [h] at hcloses
  have hneW : w.trim ≠ [] := fun h => by simp [h] at hopens
  obtain ⟨back, front, hback, hfront, htrim⟩ := Text.exists_trim_append hneU hneW
  have hblanks : ∀ c ∈ back ++ [' '] ++ front, isBlank c := by
    intro c hc
    simp only [List.mem_append, List.mem_singleton] at hc
    rcases hc with (hc | rfl) | hc
    exacts [hback c hc, by decide, hfront c hc]
  obtain ⟨start, hstart⟩ := List.getLast?_eq_some_iff.1 hcloses
  have hcut := cutAfter_append (by simp) hblanks hopens (Nat.zero_le start.length)
  rw [splitJoined, splitJoined, splitJoined, htrim, hstart, ← List.filter_append, ← hcut]
  simp only [List.append_assoc, List.cons_append, List.nil_append]

theorem readAll_append (hu : Closes u) (hw : Opens w) :
    readAll (u ++ [' '] ++ w) = readAll u ++ readAll w := by
  unfold readAll
  rw [splitJoined_append hu hw, List.filterMap_append]

theorem IsUncut.ne_nil (h : IsUncut t) : t ≠ [] := by
  rintro rfl
  exact absurd h.opens (by simp)

/-- A text between brackets has no blanks around it. -/
theorem trim_of_bracketed (hopens : t.head? = some '[') (hcloses : t.getLast? = some ']') :
    t.trim = t := by
  rw [Text.trim_eq_self_iff, hopens, hcloses]
  simp only [Option.mem_some_iff, forall_eq']
  decide

theorem IsUncut.trim_eq (h : IsUncut t) : t.trim = t :=
  trim_of_bracketed h.opens h.closes

theorem IsUncut.splitJoined_eq (h : IsUncut t) : splitJoined t = [t] := by
  rw [splitJoined, h.trim_eq, cutAfter_of_not_hasJoint h.noJoint]
  simp [h.ne_nil]

theorem Opens.of_isUncut (h : IsUncut t) : Opens t :=
  .inr (h.trim_eq.symm ▸ h.opens)

theorem Closes.of_isUncut (h : IsUncut t) : Closes t :=
  .inr (h.trim_eq.symm ▸ h.closes)

/-- Uncut records come back from the joined text. -/
theorem splitJoined_join {values : List Text} (h : ∀ value ∈ values, IsUncut value) :
    splitJoined (Text.join [' '] values) = values := by
  induction values with
  | nil => rfl
  | cons value values ih =>
    have hvalue := h value List.mem_cons_self
    have hvalues := fun v hv => h v (List.mem_cons_of_mem _ hv)
    cases values with
    | nil => rw [Text.join_singleton, hvalue.splitJoined_eq]
    | cons next rest =>
      have hopens := Opens.join fun v hv => Opens.of_isUncut (hvalues v hv)
      rw [Text.join_cons_cons, splitJoined_append (Closes.of_isUncut hvalue) hopens,
        hvalue.splitJoined_eq, ih hvalues, List.singleton_append]

/-- **Merging rows and cutting records apart are inverse.** If the rows of a key give it uncut
records and empty values only, the records of its merged value are the distinct ones of these in
order of first appearance. More generally, the records of two trimmed texts with a space between
them are those of the one and then those of the other, if the one ends with a closing bracket and
the other starts with an opening one. -/
theorem splitJoined_lookup {rows : List (Text × Text)} {key : Text}
    (hvalues : ∀ value, (key, value) ∈ rows → value = [] ∨ IsUncut value) :
    splitJoined ((Lexicon.ofRows rows).lookup key) = (Lexicon.given rows key).eraseDups ∧
    ∀ u w : Text, u.trim = u → w.trim = w → u.getLast? = some ']' → w.head? = some '[' →
      splitJoined (u ++ ' ' :: w) = splitJoined u ++ splitJoined w ∧
      readAll (u ++ ' ' :: w) = readAll u ++ readAll w := by
  constructor
  · rw [Lexicon.lookup_ofRows]
    refine splitJoined_join fun value hvalue => ?_
    obtain ⟨hrow, hne⟩ := Lexicon.mem_given.1 (List.mem_eraseDups.1 hvalue)
    exact (hvalues value hrow).resolve_left hne
  · intro u w hu hw hcloses hopens
    have hu : Closes u := .inr (hu.symm ▸ hcloses)
    have hw : Opens w := .inr (hw.symm ▸ hopens)
    rw [List.append_cons]
    exact ⟨splitJoined_append hu hw, readAll_append hu hw⟩

/-- Brackets and blanks inside a record do not cut it, and a value that is given again or empty adds
nothing. -/
theorem splitJoined_lookup_twoRecords :
    let rows := [(['中'], "[{口 一}丨,[k] ,x]".toList), (['国'], "[囗] [王]".toList), (['中'], []),
      (['中'], "[口][丨]".toList), (['中'], "[{口 一}丨,[k] ,x]".toList)]
    splitJoined ((Lexicon.ofRows rows).lookup ['中']) =
        ["[{口 一}丨,[k] ,x]".toList, "[口][丨]".toList] ∧
      splitJoined "[口] [丨] [王]".toList = splitJoined "[口] [丨]".toList ++ [['[', '王', ']']] := by
  intro rows
  have hall : ∀ row ∈ rows, row.1 = ['中'] → row.2 = [] ∨ IsUncut row.2 := by decide
  have hvalues (value : Text) (hrow : (['中'], value) ∈ rows) : value = [] ∨ IsUncut value :=
    hall _ hrow rfl
  obtain ⟨hmerged, happend⟩ := splitJoined_lookup hvalues
  refine ⟨by rw [hmerged]; decide, ?_⟩
  exact (happend "[口] [丨]".toList "[王]".toList (by decide) (by decide) (by decide)
    (by decide)).1

end GlyphGloss.Record
