import GlyphGloss.Failure
import Mathlib.Tactic.Common

/-!
# Formulas and their texts

A formula and its text say the same. The 26 letters of an alphabet name 26 positions, 20 from the
start and six from the end, so that zero is named by none; a text of letter pairs names one
extraction after the other, and no other text is read. Writing and reading undo each other.

## Main definitions

* `Position.IsNamed`: the positions that letters name.
* `Formula.LetterPairs`: the texts that are made of letter pairs.

## Main results

* `Position.letter_of_ofLetter?`, `Position.ofLetter?_letter`: letters and positions.
* `Formula.exists_pairs?_iff`: the texts that are read.
* `Formula.read_encode`: reading and writing formulas.
-/

namespace GlyphGloss

/-- The code point of a number that has one has this number. -/
theorem toNat_ofNat {n : Nat} (h : n.isValidChar) : (Char.ofNat n).toNat = n := by
  rw [Char.ofNat, dif_pos h]
  rfl

/-! ### Positions -/

namespace Position

/-- A position that a letter names: one of the first 20, or one of the last six. -/
def IsNamed (p : Int) : Prop :=
  (1 ≤ p ∧ p ≤ 20) ∨ (-6 ≤ p ∧ p ≤ -1)

instance (p : Int) : Decidable (IsNamed p) :=
  inferInstanceAs (Decidable (_ ∨ _))

variable {first c : Char} {p : Int}

theorem IsNamed.ne_zero (h : IsNamed p) : p ≠ 0 := by
  rcases h with h | h <;> omega

/-- The letters that name positions are the 26 letters of the alphabet. -/
theorem exists_ofLetter?_iff :
    (∃ p, ofLetter? first c = some p) ↔
      first.toNat ≤ c.toNat ∧ c.toNat < first.toNat + 26 := by
  unfold ofLetter?
  dsimp only
  split_ifs with hout hforward
  · simp only [exists_false, false_iff]
    omega
  · simp only [Option.some.injEq, exists_eq', true_iff]
    omega
  · simp only [Option.some.injEq, exists_eq', true_iff]
    omega

/-- A position that a letter names is written with that letter. -/
theorem letter_of_ofLetter? (h : ofLetter? first c = some p) :
    IsNamed p ∧ letter first p = c := by
  unfold ofLetter? at h
  dsimp only at h
  split_ifs at h with hout hforward
  · have hletter : first.toNat + (p - 1).toNat = c.toNat := by
      cases h
      omega
    rw [forward] at hforward
    have hp : 1 ≤ p ∧ p ≤ 20 := by
      cases h
      omega
    rw [letter, if_pos (by omega), hletter, Char.ofNat_toNat]
    exact ⟨.inl hp, rfl⟩
  · rw [forward] at hforward
    have hletter : first.toNat + (p + 26).toNat = c.toNat := by
      cases h
      omega
    have hp : -6 ≤ p ∧ p ≤ -1 := by
      cases h
      omega
    rw [letter, if_neg (by omega), hletter, Char.ofNat_toNat]
    exact ⟨.inr hp, rfl⟩

/-- The letter of a position names it, in an alphabet of the lowest code points. -/
theorem ofLetter?_letter (hfirst : first.toNat < 128) (h : IsNamed p) :
    ofLetter? first (letter first p) = some p := by
  -- The 26 positions from the first one on, in the order of the alphabet.
  let n := (if 0 < p then p - 1 else p + 26).toNat
  have hn : n < 26 ∧ p = if n < 20 then (n : Int) + 1 else n - 26 := by
    rcases h with h | h <;> dsimp only [n] <;> split_ifs <;> omega
  have hletter : (letter first p).toNat = first.toNat + n :=
    toNat_ofNat (.inl (by omega))
  rw [ofLetter?, hletter, if_neg (by omega), Nat.add_sub_cancel_left, hn.2, forward]
  split_ifs <;> rfl

end Position

/-- An extraction whose positions are named by letters. -/
def Instruction.IsNamed (i : Instruction) : Prop :=
  Position.IsNamed i.character ∧ Position.IsNamed i.component

instance (i : Instruction) : Decidable i.IsNamed :=
  inferInstanceAs (Decidable (_ ∧ _))

/-! ### Letter pairs -/

namespace Formula

/-- A text of letter pairs, an upper-case letter with a lower-case one each. -/
inductive LetterPairs : Text → Prop where
  | nil : LetterPairs []
  | cons {upper lower : Char} {t : Text} (hupper : upper.isUpper) (hlower : lower.isLower)
      (ht : LetterPairs t) : LetterPairs (upper :: lower :: t)

variable {s t : Text} {f g : Formula}

theorem exists_upper_iff {c : Char} :
    (∃ p, Position.ofLetter? 'A' c = some p) ↔ c.isUpper := by
  change _ ↔ decide (c.val ≥ 'A'.val ∧ c.val ≤ 'Z'.val) = true
  rw [Position.exists_ofLetter?_iff, decide_eq_true_iff]
  exact and_congr_right fun _ => Nat.lt_succ_iff

theorem exists_lower_iff {c : Char} :
    (∃ p, Position.ofLetter? 'a' c = some p) ↔ c.isLower := by
  change _ ↔ (decide (c.val ≥ 'a'.val) && decide (c.val ≤ 'z'.val)) = true
  rw [Position.exists_ofLetter?_iff, Bool.and_eq_true, decide_eq_true_iff, decide_eq_true_iff]
  exact and_congr_right fun _ => Nat.lt_succ_iff

theorem pairs?_cons_cons_eq_some_iff {upper lower : Char} :
    pairs? (upper :: lower :: t) = some f ↔
      ∃ p, Position.ofLetter? 'A' upper = some p ∧
        ∃ q, Position.ofLetter? 'a' lower = some q ∧
          ∃ more, pairs? t = some more ∧ f = ⟨p, q⟩ :: more := by
  simp only [pairs?, Option.bind_eq_bind, Option.bind_eq_some_iff, Option.pure_def,
    Option.some.injEq, @eq_comm _ f]

/-- The texts that can be read are those of letter pairs. -/
theorem exists_pairs?_iff : (∃ f, pairs? t = some f) ↔ LetterPairs t := by
  constructor
  · rintro ⟨f, h⟩
    fun_induction pairs? t generalizing f with
    | case1 => exact .nil
    | case2 => cases h
    | case3 upper lower rest ih =>
      obtain ⟨p, hp, q, hq, more, hmore, -⟩ := pairs?_cons_cons_eq_some_iff.1 h
      exact .cons (exists_upper_iff.1 ⟨p, hp⟩) (exists_lower_iff.1 ⟨q, hq⟩) (ih more hmore)
  · intro h
    induction h with
    | nil => exact ⟨[], rfl⟩
    | cons hupper hlower _ ih =>
      obtain ⟨p, hp⟩ := exists_upper_iff.2 hupper
      obtain ⟨q, hq⟩ := exists_lower_iff.2 hlower
      obtain ⟨more, hmore⟩ := ih
      exact ⟨⟨p, q⟩ :: more, pairs?_cons_cons_eq_some_iff.2 ⟨p, hp, q, hq, more, hmore, rfl⟩⟩

theorem pairs?_encode (h : ∀ i ∈ f, i.IsNamed) : pairs? (encode f) = some f := by
  induction f with
  | nil => rfl
  | cons i f ih =>
    obtain ⟨hcharacter, hcomponent⟩ := h i List.mem_cons_self
    exact pairs?_cons_cons_eq_some_iff.2
      ⟨_, Position.ofLetter?_letter (by decide) hcharacter,
        _, Position.ofLetter?_letter (by decide) hcomponent,
        f, ih fun j hj => h j (List.mem_cons_of_mem _ hj), rfl⟩

/-- A text that is read is the one that its formula is written as. -/
theorem encode_of_pairs? (h : pairs? t = some f) : (∀ i ∈ f, i.IsNamed) ∧ encode f = t := by
  fun_induction pairs? t generalizing f with
  | case1 =>
    cases h
    exact ⟨fun i hi => absurd hi List.not_mem_nil, rfl⟩
  | case2 => cases h
  | case3 upper lower rest ih =>
    obtain ⟨p, hp, q, hq, more, hmore, rfl⟩ := pairs?_cons_cons_eq_some_iff.1 h
    obtain ⟨hcharacter, hupper⟩ := Position.letter_of_ofLetter? hp
    obtain ⟨hcomponent, hlower⟩ := Position.letter_of_ofLetter? hq
    obtain ⟨hnamed, hrest⟩ := ih hmore
    refine ⟨List.forall_mem_cons.2 ⟨⟨hcharacter, hcomponent⟩, hnamed⟩, ?_⟩
    rw [encode, List.flatMap_cons, hupper, hlower]
    exact congrArg (upper :: lower :: ·) hrest

/-! ### Formulas that are read -/

theorem read_eq_ok_iff {v : Value} :
    read v = .ok f ↔ ∃ t, v = .text t ∧ t ≠ [] ∧ pairs? t = some f := by
  have hread : read v = .ok f ↔ ofValue? v = some f := by
    unfold read
    cases ofValue? v <;> simp
  rw [hread]
  unfold ofValue?
  split
  · next t =>
    rw [parse?]
    cases t <;> simp
  · next hscalar =>
    simp only [reduceCtorEq, false_iff, not_exists, not_and]
    exact fun t ht => absurd ht (hscalar t)

theorem read_text_eq_ok_iff : read (.text t) = .ok f ↔ t ≠ [] ∧ pairs? t = some f := by
  simp [read_eq_ok_iff]

/-- **Formulas are what letter pairs write.** A value is read as a formula exactly if it is a text
of one letter pair or more, and is refused as a wrong value else. Every formula of one extraction or
more with positions that letters name is written as a text that is read as this formula, and every
text that is read is written again by its formula, which is of this kind. So no position is zero.
Texts that are read can be put together. -/
theorem read_encode :
    (∀ v, (∃ f, read v = .ok f) ↔ ∃ t, v = .text t ∧ t ≠ [] ∧ LetterPairs t) ∧
    (∀ v cause, read v = .error cause → cause.kind = .wrongValue) ∧
    (∀ f : Formula, f ≠ [] → (∀ i ∈ f, i.IsNamed) → read (.text (encode f)) = .ok f) ∧
    (∀ t f, read (.text t) = .ok f → f ≠ [] ∧ (∀ i ∈ f, i.IsNamed) ∧ encode f = t) ∧
    (∀ v f, read v = .ok f → ∀ i ∈ f, i.character ≠ 0 ∧ i.component ≠ 0) ∧
    ∀ s t f g, read (.text s) = .ok f → read (.text t) = .ok g →
      read (.text (s ++ t)) = .ok (f ++ g) := by
  refine ⟨fun v => ?_, fun v cause h => ?_, fun f hne hnamed => ?_, fun t f h => ?_,
    fun v f h i hi => ?_, fun s t f g hs ht => ?_⟩
  · simp only [read_eq_ok_iff, ← exists_pairs?_iff]
    rw [exists_comm]
    simp only [exists_and_left]
  · unfold read at h
    split at h <;> cases h
    rfl
  · refine read_text_eq_ok_iff.2 ⟨?_, pairs?_encode hnamed⟩
    obtain ⟨i, f, rfl⟩ := List.exists_cons_of_ne_nil hne
    exact List.cons_ne_nil _ _
  · obtain ⟨hne, hpairs⟩ := read_text_eq_ok_iff.1 h
    obtain ⟨hnamed, hencode⟩ := encode_of_pairs? hpairs
    refine ⟨?_, hnamed, hencode⟩
    rintro rfl
    exact hne hencode.symm
  · obtain ⟨t, -, -, hpairs⟩ := read_eq_ok_iff.1 h
    obtain ⟨hcharacter, hcomponent⟩ := (encode_of_pairs? hpairs).1 i hi
    exact ⟨hcharacter.ne_zero, hcomponent.ne_zero⟩
  · obtain ⟨hne, hs⟩ := read_text_eq_ok_iff.1 hs
    obtain ⟨-, ht⟩ := read_text_eq_ok_iff.1 ht
    exact read_text_eq_ok_iff.2 ⟨fun h => hne (List.append_eq_nil_iff.1 h).1, pairs?_append hs ht⟩

/-- The letters on both sides of the place where the count turns around. -/
theorem read_encode_turn :
    encode [⟨20, -6⟩, ⟨-1, 1⟩] = "TuZa".toList ∧
      read (.text "TuZa".toList) = .ok [⟨20, -6⟩, ⟨-1, 1⟩] ∧
      read (.text "TuZaAz".toList) = .ok [⟨20, -6⟩, ⟨-1, 1⟩, ⟨1, -1⟩] := by
  obtain ⟨-, -, hwritten, -, -, hjoined⟩ := read_encode
  have hencode : encode [⟨20, -6⟩, ⟨-1, 1⟩] = "TuZa".toList := by decide
  have hfirst := hwritten [⟨20, -6⟩, ⟨-1, 1⟩] (by decide) (by decide)
  rw [hencode] at hfirst
  have hsecond := hwritten [⟨1, -1⟩] (by decide) (by decide)
  exact ⟨hencode, hfirst, hjoined _ _ _ _ hfirst hsecond⟩

end Formula

end GlyphGloss
