import GlyphGloss.Proofs.Text
import GlyphGloss.Record.Component

/-!
# The components of a text and the text of its components

Whether an opening brace opens a unit depends on what follows it, as far as the next brace. All the
same a text can be taken apart from its start: it is made of blanks, of units, and of single code
points, an opening brace among these being one that opens no unit. Taking a text apart loses its
blanks only, and these do not matter, since the first brace behind an opening one stays the first
one without them. Units and code points other than braces are components wherever they stand.

## Main definitions

* `Component.IsName`, `Component.IsToken`, `Component.IsAtom`: the names of units, what components
  can be, and what is a component wherever it stands.
* `Component.Layout`: texts in a row with blanks around them.
* `Component.IsBraced`: the texts whose braces all belong to units.

## Main results

* `Component.induction_on`: induction along the components of a text.
* `Component.layout_split`: a text is its components in a row.
* `Component.split_flatten_split`: the blanks between components do not matter.
* `Component.split_of_layout`: atoms in a row are taken apart again.
* `Component.isBraced_iff`: every brace belongs to a unit if none is a component by itself.
* `Component.split_tokens`: the components of a text, and the texts with given components.
-/

namespace GlyphGloss.Component

variable {c : Char} {t name blanks atom : Text} {atoms tokens : List Text}

/-! ### Units -/

theorem isBrace_eq_false_iff : isBrace c = false ↔ c ≠ '{' ∧ c ≠ '}' := by
  simp [isBrace]

theorem isBrace_eq_false_of_blank (h : isBlank c) : isBrace c = false := by
  rw [isBrace_eq_false_iff]
  constructor <;> rintro rfl <;> exact absurd h (by decide)

/-- A name that a unit can have. -/
structure IsName (name : Text) : Prop where
  /-- It is not empty. -/
  ne_nil : name ≠ []
  /-- It has no braces. -/
  noBrace : ∀ c ∈ name, isBrace c = false

instance : DecidablePred IsName := fun name =>
  decidable_of_iff (name ≠ [] ∧ name.all (!isBrace ·))
    ⟨fun ⟨hne, hbrace⟩ => ⟨hne, by simpa using hbrace⟩,
      fun h => ⟨h.ne_nil, by simpa using h.noBrace⟩⟩

theorem unit_append (name rest : Text) : unit name ++ rest = '{' :: (name ++ '}' :: rest) := by
  simp [unit]

/-- What is read as the name of a unit is a name with a closing brace behind it. -/
theorem unitName?_eq_some_iff :
    unitName? t = some name ↔ IsName name ∧ ∃ rest, t = name ++ '}' :: rest := by
  simp only [unitName?, Option.ite_none_right_eq_some, Option.some.injEq]
  constructor
  · rintro ⟨⟨hne, hclosing⟩, hname⟩
    have hsplit : name ++ t.dropWhile (!isBrace ·) = t := by
      rw [← hname, List.takeWhile_append_dropWhile]
    rw [hname] at hne hclosing
    rw [← hsplit, List.getElem?_append_right le_rfl, Nat.sub_self,
      ← List.head?_eq_getElem?] at hclosing
    obtain ⟨rest, hrest⟩ := List.head?_eq_some_iff.1 hclosing
    refine ⟨⟨hne, fun c hc => ?_⟩, rest, by rw [← hrest, hsplit]⟩
    rw [← hname] at hc
    simpa using List.mem_takeWhile_imp hc
  · rintro ⟨hname, rest, rfl⟩
    have htake : (name ++ '}' :: rest).takeWhile (!isBrace ·) = name :=
      Text.takeWhile_append_cons (fun c hc => by simp [hname.noBrace c hc]) (by decide) rest
    simp [htake, hname.ne_nil]

/-- A name is read where the first brace is a closing one that has something in front of it. -/
theorem unitName?_eq_none_iff :
    unitName? t = none ↔ t.find? isBrace ≠ some '}' ∨ t.head? = some '}' := by
  rw [← not_iff_not, ← ne_eq, Option.ne_none_iff_exists', not_or, not_ne_iff]
  simp only [unitName?_eq_some_iff]
  constructor
  · rintro ⟨name, hname, rest, rfl⟩
    have hnone : name.find? isBrace = none := by
      rw [List.find?_eq_none]
      exact fun c hc => Bool.eq_false_iff.1 (hname.noBrace c hc)
    refine ⟨by rw [List.find?_append, hnone]; rfl, fun hhead => ?_⟩
    rw [List.head?_append_of_ne_nil _ hname.ne_nil] at hhead
    exact absurd (hname.noBrace _ (List.mem_of_head? hhead)) (by decide)
  · rintro ⟨hfind, hhead⟩
    obtain ⟨-, name, rest, rfl, hname⟩ := List.find?_eq_some_iff_append.1 hfind
    refine ⟨name, ⟨?_, fun c hc => by simpa using hname c hc⟩, rest, rfl⟩
    rintro rfl
    exact hhead rfl

/-! ### One component at a time -/

/-- Every text is made of blanks, units and single code points, which open no unit. -/
@[elab_as_elim]
theorem induction_on {P : Text → Prop} (t : Text) (nil : P [])
    (blank : ∀ c rest, isBlank c → P rest → P (c :: rest))
    (unit : ∀ name rest, IsName name → P rest → P (unit name ++ rest))
    (single : ∀ c rest, isBlank c = false → (c = '{' → unitName? rest = none) → P rest →
      P (c :: rest)) : P t := by
  induction hlength : t.length using Nat.strong_induction_on generalizing t with
  | _ n ih =>
    cases t with
    | nil => exact nil
    | cons c rest =>
      subst hlength
      have hrest : P rest := ih _ (Nat.lt_succ_self _) rest rfl
      cases hblank : isBlank c with
      | true => exact blank c rest hblank hrest
      | false =>
        by_cases hunit : c = '{' ∧ unitName? rest ≠ none
        · obtain ⟨rfl, hne⟩ := hunit
          obtain ⟨name, hread⟩ := Option.ne_none_iff_exists'.1 hne
          obtain ⟨hname, rest, rfl⟩ := unitName?_eq_some_iff.1 hread
          rw [← unit_append]
          refine unit name rest hname (ih _ ?_ rest rfl)
          simp only [List.length_cons, List.length_append]
          omega
        · exact single c rest hblank (fun hc => not_not.1 fun hne => hunit ⟨hc, hne⟩) hrest

theorem split_cons_of_blank (h : isBlank c) (rest : Text) : split (c :: rest) = split rest := by
  have hopening : c ≠ '{' := by
    rintro rfl
    exact absurd h (by decide)
  rw [split_cons, if_neg hopening]
  exact if_pos h

theorem split_unit_append (h : IsName name) (rest : Text) :
    split (unit name ++ rest) = unit name :: split rest := by
  rw [unit_append, split_cons, if_pos rfl, unitName?_eq_some_iff.2 ⟨h, rest, rfl⟩]
  simp

theorem split_cons_of_single (hblank : isBlank c = false)
    (hstray : c = '{' → unitName? rest = none) : split (c :: rest) = [c] :: split rest := by
  have hnone : (if c = '{' then unitName? rest else none) = none := by
    split_ifs with hopening
    · exact hstray hopening
    · rfl
  rw [split_cons, hnone]
  exact if_neg (Bool.eq_false_iff.1 hblank)

/-! ### Tokens -/

/-- The texts that components can be. -/
inductive IsToken : Text → Prop
  /-- A single code point that is not blank. -/
  | single {c : Char} (hblank : isBlank c = false) : IsToken [c]
  /-- A unit. -/
  | unit {name : Text} (hname : IsName name) : IsToken (unit name)

/-- Every component is a unit or a single code point that is not blank. -/
theorem isToken_of_mem_split (t : Text) : ∀ token ∈ split t, IsToken token := by
  induction t using induction_on with
  | nil => exact nofun
  | blank c rest hblank ih => rwa [split_cons_of_blank hblank]
  | unit name rest hname ih =>
    rw [split_unit_append hname]
    exact List.forall_mem_cons.2 ⟨.unit hname, ih⟩
  | single c rest hblank hstray ih =>
    rw [split_cons_of_single hblank hstray]
    exact List.forall_mem_cons.2 ⟨.single hblank, ih⟩

/-- Texts in a row, with any blanks between them, before the first and behind the last one. -/
inductive Layout : List Text → Text → Prop
  | nil {blanks : Text} (hblanks : ∀ c ∈ blanks, isBlank c) : Layout [] blanks
  | cons {blanks token rest : Text} {tokens : List Text} (hblanks : ∀ c ∈ blanks, isBlank c)
      (hrest : Layout tokens rest) : Layout (token :: tokens) (blanks ++ token ++ rest)

theorem Layout.cons_blank (hblank : isBlank c) (h : Layout tokens t) : Layout tokens (c :: t) := by
  cases h with
  | nil hblanks => exact .nil (List.forall_mem_cons.2 ⟨hblank, hblanks⟩)
  | cons hblanks hrest => exact .cons (List.forall_mem_cons.2 ⟨hblank, hblanks⟩) hrest

/-- A text in a row stands in what the row is laid out as. -/
theorem Layout.infix_of_mem {token : Text} (h : Layout tokens t) (hmem : token ∈ tokens) :
    token <:+: t := by
  induction h with
  | nil => exact absurd hmem List.not_mem_nil
  | @cons blanks first rest _ _ _ ih =>
    rcases List.mem_cons.1 hmem with rfl | hmem
    · exact List.infix_append _ _ _
    · exact (ih hmem).trans (List.suffix_append _ _).isInfix

theorem Layout.cons_self (h : Layout tokens t) (token : Text) :
    Layout (token :: tokens) (token ++ t) :=
  @Layout.cons [] token t tokens nofun h

/-- A text is its components in a row, with blanks between them. -/
theorem layout_split (t : Text) : Layout (split t) t := by
  induction t using induction_on with
  | nil => exact .nil nofun
  | blank c rest hblank ih =>
    rw [split_cons_of_blank hblank]
    exact ih.cons_blank hblank
  | unit name rest hname ih =>
    rw [split_unit_append hname]
    exact ih.cons_self _
  | single c rest hblank hstray ih =>
    rw [split_cons_of_single hblank hstray]
    exact ih.cons_self [c]

/-- A component holds code points of its field only. -/
theorem mem_of_mem_split {token : Text} (h : token ∈ split t) (hc : c ∈ token) : c ∈ t :=
  ((layout_split t).infix_of_mem h).subset hc

/-- Only blank texts have no components. -/
theorem split_eq_nil_iff : split t = [] ↔ ∀ c ∈ t, isBlank c := by
  induction t using induction_on with
  | nil => simp
  | blank c rest hblank ih =>
    rw [split_cons_of_blank hblank, ih, List.forall_mem_cons, and_iff_right hblank]
  | unit name rest hname ih =>
    rw [split_unit_append hname]
    have hopening : ¬isBlank '{' := by decide
    simp [unit, hopening]
  | single c rest hblank hstray ih =>
    rw [split_cons_of_single hblank hstray]
    simp [hblank]

/-! ### The first brace -/

/-- A text and its components have the same first brace. -/
theorem find?_flatten_split (t : Text) : (split t).flatten.find? isBrace = t.find? isBrace := by
  induction t using induction_on with
  | nil => rfl
  | blank c rest hblank ih =>
    rw [split_cons_of_blank hblank, ih, List.find?_cons, isBrace_eq_false_of_blank hblank]
  | unit name rest hname ih =>
    rw [split_unit_append hname, List.flatten_cons, unit_append, unit_append]
    rfl
  | single c rest hblank hstray ih =>
    rw [split_cons_of_single hblank hstray, List.flatten_cons, List.singleton_append,
      List.find?_cons, List.find?_cons, ih]

/-- Without its blanks a text has no further name in front. -/
theorem unitName?_flatten_split (h : unitName? t = none) :
    unitName? (split t).flatten = none := by
  rw [unitName?_eq_none_iff] at h ⊢
  rw [find?_flatten_split]
  refine h.imp_right fun hhead => ?_
  obtain ⟨rest, rfl⟩ := List.head?_eq_some_iff.1 hhead
  rw [split_cons_of_single (by decide) fun hopening => absurd hopening (by decide)]
  rfl

/-- The components of a text without its blanks are the same. -/
theorem split_flatten_split (t : Text) : split (split t).flatten = split t := by
  induction t using induction_on with
  | nil => rfl
  | blank c rest hblank ih => rw [split_cons_of_blank hblank, ih]
  | unit name rest hname ih =>
    rw [split_unit_append hname, List.flatten_cons, split_unit_append hname, ih]
  | single c rest hblank hstray ih =>
    rw [split_cons_of_single hblank hstray, List.flatten_cons, List.singleton_append,
      split_cons_of_single hblank fun hc => unitName?_flatten_split (hstray hc), ih]

/-! ### Atoms -/

/-- The texts that are components wherever they stand. -/
inductive IsAtom : Text → Prop
  /-- A single code point that is neither blank nor a brace. -/
  | single {c : Char} (hblank : isBlank c = false) (hbrace : isBrace c = false) : IsAtom [c]
  /-- A unit. -/
  | unit {name : Text} (hname : IsName name) : IsAtom (unit name)

/-- An atom is the first component of a text that starts with it. -/
theorem IsAtom.split_append (h : IsAtom atom) (rest : Text) :
    split (atom ++ rest) = atom :: split rest := by
  cases h with
  | single hblank hbrace =>
    refine split_cons_of_single hblank ?_
    rintro rfl
    exact absurd hbrace (by decide)
  | unit hname => exact split_unit_append hname rest

theorem split_append_of_blank (hblanks : ∀ c ∈ blanks, isBlank c) (t : Text) :
    split (blanks ++ t) = split t := by
  induction blanks with
  | nil => rfl
  | cons c blanks ih =>
    rw [List.forall_mem_cons] at hblanks
    rw [List.cons_append, split_cons_of_blank hblanks.1, ih hblanks.2]

/-- Atoms in a row, with any blanks between them, are the components of the text. -/
theorem split_of_layout (hatoms : ∀ atom ∈ atoms, IsAtom atom) (h : Layout atoms t) :
    split t = atoms := by
  induction h with
  | nil hblanks => exact split_eq_nil_iff.2 hblanks
  | cons hblanks hrest ih =>
    rw [List.forall_mem_cons] at hatoms
    rw [List.append_assoc, split_append_of_blank hblanks, hatoms.1.split_append, ih hatoms.2]

/-- Without any blanks between them, too. -/
theorem split_flatten (hatoms : ∀ atom ∈ atoms, IsAtom atom) : split atoms.flatten = atoms := by
  refine split_of_layout hatoms ?_
  clear hatoms
  induction atoms with
  | nil => exact .nil nofun
  | cons atom atoms ih => exact ih.cons_self atom

/-- The texts that are made of units and of code points other than braces, so that every brace
belongs to a unit. -/
inductive IsBraced : Text → Prop
  | nil : IsBraced []
  | cons {c : Char} {t : Text} (hc : isBrace c = false) (ht : IsBraced t) : IsBraced (c :: t)
  | unit {name t : Text} (hname : IsName name) (ht : IsBraced t) : IsBraced (unit name ++ t)

theorem unit_ne_singleton (name : Text) (c : Char) : unit name ≠ [c] := by
  simp [unit]

/-- Every brace belongs to a unit exactly if no brace is a component by itself. -/
theorem isBraced_iff : IsBraced t ↔ ['{'] ∉ split t ∧ ['}'] ∉ split t := by
  constructor
  · intro h
    induction h with
    | nil => simp
    | @cons c t hc _ ih =>
      have hne := isBrace_eq_false_iff.1 hc
      cases hblank : isBlank c with
      | true => rwa [split_cons_of_blank hblank]
      | false =>
        rw [split_cons_of_single hblank fun hopening => absurd hopening hne.1]
        simpa [hne.1.symm, hne.2.symm] using ih
    | unit hname _ ih =>
      rw [split_unit_append hname]
      simpa [(unit_ne_singleton _ _).symm] using ih
  · intro h
    induction t using induction_on with
    | nil => exact .nil
    | blank c rest hblank ih =>
      rw [split_cons_of_blank hblank] at h
      exact .cons (isBrace_eq_false_of_blank hblank) (ih h)
    | unit name rest hname ih =>
      rw [split_unit_append hname, List.mem_cons, List.mem_cons, not_or, not_or] at h
      exact .unit hname (ih ⟨h.1.2, h.2.2⟩)
    | single c rest hblank hstray ih =>
      rw [split_cons_of_single hblank hstray, List.mem_cons, List.mem_cons, not_or, not_or] at h
      have hc : isBrace c = false :=
        isBrace_eq_false_iff.2 ⟨fun hc => h.1.1 (by rw [hc]), fun hc => h.2.1 (by rw [hc])⟩
      exact .cons hc (ih ⟨h.1.2, h.2.2⟩)

instance : DecidablePred IsBraced := fun t =>
  decidable_of_iff (∀ token ∈ split t, token ≠ ['{'] ∧ token ≠ ['}']) <| by
    rw [isBraced_iff, forall₂_and]
    exact and_congr List.forall_mem_ne' List.forall_mem_ne'

/-- Where every brace belongs to a unit, the components are atoms. -/
theorem IsBraced.isAtom_of_mem_split (h : IsBraced t) : ∀ atom ∈ split t, IsAtom atom := by
  intro atom hmem
  obtain ⟨hopening, hclosing⟩ := isBraced_iff.1 h
  cases isToken_of_mem_split t atom hmem with
  | unit hname => exact .unit hname
  | @single c hblank =>
    refine .single hblank (isBrace_eq_false_iff.2 ⟨?_, ?_⟩) <;> rintro rfl
    exacts [hopening hmem, hclosing hmem]

/-- **Components and the text around them.** Every component is a unit or a single code point that
is not blank. A text is its components in a row with nothing but blanks around them, so that it has
none exactly if it is blank, and without these blanks it has the same components. The other way
round, units and code points other than braces, in a row with any blanks around them, are the
components of the text that they make. -/
theorem split_tokens (t : Text) :
    (∀ token ∈ split t, IsToken token) ∧
    Layout (split t) t ∧
    (split t = [] ↔ ∀ c ∈ t, isBlank c) ∧
    split (split t).flatten = split t ∧
    ∀ atoms u, (∀ atom ∈ atoms, IsAtom atom) → Layout atoms u → split u = atoms :=
  ⟨isToken_of_mem_split t, layout_split t, split_eq_nil_iff, split_flatten_split t,
    fun _ _ => split_of_layout⟩

/-- Braces that belong to no unit, a unit with a blank in its name, and the unit again in a row with
another component. -/
theorem split_tokens_strayBraces :
    let t := "\t\x7b \x7b四 点\x7d\x7d丶 \x7b\x7d".toList
    let unit := "\x7b四 点\x7d".toList
    split (split t).flatten = [['\x7b'], unit, ['\x7d'], ['丶'], ['\x7b'], ['\x7d']] ∧
      split (['\t'] ++ unit ++ ([' '] ++ ['丶'] ++ ['\u3000'])) = [unit, ['丶']] := by
  intro t unit
  obtain ⟨-, -, -, hsame, hlaid⟩ := split_tokens t
  have hunit : IsAtom unit := @IsAtom.unit "四 点".toList (by decide)
  have hatoms : ∀ atom ∈ [unit, ['丶']], IsAtom atom :=
    List.forall_mem_cons.2 ⟨hunit, List.forall_mem_singleton.2 (.single (by decide) (by decide))⟩
  have hlayout : Layout [unit, ['丶']] (['\t'] ++ unit ++ ([' '] ++ ['丶'] ++ ['\u3000'])) :=
    .cons (List.forall_mem_singleton.2 (by decide)) (.cons (List.forall_mem_singleton.2 (by decide))
      (.nil (List.forall_mem_singleton.2 (by decide))))
  exact ⟨hsame.trans (by decide), hlaid _ _ hatoms hlayout⟩

end GlyphGloss.Component
