import GlyphGloss.Proofs.Options.Movement

/-!
# Places outside the row

A default and a remembered place can be any numbers, so that the place that an option group falls
back on need not be in its row. Whether an action meets that place depends on the flags: cycling and
initializing fall back on it only where no flag is on, and switching remembers another place first
if a flag after "off" is on. Here the actions are followed on any group, whatever its places, its
flags and its names are. A failing switch has already turned "off" off; apart from that an action
that fails changes nothing.

## Main definitions

* `OptionGroup.InRow`: the places of a row, counted from its start or from its end.
* `OptionGroup.leaveOff`: the group with its first flag off.
* `OptionGroup.FailsIf`: an action that fails under a condition only, and what it leaves then.

## Main results

* `OptionGroup.nameAt?_eq_none_iff`: the places without a name are those outside the row.
* `OptionGroup.failsIf_cycle`, `OptionGroup.failsIf_ensureInitialized`,
  `OptionGroup.failsIf_switch`: when each action fails.
* `OptionGroup.failsIf_outside`: when actions fail, and what they leave.
-/

namespace GlyphGloss.OptionGroup

variable {g : OptionGroup} {α : Type} {place : Int} {name off : String} {rest : List String}

/-! ### Places and flags -/

/-- A place of a row of a size: one counted from the start, from one on, or one counted from the
end, from zero down. -/
def InRow (size : Nat) (place : Int) : Prop :=
  -(size : Int) ≤ place - 1 ∧ place - 1 < size

instance (size : Nat) (place : Int) : Decidable (InRow size place) :=
  inferInstanceAs (Decidable (_ ∧ _))

/-- The places without a name are those outside the row. -/
theorem nameAt?_eq_none_iff : g.nameAt? place = none ↔ ¬InRow g.names.length place := by
  unfold nameAt? InRow
  dsimp only
  split_ifs with hstart hinside hinside
  · rw [List.getElem?_eq_none_iff]
    omega
  · omega
  · rw [List.getElem?_eq_none_iff]
    omega
  · simp only [true_iff]
    omega

theorem exists_nameAt?_of_inRow (h : InRow g.names.length place) :
    ∃ name, g.nameAt? place = some name :=
  Option.ne_none_iff_exists'.1 fun hnone => nameAt?_eq_none_iff.1 hnone h

theorem activePlace?_eq_none_iff :
    g.activePlace? = none ↔ ∀ name ∈ g.names, g.isOn name = false := by
  rw [activePlace?, Option.map_eq_none_iff, List.findIdx?_eq_none_iff]

/-- No place is found after the first one exactly if no flag after the first one is on. -/
theorem lastActivePlace?_eq_none_iff (hnames : g.names = off :: rest) :
    g.lastActivePlace? = none ↔ ∀ name ∈ rest, g.isOn name = false := by
  constructor
  · intro h name hname
    obtain ⟨i, hi⟩ := List.mem_iff_getElem?.1 hname
    refine isOn_of_lastActivePlace?_eq_none h i.succ_pos ?_
    rw [hnames, List.getElem?_cons_succ, hi]
  · intro hoff
    by_contra hsome
    obtain ⟨place, hplace⟩ := Option.ne_none_iff_exists'.1 hsome
    obtain ⟨name, htwo, hname, hon⟩ := exists_of_lastActivePlace?_eq_some hplace
    obtain ⟨i, rfl⟩ : ∃ i, place = i + 2 := ⟨place - 2, by omega⟩
    rw [hnames, Nat.add_succ_sub_one, List.getElem?_cons_succ] at hname
    exact absurd hon (Bool.eq_false_iff.1 (hoff name (List.mem_of_getElem? hname)))

/-- The group with its first flag off, which stays as it is if it was not on. -/
def leaveOff (g : OptionGroup) : OptionGroup :=
  match g.names.head?.filter g.isOn with
  | some off => g.set off false
  | none => g

theorem leaveOff_eq (hnames : g.names = off :: rest) :
    g.leaveOff = if g.isOn off then g.set off false else g := by
  rw [leaveOff, hnames, List.head?_cons, Option.filter_some]
  split_ifs <;> rfl

/-- Only the first flag is turned off, and only if it was on. -/
theorem state?_leaveOff (g : OptionGroup) (name : String) :
    g.leaveOff.state? name =
      if g.names.head? = some name ∧ g.isOn name then some false else g.state? name := by
  unfold leaveOff
  cases hfirst : g.names.head?.filter g.isOn with
  | none =>
    rw [if_neg]
    rintro ⟨hname, hon⟩
    simp [hname, hon] at hfirst
  | some off =>
    obtain ⟨hoff, hon⟩ := Option.filter_eq_some_iff.1 hfirst
    rw [state?_set, hoff]
    by_cases hname : off = name
    · subst hname
      simp [hon]
    · simp [hname]

theorem saved_leaveOff (g : OptionGroup) : g.leaveOff.saved = g.saved := by
  unfold leaveOff
  split <;> rfl

/-! ### When actions fail -/

/-- An action that fails under a condition only, and what it leaves behind then. -/
structure FailsIf (came : OptionGroup × Except OptionError α) (condition : Prop)
    (left : OptionGroup) : Prop where
  /-- Under the condition it fails. -/
  fails : condition → came = (left, .error .placeOutside)
  /-- Otherwise it comes to a result. -/
  succeeds : ¬condition → ∃ result, came.2 = .ok result

/-- What comes to a result fails under a condition that does not hold. -/
theorem FailsIf.of_ok {came : OptionGroup × Except OptionError α} {condition : Prop}
    (h : ∃ result, came.2 = .ok result) (hnot : ¬condition) (left : OptionGroup) :
    FailsIf came condition left :=
  ⟨fun hcondition => absurd hcondition hnot, fun _ => h⟩

/-- Landing outside the row fails and changes nothing. -/
theorem failsIf_land (g : OptionGroup) (place : Int) :
    FailsIf (g.land place) (¬InRow g.names.length place) g := by
  unfold land
  constructor
  · intro houtside
    rw [nameAt?_eq_none_iff.2 houtside]
  · intro hinside
    obtain ⟨name, hname⟩ := exists_nameAt?_of_inRow (not_not.1 hinside)
    rw [hname]
    exact ⟨_, rfl⟩

/-- A group with a flag that is on never fails to cycle: its neighbour is a place of the row. -/
theorem exists_cycle_of_active {active : Nat} (hsize : 2 ≤ g.names.length)
    (hactive : g.activePlace? = some active) (reverse : Bool) :
    ∃ move, (g.cycle reverse).2 = .ok move := by
  obtain ⟨left, hone, hleft, -⟩ := exists_of_activePlace?_eq_some hactive
  obtain ⟨hpos, hle⟩ := neighbour_bounds (by omega : 0 < g.names.length) active reverse
  have hname : g.nameAt? active = some left := by rw [nameAt?_natCast g hone, hleft]
  rw [cycle_eq hsize, hactive]
  simp only [hname, Option.map_some, Option.getD_some]
  refine (failsIf_land _ _).succeeds (not_not.2 ?_)
  rw [names_set]
  exact ⟨by omega, by omega⟩

/-- When cycling fails. -/
theorem failsIf_cycle (g : OptionGroup) (reverse : Bool) :
    FailsIf (g.cycle reverse) (2 ≤ g.names.length ∧ (∀ name ∈ g.names, g.isOn name = false) ∧
      ¬InRow g.names.length g.fallback) g := by
  by_cases hsize : 2 ≤ g.names.length
  · simp only [← activePlace?_eq_none_iff, hsize, true_and]
    cases hactive : g.activePlace? with
    | none =>
      rw [cycle_eq hsize, hactive]
      simpa using failsIf_land g g.fallback
    | some active => exact .of_ok (exists_cycle_of_active hsize hactive reverse) (by simp) g
  · refine .of_ok ?_ (fun h => hsize h.1) g
    -- A row of one flag or none has no place to land on.
    match hnames : g.names with
    | [] => exact ⟨.nothing, by unfold cycle; rw [hnames]⟩
    | [_] => exact ⟨.flipped, by unfold cycle; rw [hnames]⟩
    | _ :: _ :: _ => exact absurd (by simp [hnames]) hsize

/-- When initializing fails. -/
theorem failsIf_ensureInitialized (g : OptionGroup) :
    FailsIf g.ensureInitialized (g.names ≠ [] ∧ (∀ name ∈ g.names, g.isOn name = false) ∧
      ¬InRow g.names.length g.fallback) g := by
  rw [← activePlace?_eq_none_iff, ← nameAt?_eq_none_iff]
  by_cases hidle : g.names = [] ∨ g.activePlace?.isSome
  · rw [ensureInitialized_eq_self hidle]
    refine .of_ok ⟨_, rfl⟩ ?_ g
    rintro ⟨hne, hactive, -⟩
    simp [hne, hactive] at hidle
  · have hready : g.names ≠ [] ∧ g.activePlace? = none := by simpa using hidle
    simp only [hready.1, hready.2, ne_eq, not_false_eq_true, true_and]
    rw [ensureInitialized, if_neg (by simp [hready])]
    cases hname : g.nameAt? g.fallback with
    | none => exact ⟨fun _ => rfl, fun hne => absurd rfl hne⟩
    | some name => exact .of_ok ⟨_, rfl⟩ (by simp) g

/-- A switch that finds a name at its fallback comes to a result. -/
theorem exists_switch_of_nameAt? (hnames : g.names = off :: rest)
    (hname : g.nameAt? g.remember.fallback = some name) : ∃ move, g.switch.2 = .ok move := by
  have hat : g.remember.nameAt? g.remember.fallback = some name := by
    rw [← hname, remember_eq]
    rfl
  have hatOff : (g.remember.set off false).nameAt? g.remember.fallback = some name := hat
  unfold switch
  rw [hnames]
  dsimp only
  split_ifs
  · rw [hatOff]
    exact ⟨_, rfl⟩
  · rw [hat]
    exact ⟨_, rfl⟩

/-- A switch that remembers nothing and finds no name at its fallback fails, with "off" turned off
already. -/
theorem switch_of_nameAt?_eq_none (hnames : g.names = off :: rest)
    (hlast : g.lastActivePlace? = none) (hname : g.nameAt? g.fallback = none) :
    g.switch = (g.leaveOff, .error .placeOutside) := by
  have hremember : g.remember = g := by rw [remember, hlast]
  have hatOff : (g.set off false).nameAt? g.fallback = none := hname
  rw [leaveOff_eq hnames, switch, hnames]
  simp only [hremember]
  split_ifs
  · rw [hatOff]
  · rw [hname]

/-- When switching fails. -/
theorem failsIf_switch (g : OptionGroup) :
    FailsIf g.switch (g.names ≠ [] ∧ (∀ name ∈ g.names.tail, g.isOn name = false) ∧
      ¬InRow g.names.length g.fallback) g.leaveOff := by
  match hnames : g.names with
  | [] => exact .of_ok ⟨.nothing, by unfold switch; rw [hnames]⟩ (fun h => h.1 rfl) _
  | off :: rest =>
    rw [List.tail_cons, ← lastActivePlace?_eq_none_iff hnames, ← hnames, ← nameAt?_eq_none_iff]
    cases hlast : g.lastActivePlace? with
    | none =>
      cases hname : g.nameAt? g.fallback with
      | none =>
        exact ⟨fun _ => switch_of_nameAt?_eq_none hnames hlast hname,
          fun hnot => absurd ⟨by simp [hnames], rfl, rfl⟩ hnot⟩
      | some name =>
        have hremember : g.remember = g := by rw [remember, hlast]
        exact .of_ok (exists_switch_of_nameAt? hnames (by rw [hremember, hname])) (by simp) _
    | some place =>
      -- The fallback is the place that was remembered just now.
      obtain ⟨name, htwo, hname, -⟩ := exists_of_lastActivePlace?_eq_some hlast
      have hat : g.nameAt? g.remember.fallback = some name := by
        rw [fallback_remember hlast, nameAt?_natCast g (by omega), hname]
      exact .of_ok (exists_switch_of_nameAt? hnames hat) (by simp) _

/-- **When actions on an option group fail.** Let the names, the flags, the default and the
remembered place of a group be any. Cycling a group of two flags or more and initializing one with a
flag fail exactly if none of its flags is on and the place that it falls back on is outside the row,
counted from either end; then they change nothing. Switching a group with a flag fails exactly if no
flag after the first one is on and that place is outside the row; then the first flag is off if it
was on, and nothing else has changed. In all other cases these actions come to a result. -/
theorem failsIf_outside (g : OptionGroup) :
    (∀ reverse, FailsIf (g.cycle reverse) (2 ≤ g.names.length ∧
      (∀ name ∈ g.names, g.isOn name = false) ∧ ¬InRow g.names.length g.fallback) g) ∧
    FailsIf g.ensureInitialized (g.names ≠ [] ∧
      (∀ name ∈ g.names, g.isOn name = false) ∧ ¬InRow g.names.length g.fallback) g ∧
    FailsIf g.switch (g.names ≠ [] ∧
      (∀ name ∈ g.names.tail, g.isOn name = false) ∧ ¬InRow g.names.length g.fallback) g.leaveOff ∧
    g.leaveOff.saved = g.saved ∧
    ∀ name, g.leaveOff.state? name =
      if g.names.head? = some name ∧ g.isOn name then some false else g.state? name :=
  ⟨failsIf_cycle g, failsIf_ensureInitialized g, failsIf_switch g, saved_leaveOff g,
    state?_leaveOff g⟩

/-- Two flags of one name and a further one, with a place before the start of the row: a switch
fails and turns "off" off; with the place one further it does not fail. -/
theorem failsIf_outside_beforeStart :
    let g : OptionGroup := {
      names := ["off", "lv1", "lv1"]
      initial := some (-3)
      saved := some 0
      flags := (∅ : Std.TreeMap String Bool).insert "off" true }
    g.switch.2 = .error .placeOutside ∧ g.switch.1.state? "off" = some false ∧
      g.switch.1.cycle false = (g.switch.1, .error .placeOutside) ∧
      ∃ move, ({ g with initial := some (-2) } : OptionGroup).switch.2 = .ok move := by
  intro g
  obtain ⟨-, -, hswitch, -, hstate⟩ := failsIf_outside g
  have hfailed := hswitch.fails (by decide)
  have hcycle := (failsIf_outside g.switch.1).1 false
  refine ⟨by rw [hfailed], ?_, hcycle.fails (by decide), ?_⟩
  · rw [hfailed, hstate]
    decide
  · exact (failsIf_outside { g with initial := some (-2) }).2.2.1.succeeds (by decide)

end GlyphGloss.OptionGroup
