import GlyphGloss.Options.Basic
import Mathlib.Tactic.Common

/-!
# Moving from flag to flag

Cycling, switching and initializing an option group come down to one movement: a flag of the group
is turned off, which was on if any flag was, and the flag at one place is turned on. Nothing in the
state of a group says that at most one of its flags is on, so what the movement does is stated from
any state: how many flags are on behind it, and which.

## Main definitions

* `OptionGroup.state?`: what a flag was last set to.
* `OptionGroup.onCount`: how many flags of a group are on.
* `OptionGroup.Fits`: a place that is not given, zero or inside the row.
* `OptionGroup.MovedTo`: the group after a movement.

## Main results

* `OptionGroup.onCount_set`: how many flags are on after one was set.
* `OptionGroup.cycle_movedTo`, `OptionGroup.switch_movedTo`,
  `OptionGroup.ensureInitialized_movedTo`: where the actions move a group to.
* `OptionGroup.MovedTo.onCount_le`, `OptionGroup.MovedTo.onCount_pos`: a movement turns on no
  further flag where one was on, and leaves one on.
-/

namespace GlyphGloss.OptionGroup

variable {g g' : OptionGroup} {name : String}

/-! ### The state of the flags -/

/-- What a flag was last set to, if it ever was. -/
def state? (g : OptionGroup) (name : String) : Option Bool :=
  g.flags[name]?

theorem isOn_eq_state? (g : OptionGroup) (name : String) :
    g.isOn name = (g.state? name).getD false :=
  Std.TreeMap.getD_eq_getD_getElem?

theorem state?_set (g : OptionGroup) (name : String) (on : Bool) (name' : String) :
    (g.set name on).state? name' = if name = name' then some on else g.state? name' := by
  simp only [state?, set, Std.TreeMap.getElem?_insert, Std.LawfulEqOrd.compare_eq_iff_eq]

@[simp]
theorem names_set (g : OptionGroup) (name : String) (on : Bool) : (g.set name on).names = g.names :=
  rfl

/-- The number of flags of a group that are on. -/
def onCount (g : OptionGroup) : Nat :=
  g.names.countP g.isOn

/-- Setting a flag that is not listed leaves the number of listed flags that are on. -/
theorem countP_set_of_notMem {names : List String} (h : name ∉ names) (g : OptionGroup)
    (on : Bool) : names.countP (g.set name on).isOn = names.countP g.isOn := by
  refine List.countP_congr fun other hother => ?_
  rw [isOn_set, if_neg]
  rintro rfl
  exact h hother

/-- Setting a listed flag counts it as it was set, and no longer as it was. -/
theorem countP_set {names : List String} (hnodup : names.Nodup) (h : name ∈ names)
    (g : OptionGroup) (on : Bool) :
    names.countP (g.set name on).isOn + (g.isOn name).toNat =
      names.countP g.isOn + on.toNat := by
  induction names with
  | nil => exact absurd h List.not_mem_nil
  | cons first names ih =>
    rw [List.nodup_cons] at hnodup
    rw [List.countP_cons, List.countP_cons, isOn_set]
    by_cases hfirst : name = first
    · subst hfirst
      rw [countP_set_of_notMem hnodup.1, if_pos rfl]
      cases on <;> cases g.isOn name <;> simp
    · have hrest : name ∈ names := (List.mem_cons.1 h).resolve_left hfirst
      have ih := ih hnodup.2 hrest
      rw [if_neg hfirst]
      omega

theorem onCount_set (hnodup : g.names.Nodup) (h : name ∈ g.names) (on : Bool) :
    (g.set name on).onCount + (g.isOn name).toNat = g.onCount + on.toNat :=
  countP_set hnodup h g on

theorem onCount_congr (hnames : g'.names = g.names)
    (hon : ∀ name ∈ g.names, g'.isOn name = g.isOn name) : g'.onCount = g.onCount := by
  rw [onCount, hnames]
  exact List.countP_congr fun name hname => by rw [hon name hname]

/-! ### Places -/

/-- A place that is not given, zero, or one of the places of a row. -/
def Fits (size : Nat) (place : Option Int) : Prop :=
  ∀ p ∈ place, 0 ≤ p ∧ p ≤ size

instance (size : Nat) (place : Option Int) : Decidable (Fits size place) :=
  inferInstanceAs (Decidable (∀ p ∈ place, 0 ≤ p ∧ p ≤ size))

theorem nameAt?_natCast (g : OptionGroup) {place : Nat} (h : 1 ≤ place) :
    g.nameAt? place = g.names[place - 1]? := by
  have hplace : (1 : Int) ≤ place := by omega
  have hindex : ((place : Int) - 1).toNat = place - 1 := by omega
  simp only [nameAt?, hplace, ↓reduceIte, hindex]
  rw [if_pos (by omega)]

theorem exists_nameAt? (g : OptionGroup) {place : Nat} (h : 1 ≤ place)
    (hle : place ≤ g.names.length) :
    ∃ name, g.names[place - 1]? = some name ∧ g.nameAt? place = some name := by
  refine ⟨g.names[place - 1], ?_, ?_⟩
  · rw [List.getElem?_eq_getElem]
  · rw [nameAt?_natCast g h, List.getElem?_eq_getElem]

/-- A place that fits and is not zero is one of the places of the row. -/
theorem Fits.bounds {size : Nat} {place : Option Int} {p : Int} (h : Fits size place)
    (hp : place.filter (· ≠ 0) = some p) : 1 ≤ p ∧ p ≤ size := by
  obtain ⟨hgiven, hne⟩ := Option.filter_eq_some_iff.1 hp
  have hbounds := h p hgiven
  have hne : p ≠ 0 := by simpa using hne
  omega

theorem Fits.landed {size place : Nat} {saved : Option Int} (h : Fits size saved)
    (hle : place ≤ size) : Fits size (if 1 < place then some (place : Int) else saved) := by
  split_ifs
  · intro p hp
    obtain rfl : (place : Int) = p := Option.some.inj hp
    omega
  · exact h

/-- With places that fit, the fallback of a group with a flag is a place of the row. -/
theorem exists_fallback (hne : g.names ≠ []) (hinitial : Fits g.names.length g.initial)
    (hsaved : Fits g.names.length g.saved) :
    ∃ place : Nat, g.fallback = place ∧ 1 ≤ place ∧ place ≤ g.names.length := by
  have hsize : 0 < g.names.length := List.length_pos_iff.2 hne
  have hbounds : 1 ≤ g.fallback ∧ g.fallback ≤ g.names.length := by
    unfold fallback
    cases hs : g.saved.filter (· ≠ 0) with
    | some p => exact hsaved.bounds hs
    | none =>
      cases hi : g.initial.filter (· ≠ 0) with
      | some p => exact hinitial.bounds hi
      | none => exact ⟨Int.le_refl 1, by simp only [Option.none_or, Option.getD_none]; omega⟩
  exact ⟨g.fallback.toNat, by omega, by omega, by omega⟩

theorem fallback_eq_of_saved {place : Nat} (h : g.saved = some (place : Int)) (hpos : 1 ≤ place) :
    g.fallback = place := by
  have hne : (place : Int) ≠ 0 := by omega
  rw [fallback, h, Option.filter_some, if_pos (by simpa using hne)]
  rfl

theorem exists_of_activePlace?_eq_some {place : Nat} (h : g.activePlace? = some place) :
    ∃ name, 1 ≤ place ∧ g.names[place - 1]? = some name ∧ g.isOn name = true := by
  obtain ⟨i, hi, rfl⟩ := Option.map_eq_some_iff.1 h
  obtain ⟨hlt, hon, -⟩ := List.findIdx?_eq_some_iff_getElem.1 hi
  exact ⟨g.names[i], by omega, by simp [hlt], hon⟩

theorem onCount_eq_zero_of_activePlace?_eq_none (h : g.activePlace? = none) : g.onCount = 0 := by
  rw [activePlace?, Option.map_eq_none_iff, List.findIdx?_eq_none_iff] at h
  rw [onCount, List.countP_eq_zero]
  exact fun name hname => by simp [h name hname]

/-- The last place after the first with a flag that is on. -/
theorem exists_of_lastActivePlace?_eq_some {place : Nat} (h : g.lastActivePlace? = some place) :
    ∃ name, 2 ≤ place ∧ g.names[place - 1]? = some name ∧ g.isOn name = true := by
  obtain ⟨i, hi, rfl⟩ := Option.map_eq_some_iff.1 h
  have hmem := List.mem_of_getLast? hi
  simp only [List.mem_filter, Bool.and_eq_true, decide_eq_true_eq,
    Option.any_eq_true_iff_get] at hmem
  obtain ⟨-, hpos, hsome, hon⟩ := hmem
  exact ⟨g.names[i]?.get hsome, by omega, by simp, hon⟩

theorem isOn_of_lastActivePlace?_eq_none (h : g.lastActivePlace? = none) {i : Nat} (hi : 0 < i)
    (hname : g.names[i]? = some name) : g.isOn name = false := by
  rw [lastActivePlace?, Option.map_eq_none_iff, List.getLast?_eq_none_iff,
    List.filter_eq_nil_iff] at h
  obtain ⟨hlt, -⟩ := List.getElem?_eq_some_iff.1 hname
  have hoff := h i (List.mem_range.2 hlt)
  simpa [hi, hname] using hoff

/-! ### Movements -/

/-- The group after a movement from one of its flags, which was on if any was, to the flag at a
place. -/
structure MovedTo (g g' : OptionGroup) (place : Nat) (saved : Option Int) : Prop where
  names_eq : g'.names = g.names
  initial_eq : g'.initial = g.initial
  saved_eq : g'.saved = saved
  one_le : 1 ≤ place
  /-- One flag was turned off, then the one at the place was turned on. -/
  flags : ∃ left ∈ g.names, (g.isOn left = true ∨ g.onCount = 0) ∧
    ∃ landed, g.names[place - 1]? = some landed ∧
      ∀ name, g'.state? name = ((g.set left false).set landed true).state? name

namespace MovedTo

variable {place : Nat} {saved : Option Int}

theorem le_length (h : MovedTo g g' place saved) : place ≤ g.names.length := by
  obtain ⟨_, -, -, _, hlanded, -⟩ := h.flags
  obtain ⟨hlt, -⟩ := List.getElem?_eq_some_iff.1 hlanded
  have := h.one_le
  omega

theorem exists_landed (h : MovedTo g g' place saved) :
    ∃ landed, g.names[place - 1]? = some landed ∧ g'.isOn landed = true := by
  obtain ⟨left, -, -, landed, hlanded, hstate⟩ := h.flags
  refine ⟨landed, hlanded, ?_⟩
  rw [isOn_eq_state?, hstate, state?_set, if_pos rfl]
  rfl

/-- A movement touches the flags of its group only. -/
theorem state?_eq (h : MovedTo g g' place saved) (hname : name ∉ g.names) :
    g'.state? name = g.state? name := by
  obtain ⟨left, hleft, -, landed, hlanded, hstate⟩ := h.flags
  have hlanded : landed ∈ g.names := List.mem_of_getElem? hlanded
  rw [hstate, state?_set, state?_set, if_neg, if_neg]
  · rintro rfl
    exact hname hleft
  · rintro rfl
    exact hname hlanded

/-- How many flags are on behind a movement. -/
theorem onCount_eq (h : MovedTo g g' place saved) (hnodup : g.names.Nodup) :
    ∃ left ∈ g.names, (g.isOn left = true ∨ g.onCount = 0) ∧ ∃ landed,
      g'.onCount + ((g.set left false).isOn landed).toNat + (g.isOn left).toNat =
        g.onCount + 1 := by
  obtain ⟨left, hleft, hwas, landed, hlanded, hstate⟩ := h.flags
  refine ⟨left, hleft, hwas, landed, ?_⟩
  have hsame : g'.onCount = ((g.set left false).set landed true).onCount :=
    onCount_congr h.names_eq fun name _ => by rw [isOn_eq_state?, hstate, ← isOn_eq_state?]
  have hoff := onCount_set hnodup hleft false
  have hon := onCount_set (g := g.set left false) hnodup (List.mem_of_getElem? hlanded) true
  rw [hsame, hon]
  simp only [Bool.toNat_true, Bool.toNat_false] at hoff ⊢
  omega

/-- A movement turns on no further flag where one was on. -/
theorem onCount_le (h : MovedTo g g' place saved) (hnodup : g.names.Nodup) :
    g'.onCount ≤ max 1 g.onCount := by
  obtain ⟨left, -, hwas, landed, hcount⟩ := h.onCount_eq hnodup
  rcases hwas with hon | hzero
  · rw [hon, Bool.toNat_true] at hcount
    omega
  · omega

/-- A movement leaves a flag on. -/
theorem onCount_pos (h : MovedTo g g' place saved) : 1 ≤ g'.onCount := by
  obtain ⟨landed, hlanded, hon⟩ := h.exists_landed
  rw [onCount, h.names_eq, List.one_le_countP_iff]
  exact ⟨landed, List.mem_of_getElem? hlanded, hon⟩

/-- Where no flag is on, turning one on is a movement. -/
theorem of_onCount_eq_zero (hzero : g.onCount = 0) (hone : 1 ≤ place) {landed : String}
    (hlanded : g.names[place - 1]? = some landed) (saved : Option Int) :
    MovedTo g { g.set landed true with saved } place saved := by
  -- The flag that is left may be the one that is landed on: it was off anyway.
  refine ⟨rfl, rfl, rfl, hone, landed, List.mem_of_getElem? hlanded, Or.inr hzero, landed, hlanded,
    ?_⟩
  intro name
  change (g.set landed true).state? name = _
  simp only [state?_set]
  split_ifs <;> rfl

end MovedTo

/-! ### Where the actions move to -/

/-- Landing on a place of the row turns its flag on. -/
theorem land_eq {place : Nat} (h : 1 ≤ place) (hname : g.names[place - 1]? = some name) :
    g.land place =
      ({ g.set name true with saved := if 1 < place then some (place : Int) else g.saved },
        .ok (.landed place name)) := by
  have hcast : (1 : Int) < place ↔ 1 < place := by omega
  simp only [land, nameAt?_natCast g h, hname, hcast]
  split_ifs <;> rfl

theorem neighbour_bounds {size : Nat} (h : 0 < size) (place : Nat) (reverse : Bool) :
    1 ≤ neighbour size place reverse ∧ neighbour size place reverse ≤ size := by
  have hlt := Nat.mod_lt (if reverse then place - 1 else place + 1) h
  unfold neighbour
  generalize (if reverse then place - 1 else place + 1) % size = target at hlt ⊢
  dsimp only
  split_ifs <;> omega

/-- Cycling a group of two flags or more lands on the neighbour of its first flag that is on, and on
the fallback without one. -/
theorem cycle_eq (h : 2 ≤ g.names.length) (reverse : Bool) :
    g.cycle reverse = match g.activePlace? with
      | none => g.land g.fallback
      | some place => (((g.nameAt? place).map (g.set · false)).getD g).land
          (neighbour g.names.length place reverse) := by
  unfold cycle
  split
  · next hnames => simp [hnames] at h
  · next hnames => simp [hnames] at h
  · rfl

/-- Where cycling moves a group of two flags or more. -/
theorem cycle_movedTo (h : 2 ≤ g.names.length) (hinitial : Fits g.names.length g.initial)
    (hsaved : Fits g.names.length g.saved) (reverse : Bool) :
    ∃ (place : Nat) (landed : String),
      (g.cycle reverse).2 = .ok (.landed place landed) ∧
      MovedTo g (g.cycle reverse).1 place (if 1 < place then some (place : Int) else g.saved) ∧
      ∀ active, g.activePlace? = some active → place = neighbour g.names.length active reverse := by
  rw [cycle_eq h]
  cases hactive : g.activePlace? with
  | none =>
    have hne : g.names ≠ [] := List.length_pos_iff.1 (by omega)
    obtain ⟨place, hfallback, hone, hle⟩ := exists_fallback hne hinitial hsaved
    obtain ⟨landed, hlanded, -⟩ := exists_nameAt? g hone hle
    have hzero := onCount_eq_zero_of_activePlace?_eq_none hactive
    simp only [hfallback, land_eq hone hlanded]
    exact ⟨place, landed, rfl, MovedTo.of_onCount_eq_zero hzero hone hlanded _, nofun⟩
  | some active =>
    obtain ⟨left, hone, hleft, hon⟩ := exists_of_activePlace?_eq_some hactive
    obtain ⟨hpos, hle⟩ := neighbour_bounds (by omega : 0 < g.names.length) active reverse
    obtain ⟨landed, hlanded, -⟩ := exists_nameAt? g hpos hle
    have hname : g.nameAt? active = some left := by rw [nameAt?_natCast g hone, hleft]
    have hland := land_eq (g := g.set left false) hpos hlanded
    simp only [hname, Option.map_some, Option.getD_some, hland]
    refine ⟨_, landed, rfl, ⟨rfl, rfl, rfl, hpos, ?_⟩, fun _ hsome => by rw [Option.some.inj hsome]⟩
    exact ⟨left, List.mem_of_getElem? hleft, Or.inl hon, landed, hlanded, fun name => rfl⟩

/-- The place that a switch remembers: the last one after the first with a flag that is on, else the
one that was remembered. -/
def rememberedPlace (g : OptionGroup) : Option Int :=
  (g.lastActivePlace?.map fun place => (place : Int)).or g.saved

theorem remember_eq (g : OptionGroup) : g.remember = { g with saved := g.rememberedPlace } := by
  unfold remember rememberedPlace
  cases g.lastActivePlace? <;> rfl

theorem fits_rememberedPlace (h : Fits g.names.length g.saved) :
    Fits g.names.length g.rememberedPlace := by
  unfold rememberedPlace
  cases hlast : g.lastActivePlace? with
  | none => exact h
  | some place =>
    obtain ⟨_, htwo, hname, -⟩ := exists_of_lastActivePlace?_eq_some hlast
    obtain ⟨hlt, -⟩ := List.getElem?_eq_some_iff.1 hname
    have hlanded := h.landed (by omega : place ≤ g.names.length)
    rwa [if_pos (by omega)] at hlanded

/-- What a switch remembers, it falls back on. -/
theorem fallback_remember {place : Nat} (h : g.lastActivePlace? = some place) :
    g.remember.fallback = place := by
  obtain ⟨_, htwo, -, -⟩ := exists_of_lastActivePlace?_eq_some h
  exact fallback_eq_of_saved (by simp [remember, h]) (by omega)

/-- The flag at the place that a switch turns off is on, unless none is. -/
theorem isOn_or_onCount_eq_zero {place : Nat} (hoff : g.isOff = false)
    (hplace : g.remember.fallback = place) (hname : g.names[place - 1]? = some name) :
    g.isOn name = true ∨ g.onCount = 0 := by
  cases hlast : g.lastActivePlace? with
  | some last =>
    obtain ⟨landed, -, hlanded, hon⟩ := exists_of_lastActivePlace?_eq_some hlast
    have hsame : place = last := by
      have hfallback := fallback_remember hlast
      omega
    rw [hsame, hlanded] at hname
    exact Or.inl (Option.some.inj hname ▸ hon)
  | none =>
    refine Or.inr (List.countP_eq_zero.2 fun other hother => ?_)
    obtain ⟨i, hi⟩ := List.mem_iff_getElem?.1 hother
    rw [Bool.not_eq_true]
    cases i with
    | zero => simpa [isOff, List.head?_eq_getElem?, hi] using hoff
    | succ i => exact isOn_of_lastActivePlace?_eq_none hlast i.succ_pos hi

/-- Switching turns the first flag off and the one at the fallback on, or the other way round. -/
theorem switch_eq {off : String} {rest : List String} (hnames : g.names = off :: rest) {place : Nat}
    (hfallback : g.remember.fallback = place) (hone : 1 ≤ place)
    (hname : g.names[place - 1]? = some name) :
    g.switch = if g.isOn off then
        ({ (g.set off false).set name true with saved := g.rememberedPlace },
          .ok (.landed place name))
      else
        ({ (g.set name false).set off true with saved := g.rememberedPlace },
          .ok (.landed 1 off)) := by
  have hat : g.remember.nameAt? place = some name := by
    rw [remember_eq, nameAt?_natCast _ hone, hname]
  have hatOff : (g.remember.set off false).nameAt? place = some name := hat
  unfold switch
  split
  · next hnil => simp [hnames] at hnil
  · next first others hcons =>
    obtain rfl : first = off := by
      rw [hnames] at hcons
      exact (List.cons.inj hcons).1.symm
    simp only [hfallback, hat, hatOff]
    simp only [remember_eq]
    rfl

/-- Where switching moves a group with a flag: from "off" to the fallback of what is remembered
then, and to "off" from anywhere else. -/
theorem switch_movedTo (hne : g.names ≠ []) (hinitial : Fits g.names.length g.initial)
    (hsaved : Fits g.names.length g.saved) :
    ∃ (place : Nat) (landed : String),
      g.switch.2 = .ok (.landed place landed) ∧
      MovedTo g g.switch.1 place g.rememberedPlace ∧
      (place : Int) = if g.isOff then g.remember.fallback else 1 := by
  obtain ⟨off, rest, hnames⟩ := List.exists_cons_of_ne_nil hne
  have hfirst : g.names[0]? = some off := by rw [hnames]; rfl
  have hoff : g.isOff = g.isOn off := by simp [isOff, hnames]
  have hremember : g.remember.names = g.names := by rw [remember_eq]
  obtain ⟨place, hfallback, hone, hle⟩ := exists_fallback (g := g.remember)
    (by rwa [hremember]) (by rw [remember_eq]; exact hinitial)
    (by rw [remember_eq]; exact fits_rememberedPlace hsaved)
  rw [hremember] at hle
  obtain ⟨name, hname, -⟩ := exists_nameAt? g hone hle
  rw [switch_eq hnames hfallback hone hname, hoff, hfallback]
  by_cases hon : g.isOn off = true
  · simp only [hon, ↓reduceIte]
    refine ⟨place, name, rfl, ⟨rfl, rfl, rfl, hone, ?_⟩, rfl⟩
    exact ⟨off, List.mem_of_getElem? hfirst, Or.inl hon, name, hname, fun _ => rfl⟩
  · simp only [hon, Bool.false_eq_true, ↓reduceIte]
    refine ⟨1, off, rfl, ⟨rfl, rfl, rfl, Nat.le_refl 1, ?_⟩, rfl⟩
    have hwas := isOn_or_onCount_eq_zero (hoff.trans (Bool.eq_false_iff.2 hon)) hfallback hname
    exact ⟨name, List.mem_of_getElem? hname, hwas, off, hfirst, fun _ => rfl⟩

/-- A group with a flag that is on, or without flags, needs no initializing. -/
theorem ensureInitialized_eq_self (h : g.names = [] ∨ g.activePlace?.isSome) :
    g.ensureInitialized = (g, .ok ()) := by
  rw [ensureInitialized, if_pos]
  simpa using h

/-- Where initializing moves a group without a flag that is on. -/
theorem ensureInitialized_movedTo (hne : g.names ≠ []) (hinitial : Fits g.names.length g.initial)
    (hsaved : Fits g.names.length g.saved) (hactive : g.activePlace? = none) :
    ∃ place : Nat, g.fallback = place ∧ g.ensureInitialized.2 = .ok () ∧
      MovedTo g g.ensureInitialized.1 place g.saved := by
  obtain ⟨place, hfallback, hone, hle⟩ := exists_fallback hne hinitial hsaved
  obtain ⟨landed, hlanded, hat⟩ := exists_nameAt? g hone hle
  have heq : g.ensureInitialized = (g.set landed true, .ok ()) := by
    rw [ensureInitialized, if_neg (by simp [hne, hactive]), hfallback, hat]
  have hzero := onCount_eq_zero_of_activePlace?_eq_none hactive
  rw [heq]
  exact ⟨place, hfallback, rfl, MovedTo.of_onCount_eq_zero hzero hone hlanded g.saved⟩

end GlyphGloss.OptionGroup
