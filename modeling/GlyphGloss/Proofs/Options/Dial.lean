import GlyphGloss.Options.Keys
import GlyphGloss.Proofs.Options.Exclusion

/-!
# Keys turn a dial

While one flag of an option group is on, everything that keys do to the group can be read off two
numbers: the place of that flag, and the place that the group falls back on. The two numbers are a
dial, which cycling turns by one place and switching turns to "off" and back. The group follows the
dial through every run of keys, whatever the keys are bound to.

## Main definitions

* `Dial`, `Dial.cycle`, `Dial.switch`: the dial and its two turns.
* `KeyPress`, `KeyBindings.turn?`, `Dial.press`: what a key asks of a dial.
* `OptionGroup.dial`, `OptionGroup.Shows`: the dial of a group, and a group that shows a dial.

## Main results

* `OptionGroup.Follows.cycle`, `OptionGroup.Follows.switch`: one turn of the dial.
* `KeyBindings.run_shows`: a run of keys.
-/

namespace GlyphGloss

/-- A dial of places, the first of which is "off". -/
structure Dial where
  /-- The place where the dial stands. -/
  place : Nat
  /-- The place that it returns to from "off". -/
  recalled : Nat
deriving DecidableEq, Repr

namespace Dial

/-- The dial of a size turned by one place, forward or back. Where it lands is recalled unless it is
"off". -/
def cycle (size : Nat) (reverse : Bool) (d : Dial) : Dial :=
  let place :=
    if reverse then (if d.place = 1 then size else d.place - 1) else d.place % size + 1
  { place, recalled := if place = 1 then d.recalled else place }

/-- The dial turned from "off" to the place that it recalls, or to "off" from any other place, which
is recalled. -/
def switch (d : Dial) : Dial :=
  if d.place = 1 then { place := d.recalled, recalled := d.recalled }
  else { place := 1, recalled := d.place }

end Dial

/-- A turn of a dial. -/
inductive Turn where
  /-- By one place. -/
  | cycle
  /-- To "off" and back. -/
  | switch
deriving DecidableEq, Repr

/-- A key that is pressed. -/
structure KeyPress where
  key : String
  /-- Whether a composition is under way. -/
  composing : Bool
deriving DecidableEq, Repr

/-- What a key asks for: nothing without a composition, or if it is empty or not bound. A key that
is bound twice cycles. -/
def KeyBindings.turn? (keys : KeyBindings) (e : KeyPress) : Option Turn :=
  if e.composing = false ∨ e.key = "" then none
  else if keys.cycle = some e.key then some .cycle
  else if keys.switch = some e.key then some .switch
  else none

/-- The dial of a size after a key. -/
def Dial.press (keys : KeyBindings) (size : Nat) (d : Dial) (e : KeyPress) : Dial :=
  match keys.turn? e with
  | none => d
  | some .cycle => d.cycle size keys.reverse
  | some .switch => d.switch

/-- The group after a run of keys. -/
def KeyBindings.run (keys : KeyBindings) (g : OptionGroup) (presses : List KeyPress) :
    OptionGroup :=
  presses.foldl (fun g e => (keys.press g e.key e.composing).1) g

namespace OptionGroup

variable {g g' : OptionGroup} {d : Dial} {name : String}

/-- The dial of a group: the place of the first flag that is on, and the fallback. -/
def dial (g : OptionGroup) : Dial where
  place := g.activePlace?.getD 1
  recalled := g.fallback.toNat

/-- A group that shows a dial. -/
structure Shows (g : OptionGroup) (d : Dial) : Prop where
  /-- One flag is on. -/
  onCount_eq : g.onCount = 1
  /-- Its place is where the dial stands. -/
  activePlace?_eq : g.activePlace? = some d.place
  /-- The fallback is what the dial recalls. -/
  fallback_eq : g.fallback = d.recalled
  /-- The group is off where the dial is. -/
  isOff_iff : g.isOff = true ↔ d.place = 1
  /-- The level is that of the dial. -/
  level_eq : g.level = if d.place = 2 then 1 else if d.place = 3 then 2 else 3

/-! ### One flag that is on -/

/-- Where one item counts, it has one place. -/
theorem eq_of_countP_eq_one {α : Type} {p : α → Bool} {l : List α} (h : l.countP p = 1) {i j : Nat}
    {x y : α} (hx : l[i]? = some x) (hy : l[j]? = some y) (hpx : p x = true) (hpy : p y = true) :
    i = j := by
  induction l generalizing i j with
  | nil => simp at hx
  | cons z l ih =>
    have hrest {k : Nat} {w : α} (hw : l[k]? = some w) (hpw : p w = true) : 0 < l.countP p :=
      List.countP_pos_iff.2 ⟨w, List.mem_of_getElem? hw, hpw⟩
    rw [List.countP_cons] at h
    cases i with
    | zero =>
      obtain rfl : z = x := by simpa using hx
      rw [if_pos hpx] at h
      cases j with
      | zero => rfl
      | succ j =>
        have := hrest (by simpa using hy) hpy
        omega
    | succ i =>
      rw [List.getElem?_cons_succ] at hx
      have hpos := hrest hx hpx
      cases j with
      | zero =>
        obtain rfl : z = y := by simpa using hy
        rw [if_pos hpy] at h
        omega
      | succ j =>
        rw [List.getElem?_cons_succ] at hy
        rw [ih (by split_ifs at h <;> omega) hx hy]

/-- The flag that is on is the one at the active place. -/
theorem isOn_iff_of_activePlace? (hone : g.onCount = 1) {place : Nat}
    (hactive : g.activePlace? = some place) {i : Nat} (hname : g.names[i]? = some name) :
    g.isOn name = true ↔ i + 1 = place := by
  obtain ⟨active, hpos, hget, hon⟩ := exists_of_activePlace?_eq_some hactive
  constructor
  · intro hname'
    have := eq_of_countP_eq_one hone hname hget hname' hon
    omega
  · rintro rfl
    rw [Nat.add_sub_cancel, hname] at hget
    rwa [Option.some.inj hget]

/-- Where one flag is on, its place is the active one. -/
theorem activePlace?_eq_of_isOn (hone : g.onCount = 1) {place : Nat} (hpos : 1 ≤ place)
    (hname : g.names[place - 1]? = some name) (hon : g.isOn name = true) :
    g.activePlace? = some place := by
  cases hactive : g.activePlace? with
  | none =>
    rw [onCount_eq_zero_of_activePlace?_eq_none hactive] at hone
    exact absurd hone (by decide)
  | some active =>
    have hplace := (isOn_iff_of_activePlace? hone hactive hname).1 hon
    rw [← hplace, Nat.sub_add_cancel hpos]

/-- A group is off when its first flag is the active one. -/
theorem isOff_iff_of_activePlace? (hone : g.onCount = 1) {place : Nat}
    (hactive : g.activePlace? = some place) (hne : g.names ≠ []) :
    g.isOff = true ↔ place = 1 := by
  obtain ⟨off, rest, hnames⟩ := List.exists_cons_of_ne_nil hne
  have hoff := isOn_iff_of_activePlace? hone hactive (i := 0) (by rw [hnames]; rfl : _ = some off)
  simp only [isOff, hnames, List.head?_cons, Option.any_some, hoff]
  omega

/-- The level of a group by the place of the flag that is on. -/
theorem level_eq_of_activePlace? (hone : g.onCount = 1) {place : Nat}
    (hactive : g.activePlace? = some place) (hsize : 2 ≤ g.names.length) :
    g.level = if place = 2 then 1 else if place = 3 then 2 else 3 := by
  have hon {i : Nat} {name : String} (hname : g.names[i]? = some name) :
      g.isOn name = decide (i + 1 = place) := by
    rw [Bool.eq_iff_iff, decide_eq_true_iff, isOn_iff_of_activePlace? hone hactive hname]
  match hnames : g.names, hsize with
  | [off, first], _ =>
    have hplace : place ≤ 2 := by
      obtain ⟨active, hpos, hget, -⟩ := exists_of_activePlace?_eq_some hactive
      obtain ⟨hlt, -⟩ := List.getElem?_eq_some_iff.1 hget
      rw [hnames] at hlt
      simp only [List.length_cons, List.length_nil] at hlt
      omega
    have hfirst := hon (i := 1) (by rw [hnames]; rfl : _ = some first)
    simp only [level, hnames, List.drop_succ_cons, List.drop_zero, hfirst, decide_eq_true_eq,
      List.head?_nil, Option.any_none, Bool.false_eq_true, ↓reduceIte]
    split_ifs <;> omega
  | off :: first :: second :: rest, _ =>
    have hfirst := hon (i := 1) (by rw [hnames]; rfl : _ = some first)
    have hsecond := hon (i := 2) (by rw [hnames]; rfl : _ = some second)
    simp only [level, hnames, List.drop_succ_cons, List.drop_zero, hfirst, hsecond,
      decide_eq_true_eq, List.head?_cons, Option.any_some]
    split_ifs <;> omega

/-! ### One turn -/

/-- A group of a size that follows a dial: one flag is on, where the dial stands, and the fallback
is what the dial recalls. -/
structure Follows (size : Nat) (g : OptionGroup) (d : Dial) : Prop where
  standing : g.Standing
  length_eq : g.names.length = size
  two_le : 2 ≤ size
  onCount_eq : g.onCount = 1
  activePlace?_eq : g.activePlace? = some d.place
  fallback_eq : g.fallback = d.recalled

theorem Standing.follows_dial (hg : g.Standing) (hsize : 2 ≤ g.names.length)
    (hone : g.onCount = 1) : Follows g.names.length g g.dial where
  standing := hg
  length_eq := rfl
  two_le := hsize
  onCount_eq := hone
  activePlace?_eq := by
    cases hactive : g.activePlace? with
    | none =>
      rw [onCount_eq_zero_of_activePlace?_eq_none hactive] at hone
      exact absurd hone (by decide)
    | some place => rw [dial, hactive]; rfl
  fallback_eq := by
    have hne : g.names ≠ [] := List.length_pos_iff.1 (by omega)
    obtain ⟨place, hfallback, -⟩ := exists_fallback hne hg.initial_fits hg.saved_fits
    rw [dial, hfallback, Int.toNat_natCast]

namespace Follows

variable {size : Nat}

theorem shows (h : Follows size g d) : g.Shows d where
  onCount_eq := h.onCount_eq
  activePlace?_eq := h.activePlace?_eq
  fallback_eq := h.fallback_eq
  isOff_iff := by
    refine isOff_iff_of_activePlace? h.onCount_eq h.activePlace?_eq (List.length_pos_iff.1 ?_)
    have := h.two_le
    rw [h.length_eq]
    omega
  level_eq := level_eq_of_activePlace? h.onCount_eq h.activePlace?_eq (h.length_eq ▸ h.two_le)

theorem bounds (h : Follows size g d) : 1 ≤ d.place ∧ d.place ≤ size := by
  obtain ⟨_, hpos, hname, -⟩ := exists_of_activePlace?_eq_some h.activePlace?_eq
  obtain ⟨hlt, -⟩ := List.getElem?_eq_some_iff.1 hname
  have := h.length_eq
  omega

/-- A group that moved to a place follows the dial that was turned there. -/
theorem movedTo {place recalled : Nat} {saved : Option Int} (h : Follows size g d)
    (hmoved : MovedTo g g' place saved) (hsaved : Fits g.names.length saved)
    (hfallback : g'.fallback = recalled) : Follows size g' { place, recalled } := by
  have hkept : Kept .switch g g' (some place) := hmoved.kept h.standing hsaved fun _ => rfl
  have hone : g'.onCount = 1 := by
    have hle := hmoved.onCount_le h.standing.nodup
    have hpos := hmoved.onCount_pos
    rw [h.onCount_eq] at hle
    omega
  obtain ⟨landed, hlanded, hon⟩ := hmoved.exists_landed
  refine ⟨hkept.standing h.standing, ?_, h.two_le, hone, ?_, hfallback⟩
  · rw [hmoved.names_eq, h.length_eq]
  · exact activePlace?_eq_of_isOn hone hmoved.one_le (hmoved.names_eq ▸ hlanded) hon

end Follows

theorem fallback_congr (hsaved : g'.saved = g.saved) (hinitial : g'.initial = g.initial) :
    g'.fallback = g.fallback := by
  rw [fallback, fallback, hsaved, hinitial]

theorem neighbour_eq {size place : Nat} (hsize : 2 ≤ size) (hpos : 1 ≤ place) (hle : place ≤ size)
    (reverse : Bool) :
    neighbour size place reverse =
      if reverse then (if place = 1 then size else place - 1) else place % size + 1 := by
  unfold neighbour
  cases reverse with
  | true =>
    simp only [↓reduceIte]
    by_cases hone : place = 1
    · simp [hone]
    · rw [Nat.mod_eq_of_lt (by omega), if_neg (by omega), if_neg hone]
  | false =>
    simp only [Bool.false_eq_true, ↓reduceIte]
    rcases Nat.lt_or_ge place size with hlt | hge
    · rw [Nat.mod_eq_of_lt hlt]
      rcases Nat.lt_or_ge (place + 1) size with hnext | hlast
      · rw [Nat.mod_eq_of_lt hnext, if_neg (by omega)]
      · have hwrap : place + 1 = size := by omega
        rw [hwrap, Nat.mod_self, if_pos rfl]
    · obtain rfl : place = size := by omega
      rw [Nat.mod_self, Nat.add_mod_left, Nat.mod_eq_of_lt hsize, if_neg (by decide)]

theorem Follows.cycle {size : Nat} (h : Follows size g d) (reverse : Bool) :
    ∃ move, (g.cycle reverse).2 = .ok move ∧
      Follows size (g.cycle reverse).1 (d.cycle size reverse) := by
  have hsize : 2 ≤ g.names.length := h.length_eq ▸ h.two_le
  obtain ⟨place, landed, hresult, hmoved, hneighbour⟩ :=
    cycle_movedTo hsize h.standing.initial_fits h.standing.saved_fits reverse
  have hplace : (d.cycle size reverse).place = place := by
    rw [hneighbour d.place h.activePlace?_eq, h.length_eq,
      neighbour_eq h.two_le h.bounds.1 h.bounds.2]
    rfl
  refine ⟨_, hresult, ?_⟩
  have hsaved := hmoved.saved_eq
  have hone := hmoved.one_le
  have hfallback : (g.cycle reverse).1.fallback =
      (if place = 1 then d.recalled else place : Nat) := by
    by_cases hoff : place = 1
    · rw [if_neg (by omega)] at hsaved
      rw [if_pos hoff, fallback_congr hsaved hmoved.initial_eq, h.fallback_eq]
    · rw [if_pos (by omega)] at hsaved
      rw [if_neg hoff, fallback_eq_of_saved hsaved hone]
  have hfollows := h.movedTo hmoved (h.standing.saved_fits.landed hmoved.le_length) hfallback
  rwa [← hplace] at hfollows

/-- What a switch remembers is where the dial stands, unless it is "off". -/
theorem Follows.rememberedPlace_eq {size : Nat} (h : Follows size g d) :
    g.rememberedPlace = if d.place = 1 then g.saved else some (d.place : Int) := by
  unfold rememberedPlace
  cases hlast : g.lastActivePlace? with
  | some last =>
    obtain ⟨name, htwo, hname, hon⟩ := exists_of_lastActivePlace?_eq_some hlast
    have hplace := (isOn_iff_of_activePlace? h.onCount_eq h.activePlace?_eq hname).1 hon
    have hsame : last = d.place := by omega
    rw [if_neg (by omega), hsame]
    rfl
  | none =>
    obtain ⟨name, hpos, hname, hon⟩ := exists_of_activePlace?_eq_some h.activePlace?_eq
    have hoff : d.place = 1 := by
      by_contra hne
      rw [isOn_of_lastActivePlace?_eq_none hlast (by omega) hname] at hon
      exact Bool.false_ne_true hon
    rw [if_pos hoff]
    rfl

/-- Switching turns the dial to "off" and back. -/
theorem Follows.switch {size : Nat} (h : Follows size g d) :
    ∃ move, g.switch.2 = .ok move ∧ Follows size g.switch.1 d.switch := by
  have hne : g.names ≠ [] := List.length_pos_iff.1 (by have := h.two_le; rw [h.length_eq]; omega)
  obtain ⟨place, landed, hresult, hmoved, hplace⟩ :=
    switch_movedTo hne h.standing.initial_fits h.standing.saved_fits
  refine ⟨_, hresult, ?_⟩
  have hfits := fits_rememberedPlace h.standing.saved_fits
  have hsaved := hmoved.saved_eq
  rw [h.rememberedPlace_eq] at hsaved
  unfold Dial.switch
  -- From "off" the switch remembers nothing new, so the fallback it goes to is the recalled place.
  by_cases hoff : d.place = 1
  · rw [if_pos hoff] at hsaved
    have hremember : g.remember.fallback = d.recalled := by
      have hsame : g.remember.saved = g.saved := by
        rw [remember_eq, h.rememberedPlace_eq, if_pos hoff]
      rw [fallback_congr hsame (by rw [remember_eq]), h.fallback_eq]
    have hrecalled : place = d.recalled := by
      rw [if_pos (h.shows.isOff_iff.2 hoff), hremember] at hplace
      exact Int.ofNat_inj.1 hplace
    rw [if_pos hoff, ← hrecalled]
    refine h.movedTo hmoved hfits ?_
    rw [fallback_congr hsaved hmoved.initial_eq, h.fallback_eq, hrecalled]
  · rw [if_neg hoff] at hsaved
    have hplace : place = 1 := by
      rw [if_neg fun hisOff => hoff (h.shows.isOff_iff.1 hisOff)] at hplace
      exact Int.ofNat_inj.1 hplace
    rw [if_neg hoff, ← hplace]
    exact h.movedTo hmoved hfits (fallback_eq_of_saved hsaved h.bounds.1)

end OptionGroup

namespace KeyBindings

open OptionGroup

variable {g : OptionGroup} {d : Dial} {size : Nat}

/-! ### Keys -/

theorem isBound_iff (bound : Option String) (key : String) :
    isBound bound key = true ↔ key ≠ "" ∧ bound = some key := by
  simp only [isBound, Bool.and_eq_true, decide_eq_true_eq, beq_iff_eq]

/-- A key does what it asks for. -/
theorem press_eq (keys : KeyBindings) (g : OptionGroup) (e : KeyPress) :
    keys.press g e.key e.composing = match keys.turn? e with
      | none => (g, .ok .noop)
      | some .cycle => ((g.cycle keys.reverse).1, (g.cycle keys.reverse).2.map .cycled)
      | some .switch => (g.switch.1, g.switch.2.map .switched) := by
  unfold press turn?
  cases e.composing with
  | false => rfl
  | true =>
    by_cases hempty : e.key = ""
    · simp [isBound_iff, hempty]
    · by_cases hcycle : keys.cycle = some e.key
      · simp [isBound_iff, hempty, hcycle]
      · by_cases hswitch : keys.switch = some e.key
        · simp [isBound_iff, hempty, hcycle, hswitch]
        · simp [isBound_iff, hempty, hcycle, hswitch]

theorem press_follows (keys : KeyBindings) (h : Follows size g d) (e : KeyPress) :
    ∃ outcome, (keys.press g e.key e.composing).2 = .ok outcome ∧
      (outcome = .noop ↔ keys.turn? e = none) ∧
      Follows size (keys.press g e.key e.composing).1 (d.press keys size e) := by
  rw [press_eq]
  unfold Dial.press
  match keys.turn? e with
  | none => exact ⟨.noop, rfl, by simp, h⟩
  | some .cycle =>
    obtain ⟨move, hmove, hfollows⟩ := h.cycle keys.reverse
    exact ⟨.cycled move, by rw [hmove]; rfl, by simp, hfollows⟩
  | some .switch =>
    obtain ⟨move, hmove, hfollows⟩ := h.switch
    exact ⟨.switched move, by rw [hmove]; rfl, by simp, hfollows⟩

/-- A group follows its dial through a run of keys. -/
theorem run_follows (keys : KeyBindings) (h : Follows size g d) (presses : List KeyPress) :
    Follows size (keys.run g presses) (presses.foldl (Dial.press keys size) d) := by
  induction presses generalizing g d with
  | nil => exact h
  | cons e presses ih =>
    obtain ⟨-, -, -, hfollows⟩ := keys.press_follows h e
    exact ih hfollows

/-- **Keys turn a dial.** A group of two flags or more of which one is on shows, after any run of
keys, the dial that was turned as the keys ask for. No next key fails; it does nothing, and says so,
exactly when it asks for nothing. -/
theorem run_shows (keys : KeyBindings) (hg : g.Standing) (hsize : 2 ≤ g.names.length)
    (hone : g.onCount = 1) (presses : List KeyPress) :
    (keys.run g presses).Shows (presses.foldl (Dial.press keys g.names.length) g.dial) ∧
    g.Shows g.dial ∧
    ∀ e : KeyPress, ∃ outcome,
      (keys.press (keys.run g presses) e.key e.composing).2 = .ok outcome ∧
      (outcome = .noop ↔ keys.turn? e = none) ∧
      (keys.turn? e = none →
        (keys.press (keys.run g presses) e.key e.composing).1 = keys.run g presses) := by
  have hstart := hg.follows_dial hsize hone
  have hrun := keys.run_follows hstart presses
  refine ⟨hrun.shows, hstart.shows, fun e => ?_⟩
  obtain ⟨outcome, houtcome, hnoop, -⟩ := keys.press_follows hrun e
  refine ⟨outcome, houtcome, hnoop, fun hturn => ?_⟩
  rw [press_eq, hturn]

/-- The annotation levels at their first level, with one key that goes back: it turns them off, and
the other key brings them to the default, as no level was recalled. -/
theorem run_shows_verbosity :
    let g := verbosity.set "yuhao_chaifen.lv1" true
    let keys : KeyBindings := { cycle := some "F4", switch := some "F5", reverse := true }
    let presses : List KeyPress := [⟨"F4", true⟩, ⟨"F4", false⟩, ⟨"F6", true⟩, ⟨"F5", true⟩]
    g.onCount = 1 ∧ g.dial = ⟨2, 4⟩ ∧ (keys.run g presses).Shows ⟨4, 4⟩ := by
  intro g keys presses
  have hg : g.Standing := ⟨by decide, by decide, by decide⟩
  have hshows := (run_shows keys hg (by decide) (by decide) presses).1
  exact ⟨by decide, by decide, hshows⟩

end KeyBindings

end GlyphGloss
