import GlyphGloss.Proofs.Options.Dial
import Mathlib.Algebra.GroupWithZero.Nat

/-!
# Round trips on an option group

Cycling goes around in a circle, and switching goes to "off" and back, so that some runs of actions
come back to the flag where they started: two switches, steps in one direction followed by as many
in the other, and as many steps as the group has flags. On the way the group remembers places, which
no round trip undoes: it remembers the last one that it landed on other than "off".

## Main definitions

* `Dial.act`, `Dial.cycles`: a dial after an action, and after steps in given directions.
* `Dial.stride`: how far a step of the circle goes forward.
* `OptionGroup.IsRoundTrip`: the runs of actions that come back.
* `OptionGroup.landings`: the places that steps in given directions land on.

## Main results

* `Dial.place_cycles`: steps of a dial add up in the circle.
* `OptionGroup.IsRoundTrip.place_eq`: a round trip brings a dial back.
* `OptionGroup.Follows.run`: a group follows its dial through a run of movements.
* `OptionGroup.Follows.saved_run_cycles`: what a run of steps remembers.
-/

namespace GlyphGloss

/-! ### Dials -/

namespace Dial

variable {size : Nat} {d : Dial}

/-- How far a step of a circle of a size goes forward: one place, or back by going around all the
others. -/
def stride (size : Nat) (reverse : Bool) : Nat :=
  if reverse then size - 1 else 1

theorem stride_add_stride_not (hsize : 1 ≤ size) (reverse : Bool) :
    stride size reverse + stride size (!reverse) = size := by
  cases reverse <;> simp only [stride, Bool.not_true, Bool.not_false, Bool.false_eq_true,
    ↓reduceIte] <;> omega

/-- The dial of a size after steps in given directions. -/
def cycles (size : Nat) (d : Dial) (directions : List Bool) : Dial :=
  directions.foldl (fun d reverse => d.cycle size reverse) d

theorem place_cycle (hpos : 1 ≤ d.place) (hle : d.place ≤ size) (reverse : Bool) :
    (d.cycle size reverse).place = (d.place - 1 + stride size reverse) % size + 1 := by
  cases reverse with
  | false =>
    have hnext : d.place - 1 + 1 = d.place := Nat.sub_add_cancel hpos
    simp only [cycle, stride, Bool.false_eq_true, ↓reduceIte, hnext]
  | true =>
    simp only [cycle, stride, ↓reduceIte]
    split_ifs with hone
    · rw [hone, Nat.sub_self, Nat.zero_add, Nat.mod_eq_of_lt (by omega)]
      omega
    · have hback : d.place - 1 + (size - 1) = d.place - 2 + size := by omega
      rw [hback, Nat.add_mod_right, Nat.mod_eq_of_lt (by omega)]
      omega

/-- Steps add up in the circle. -/
theorem place_cycles (hpos : 1 ≤ d.place) (hle : d.place ≤ size) (directions : List Bool) :
    (d.cycles size directions).place =
      (d.place - 1 + (directions.map (stride size)).sum) % size + 1 := by
  induction directions generalizing d with
  | nil =>
    rw [List.map_nil, List.sum_nil, Nat.add_zero, Nat.mod_eq_of_lt (by omega)]
    exact (Nat.sub_add_cancel hpos).symm
  | cons reverse directions ih =>
    have hplace := place_cycle hpos hle reverse
    have hlt := Nat.mod_lt (d.place - 1 + stride size reverse) (by omega : size > 0)
    have hrest := ih (d := d.cycle size reverse) (by omega) (by omega)
    rw [hplace, Nat.add_sub_cancel, Nat.mod_add_mod, Nat.add_assoc] at hrest
    rw [List.map_cons, List.sum_cons]
    exact hrest

/-- Steps that go around the circle any number of times come back. -/
theorem place_cycles_of_dvd (hpos : 1 ≤ d.place) (hle : d.place ≤ size) {directions : List Bool}
    (h : size ∣ (directions.map (stride size)).sum) :
    (d.cycles size directions).place = d.place := by
  obtain ⟨turns, hturns⟩ := h
  rw [place_cycles hpos hle, hturns, Nat.add_mul_mod_self_left, Nat.mod_eq_of_lt (by omega),
    Nat.sub_add_cancel hpos]

theorem place_switch_switch (d : Dial) : d.switch.switch.place = d.place := by
  unfold switch
  split_ifs <;> simp_all

/-- The dial of a size after a movement of its group. -/
def act (size : Nat) (d : Dial) : OptionGroup.Action → Dial
  | .cycle reverse => d.cycle size reverse
  | .switch => d.switch
  | .ensureInitialized | .set _ _ | .toggle _ => d

theorem foldl_act_cycles (size : Nat) (d : Dial) (directions : List Bool) :
    (directions.map OptionGroup.Action.cycle).foldl (act size) d = d.cycles size directions :=
  List.foldl_map

end Dial

namespace OptionGroup

variable {g : OptionGroup} {d : Dial} {size : Nat} {actions : List Action}

/-- The runs of actions that come back to the flag where they started, on a group of a size. -/
inductive IsRoundTrip (size : Nat) : List Action → Prop
  /-- To "off" and back, or the other way round. -/
  | switches : IsRoundTrip size [.switch, .switch]
  /-- Steps in one direction, and as many in the other. -/
  | thereAndBack (count : Nat) (reverse : Bool) :
    IsRoundTrip size
      (List.replicate count (.cycle reverse) ++ List.replicate count (.cycle !reverse))
  /-- Once around. -/
  | around (reverse : Bool) : IsRoundTrip size (List.replicate size (.cycle reverse))

/-- A round trip turns the dial of its group back to where it stood. -/
theorem IsRoundTrip.place_eq (h : IsRoundTrip size actions) (hpos : 1 ≤ d.place)
    (hle : d.place ≤ size) : (actions.foldl (Dial.act size) d).place = d.place := by
  cases h with
  | switches => exact d.place_switch_switch
  | thereAndBack count reverse =>
    rw [← List.map_replicate, ← List.map_replicate, ← List.map_append, Dial.foldl_act_cycles]
    refine Dial.place_cycles_of_dvd hpos hle ⟨count, ?_⟩
    rw [List.map_append, List.sum_append, List.map_replicate, List.map_replicate,
      List.sum_replicate_nat, List.sum_replicate_nat, ← Nat.mul_add,
      Dial.stride_add_stride_not (by omega), Nat.mul_comm]
  | around reverse =>
    rw [← List.map_replicate, Dial.foldl_act_cycles]
    refine Dial.place_cycles_of_dvd hpos hle ⟨Dial.stride size reverse, ?_⟩
    rw [List.map_replicate, List.sum_replicate_nat]

theorem IsRoundTrip.isMovement (h : IsRoundTrip size actions) : ∀ a ∈ actions, a.isMovement := by
  intro a ha
  cases h with
  | switches =>
    simp only [List.mem_cons, List.not_mem_nil, or_false, or_self] at ha
    rw [ha]
    rfl
  | thereAndBack count reverse =>
    rcases List.mem_append.1 ha with ha | ha <;> rw [List.eq_of_mem_replicate ha] <;> rfl
  | around reverse =>
    rw [List.eq_of_mem_replicate ha]
    rfl

/-! ### Groups -/

/-- A movement turns the dial that its group follows. -/
theorem Follows.apply (h : Follows size g d) {a : Action} (ha : a.isMovement) :
    Follows size (a.apply g).1 (d.act size a) := by
  cases a with
  | set | toggle => cases ha
  | cycle reverse =>
    obtain ⟨-, -, hfollows⟩ := h.cycle reverse
    exact hfollows
  | switch =>
    obtain ⟨-, -, hfollows⟩ := h.switch
    exact hfollows
  | ensureInitialized =>
    rw [Action.apply, ensureInitialized_eq_self (.inr (by rw [h.activePlace?_eq]; rfl))]
    exact h

/-- A group follows its dial through a run of movements. -/
theorem Follows.run (h : Follows size g d) (hactions : ∀ a ∈ actions, a.isMovement) :
    Follows size (run g actions) (actions.foldl (Dial.act size) d) := by
  induction actions generalizing g d with
  | nil => exact h
  | cons a actions ih =>
    exact ih (h.apply (hactions a List.mem_cons_self)) fun b hb =>
      hactions b (List.mem_cons_of_mem _ hb)

/-- The places that steps in given directions land on, one after the other. -/
def landings (g : OptionGroup) : List Bool → List Int
  | [] => []
  | reverse :: directions =>
    ((g.cycle reverse).2.toOption.bind Move.place?).toList ++
      landings (g.cycle reverse).1 directions

/-- A step lands on a place, which is remembered unless it is "off". -/
theorem Follows.exists_landing (h : Follows size g d) (reverse : Bool) (directions : List Bool) :
    ∃ place : Nat, landings g (reverse :: directions) =
        (place : Int) :: landings (g.cycle reverse).1 directions ∧
      (g.cycle reverse).1.saved = if (place : Int) ≠ 1 then some (place : Int) else g.saved := by
  obtain ⟨place, landed, hresult, hmoved, -⟩ := cycle_movedTo (h.length_eq ▸ h.two_le)
    h.standing.initial_fits h.standing.saved_fits reverse
  have hone := hmoved.one_le
  refine ⟨place, by rw [landings, hresult]; rfl, ?_⟩
  rw [hmoved.saved_eq]
  exact if_congr (by omega) rfl rfl

/-- A run of steps remembers the last place other than "off" that it landed on, and what was
remembered before if there is none. Every step lands somewhere. -/
theorem Follows.saved_run_cycles (h : Follows size g d) (directions : List Bool) :
    (landings g directions).length = directions.length ∧
      (OptionGroup.run g (directions.map .cycle)).saved =
        (((landings g directions).filter (· ≠ 1)).getLast?).or g.saved := by
  induction directions generalizing g d with
  | nil => exact ⟨rfl, rfl⟩
  | cons reverse directions ih =>
    obtain ⟨place, hlandings, hsaved⟩ := h.exists_landing reverse directions
    obtain ⟨-, -, hfollows⟩ := h.cycle reverse
    obtain ⟨hlength, hrest⟩ := ih hfollows
    rw [List.map_cons, run_cons, hlandings, List.length_cons, List.length_cons, hlength]
    refine ⟨rfl, hrest.trans ?_⟩
    rw [hsaved, List.filter_cons]
    by_cases hone : (place : Int) = 1
    · rw [if_neg (by simpa using hone), if_neg (by simpa using hone)]
    · rw [if_pos hone, if_pos (by simpa using hone), List.getLast?_cons]
      cases ((landings (g.cycle reverse).1 directions).filter (· ≠ 1)).getLast? <;> rfl

end OptionGroup

end GlyphGloss
