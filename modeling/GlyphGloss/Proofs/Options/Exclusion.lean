import GlyphGloss.Proofs.Options.Movement

/-!
# Runs of actions on an option group

An option group is a row of independent flags; that at most one is on is a habit of its actions, not
a property of its type. Here runs of actions are followed from any state of the flags: no action
fails on a group whose places fit, cycling, switching and initializing touch the flags of the group
only and never raise the number of flags that are on above one, and where they come to a place its
flag is on.

## Main definitions

* `OptionGroup.Action`, `OptionGroup.Action.apply`: the actions, and the group after one.
* `OptionGroup.run`: the group after a run of actions.
* `OptionGroup.Standing`: a group of distinct names whose places fit.
* `OptionGroup.Kept`: what an action keeps.

## Main results

* `OptionGroup.Standing.apply`: what one action keeps.
* `OptionGroup.run_kept`: what every action of a run keeps; no run of movements leaves two flags on
  where at most one was.
-/

namespace GlyphGloss.OptionGroup

/-- An action on an option group. -/
inductive Action where
  | set (name : String) (on : Bool)
  | toggle (name : String)
  | cycle (reverse : Bool)
  /-- A flag is turned on if none is. -/
  | ensureInitialized
  | switch
deriving DecidableEq, Repr

namespace Action

/-- The group after an action, and the place that the action came to, if there is one. -/
def apply (g : OptionGroup) : Action → OptionGroup × Except OptionError (Option Int)
  | .set name on => (g.set name on, .ok none)
  | .toggle name => (g.toggle name, .ok none)
  | .cycle reverse => ((g.cycle reverse).1, (g.cycle reverse).2.map Move.place?)
  | .ensureInitialized => (g.ensureInitialized.1, g.ensureInitialized.2.map fun _ => none)
  | .switch => (g.switch.1, g.switch.2.map Move.place?)

/-- Whether an action moves the group from flag to flag, rather than naming one flag. -/
def isMovement : Action → Bool
  | .set _ _ | .toggle _ => false
  | .cycle _ | .ensureInitialized | .switch => true

/-- Whether an action on a group of a size leaves a flag on. -/
def lands (size : Nat) : Action → Bool
  | .cycle _ => 2 ≤ size
  | .ensureInitialized | .switch => 1 ≤ size
  | .set _ _ | .toggle _ => false

/-- Whether an action on a group of a size comes to a place with a flag that is on. -/
def comesToPlace (size : Nat) : Action → Bool
  | .cycle _ => 2 ≤ size
  | .switch => 1 ≤ size
  | .set _ _ | .toggle _ | .ensureInitialized => false

end Action

/-- The group after a run of actions. -/
def run (g : OptionGroup) (actions : List Action) : OptionGroup :=
  actions.foldl (fun g a => (a.apply g).1) g

/-- A group of distinct names, with a default and a remembered place that fit. -/
structure Standing (g : OptionGroup) : Prop where
  nodup : g.names.Nodup
  initial_fits : Fits g.names.length g.initial
  saved_fits : Fits g.names.length g.saved

/-- What an action keeps of a group, given the group after it and the place that it came to. -/
structure Kept (a : Action) (g g' : OptionGroup) (place : Option Int) : Prop where
  names_eq : g'.names = g.names
  initial_eq : g'.initial = g.initial
  /-- The place that is remembered fits. -/
  saved_fits : Fits g.names.length g'.saved
  /-- Movements touch the flags of the group only. -/
  state?_eq : a.isMovement → ∀ name ∉ g.names, g'.state? name = g.state? name
  /-- Movements leave no more than one flag on where no more than one was. -/
  onCount_le : a.isMovement → g'.onCount ≤ max 1 g.onCount
  /-- Movements of a group with enough flags leave one on. -/
  onCount_pos : a.lands g.names.length → 1 ≤ g'.onCount
  /-- The place is one of the row, and its flag is on. -/
  exists_place : a.comesToPlace g.names.length → ∃ (p : Nat) (name : String),
    place = some (p : Int) ∧ 1 ≤ p ∧ p ≤ g.names.length ∧ g.names[p - 1]? = some name ∧
      g'.isOn name = true

variable {g g' : OptionGroup} {a : Action}

/-! ### One action -/

theorem MovedTo.kept {place : Nat} {saved came : Option Int} (h : MovedTo g g' place saved)
    (hg : g.Standing) (hsaved : Fits g.names.length saved)
    (hcame : a.comesToPlace g.names.length → came = some (place : Int)) : Kept a g g' came where
  names_eq := h.names_eq
  initial_eq := h.initial_eq
  saved_fits := h.saved_eq ▸ hsaved
  state?_eq _ _ hname := h.state?_eq hname
  onCount_le _ := h.onCount_le hg.nodup
  onCount_pos _ := h.onCount_pos
  exists_place hplace := by
    obtain ⟨landed, hlanded, hon⟩ := h.exists_landed
    exact ⟨place, landed, hcame hplace, h.one_le, h.le_length, hlanded, hon⟩

/-- What an action keeps that changed nothing, and need not have. -/
theorem Standing.kept_self (hg : g.Standing) (hlands : a.lands g.names.length → 1 ≤ g.onCount)
    (hplace : a.comesToPlace g.names.length = false) (came : Option Int) : Kept a g g came where
  names_eq := rfl
  initial_eq := rfl
  saved_fits := hg.saved_fits
  state?_eq _ _ _ := rfl
  onCount_le _ := Nat.le_max_right 1 g.onCount
  onCount_pos := hlands
  exists_place h := absurd h (by rw [hplace]; exact Bool.false_ne_true)

theorem Standing.kept_set (hg : g.Standing) (hmovement : a.isMovement = false)
    (hlands : a.lands g.names.length = false) (hplace : a.comesToPlace g.names.length = false)
    (name : String) (on : Bool) (came : Option Int) : Kept a g (g.set name on) came where
  names_eq := rfl
  initial_eq := rfl
  saved_fits := hg.saved_fits
  state?_eq h := absurd h (by rw [hmovement]; exact Bool.false_ne_true)
  onCount_le h := absurd h (by rw [hmovement]; exact Bool.false_ne_true)
  onCount_pos h := absurd h (by rw [hlands]; exact Bool.false_ne_true)
  exists_place h := absurd h (by rw [hplace]; exact Bool.false_ne_true)

theorem Standing.kept_flip (hg : g.Standing) {name : String} (hnames : g.names = [name])
    (reverse : Bool) (came : Option Int) : Kept (.cycle reverse) g (g.toggle name) came where
  names_eq := rfl
  initial_eq := rfl
  saved_fits := hg.saved_fits
  state?_eq _ other hother := by
    rw [toggle, state?_set, if_neg]
    rintro rfl
    exact hother (by simp [hnames])
  onCount_le _ := by
    have hle : (g.toggle name).onCount ≤ (g.toggle name).names.length := List.countP_le_length
    have hone : (g.toggle name).names.length = 1 := by rw [toggle, names_set, hnames]; rfl
    omega
  onCount_pos h := by simp [Action.lands, hnames] at h
  exists_place h := by simp [Action.comesToPlace, hnames] at h

theorem Standing.apply_cycle (hg : g.Standing) (reverse : Bool) :
    ∃ place, ((Action.cycle reverse).apply g).2 = .ok place ∧
      Kept (.cycle reverse) g ((Action.cycle reverse).apply g).1 place := by
  match hnames : g.names with
  | [] =>
    have heq : g.cycle reverse = (g, .ok .nothing) := by unfold cycle; rw [hnames]
    simp only [Action.apply, heq]
    exact ⟨none, rfl,
      hg.kept_self (by simp [Action.lands, hnames]) (by simp [Action.comesToPlace, hnames]) none⟩
  | [name] =>
    have heq : g.cycle reverse = (g.toggle name, .ok .flipped) := by unfold cycle; rw [hnames]
    simp only [Action.apply, heq]
    exact ⟨some 1, rfl, hg.kept_flip hnames reverse _⟩
  | _ :: _ :: _ =>
    have hsize : 2 ≤ g.names.length := by simp [hnames]
    obtain ⟨place, landed, hresult, hmoved, -⟩ :=
      cycle_movedTo hsize hg.initial_fits hg.saved_fits reverse
    simp only [Action.apply, hresult]
    exact ⟨some place, rfl,
      hmoved.kept hg (hg.saved_fits.landed hmoved.le_length) fun _ => rfl⟩

theorem Standing.apply_ensureInitialized (hg : g.Standing) :
    ∃ place, (Action.ensureInitialized.apply g).2 = .ok place ∧
      Kept .ensureInitialized g (Action.ensureInitialized.apply g).1 place := by
  by_cases hidle : g.names = [] ∨ g.activePlace?.isSome
  · simp only [Action.apply, ensureInitialized_eq_self hidle]
    refine ⟨none, rfl, hg.kept_self (fun hlands => ?_) rfl none⟩
    have hne : g.names ≠ [] := by
      intro hnil
      simp [Action.lands, hnil] at hlands
    obtain ⟨place, hplace⟩ := Option.isSome_iff_exists.1 (hidle.resolve_left hne)
    obtain ⟨name, -, hname, hon⟩ := exists_of_activePlace?_eq_some hplace
    exact List.one_le_countP_iff.2 ⟨name, List.mem_of_getElem? hname, hon⟩
  · rw [not_or, Option.not_isSome_iff_eq_none] at hidle
    obtain ⟨place, -, hresult, hmoved⟩ :=
      ensureInitialized_movedTo hidle.1 hg.initial_fits hg.saved_fits hidle.2
    simp only [Action.apply, hresult]
    exact ⟨none, rfl, hmoved.kept hg hg.saved_fits nofun⟩

theorem Standing.apply_switch (hg : g.Standing) :
    ∃ place, (Action.switch.apply g).2 = .ok place ∧
      Kept .switch g (Action.switch.apply g).1 place := by
  by_cases hnil : g.names = []
  · have heq : g.switch = (g, .ok .nothing) := by unfold switch; rw [hnil]
    simp only [Action.apply, heq]
    exact ⟨none, rfl,
      hg.kept_self (by simp [Action.lands, hnil]) (by simp [Action.comesToPlace, hnil]) none⟩
  · obtain ⟨place, landed, hresult, hmoved, -⟩ :=
      switch_movedTo hnil hg.initial_fits hg.saved_fits
    simp only [Action.apply, hresult]
    exact ⟨some place, rfl, hmoved.kept hg (fits_rememberedPlace hg.saved_fits) fun _ => rfl⟩

/-- No action fails on a standing group. -/
theorem Standing.apply (hg : g.Standing) (a : Action) :
    ∃ place, (a.apply g).2 = .ok place ∧ Kept a g (a.apply g).1 place := by
  cases a with
  | set name on => exact ⟨none, rfl, hg.kept_set rfl rfl rfl name on none⟩
  | toggle name => exact ⟨none, rfl, hg.kept_set rfl rfl rfl name _ none⟩
  | cycle reverse => exact hg.apply_cycle reverse
  | ensureInitialized => exact hg.apply_ensureInitialized
  | switch => exact hg.apply_switch

/-- A group stands behind every action. -/
theorem Kept.standing {place : Option Int} (h : Kept a g g' place) (hg : g.Standing) :
    g'.Standing where
  nodup := h.names_eq ▸ hg.nodup
  initial_fits := by
    rw [h.names_eq, h.initial_eq]
    exact hg.initial_fits
  saved_fits := by
    rw [h.names_eq]
    exact h.saved_fits

/-! ### Runs of actions -/

theorem run_cons (g : OptionGroup) (a : Action) (actions : List Action) :
    run g (a :: actions) = run (a.apply g).1 actions := rfl

theorem run_append (g : OptionGroup) (before after : List Action) :
    run g (before ++ after) = run (run g before) after :=
  List.foldl_append

/-- A group stands behind every run, with the same names and the same default. -/
theorem Standing.standing_run (hg : g.Standing) (actions : List Action) :
    (run g actions).Standing ∧ (run g actions).names = g.names ∧
      (run g actions).initial = g.initial := by
  induction actions generalizing g with
  | nil => exact ⟨hg, rfl, rfl⟩
  | cons a actions ih =>
    obtain ⟨place, -, hkept⟩ := hg.apply a
    rw [run_cons, ← hkept.names_eq, ← hkept.initial_eq]
    exact ih (hkept.standing hg)

/-- A run of movements leaves no two flags on where at most one was. -/
theorem Standing.run_onCount_le (hg : g.Standing) {moves : List Action}
    (hmoves : ∀ a ∈ moves, a.isMovement) (hone : g.onCount ≤ 1) : (run g moves).onCount ≤ 1 := by
  induction moves generalizing g with
  | nil => exact hone
  | cons a moves ih =>
    obtain ⟨place, -, hkept⟩ := hg.apply a
    have hle := hkept.onCount_le (hmoves a List.mem_cons_self)
    rw [run_cons]
    exact ih (hkept.standing hg) (fun b hb => hmoves b (List.mem_cons_of_mem _ hb)) (by omega)

/-- **What every action of a run keeps.** After any run of actions on a group of distinct names
whose places fit, whatever flags are on, no next action fails and each keeps what
`OptionGroup.Kept` says; the place that is remembered fits. Once at most one flag is on, no run of
movements changes that. -/
theorem run_kept (hg : g.Standing) (before : List Action) :
    (∀ a, ∃ place, (a.apply (run g before)).2 = .ok place ∧
      Kept a (run g before) (a.apply (run g before)).1 place) ∧
    (run g before).names = g.names ∧
    (run g before).initial = g.initial ∧
    Fits g.names.length (run g before).saved ∧
    ∀ moves : List Action, (∀ a ∈ moves, a.isMovement) → (run g before).onCount ≤ 1 →
      (run g (before ++ moves)).onCount ≤ 1 := by
  obtain ⟨hrun, hnames, hinitial⟩ := hg.standing_run before
  refine ⟨hrun.apply, hnames, hinitial, hnames ▸ hrun.saved_fits, fun moves hmoves hone => ?_⟩
  rw [run_append]
  exact hrun.run_onCount_le hmoves hone

/-- Three flags of which two are on, and the first after it was flipped: switching is kept as any
action is. -/
theorem run_kept_threeOn :
    let g : OptionGroup := {
      names := ["off", "lv1", "lv2"]
      initial := some 3
      saved := some 0
      flags := ((∅ : Std.TreeMap String Bool).insert "lv1" true).insert "lv2" true }
    let g' := run g [.toggle "off"]
    g'.onCount = 3 ∧ ∃ place, (Action.switch.apply g').2 = .ok place ∧
      Kept .switch g' (Action.switch.apply g').1 place := by
  intro g g'
  have hg : g.Standing := ⟨by decide, by decide, by decide⟩
  exact ⟨by decide, (run_kept hg [.toggle "off"]).1 .switch⟩

end GlyphGloss.OptionGroup
