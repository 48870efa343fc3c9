import Std.Data.TreeMap

/-!
# Option groups

An option group is a row of named flags of which usually one is on. Its first flag is the position
"off". The group remembers the place of the last other flag that it landed on, and can have a
default place; places count from one, and a place that is zero counts as not given. A place below
one counts from the end of the row, and a place outside the row is an error, which leaves the
changes made before it.

## Main definitions

* `OptionGroup`: the flags, with `OptionGroup.isOn`, `OptionGroup.set`, `OptionGroup.toggle`.
* `OptionGroup.cycle`: one step forward or back.
* `OptionGroup.switch`: to the position "off" and back.
* `OptionGroup.ensureInitialized`: one flag turned on if none is.
* `OptionGroup.verbosity`: the group of the four annotation levels.

## Main results

* `OptionGroup.isOn_set`: a flag after another one was set.
-/

namespace GlyphGloss

/-- A row of named flags. -/
structure OptionGroup where
  /-- The names of the flags, in order. -/
  names : List String
  /-- The place that is turned on where none is remembered. -/
  initial : Option Int := none
  /-- The place that is remembered. -/
  saved : Option Int := none
  /-- The flags that were ever set, on or off, by name. -/
  flags : Std.TreeMap String Bool := ∅

/-- An error of an option group. -/
inductive OptionError where
  /-- A place outside the row. -/
  | placeOutside
deriving DecidableEq, Repr

/-- The message of an error. -/
def OptionError.message : OptionError → String
  | .placeOutside => "tuple index out of range"

namespace OptionGroup

/-- What an action on a group came to. -/
inductive Move where
  /-- The group is empty. -/
  | nothing
  /-- The only flag was flipped. -/
  | flipped
  /-- The group landed on a flag. -/
  | landed (place : Int) (name : String)
deriving DecidableEq, Repr

/-- The place that an action came to. -/
def Move.place? : Move → Option Int
  | .nothing => none
  | .flipped => some 1
  | .landed place _ => some place

/-! ### Flags -/

/-- Whether a flag is on. A flag that was never set is off. -/
def isOn (g : OptionGroup) (name : String) : Bool :=
  g.flags.getD name false

/-- The group with a flag set. -/
def set (g : OptionGroup) (name : String) (on : Bool) : OptionGroup :=
  { g with flags := g.flags.insert name on }

/-- The group with a flag flipped. -/
def toggle (g : OptionGroup) (name : String) : OptionGroup :=
  g.set name !(g.isOn name)

/-- The place of the first flag that is on. -/
def activePlace? (g : OptionGroup) : Option Nat :=
  (g.names.findIdx? g.isOn).map (· + 1)

/-- The place that is turned on where no flag is: the one remembered, else the default, else the
first. -/
def fallback (g : OptionGroup) : Int :=
  ((g.saved.filter (· ≠ 0)).or (g.initial.filter (· ≠ 0))).getD 1

/-- The name at a place, counted from one, or from the end below that. -/
def nameAt? (g : OptionGroup) (place : Int) : Option String :=
  let i := if 1 ≤ place then place - 1 else place - 1 + g.names.length
  if 0 ≤ i then g.names[i.toNat]? else none

/-- The group with the flag at a place turned on and the place remembered unless it is "off". -/
def land (g : OptionGroup) (place : Int) : OptionGroup × Except OptionError Move :=
  match g.nameAt? place with
  | none => (g, .error .placeOutside)
  | some name =>
    let g := g.set name true
    (if 1 < place then { g with saved := some place } else g, .ok (.landed place name))

/-! ### Actions -/

/-- The place after or before a place in a row, which is a circle here. -/
def neighbour (size place : Nat) (reverse : Bool) : Nat :=
  let target := (if reverse then place - 1 else place + 1) % size
  if target = 0 then size else target

/-- Turns off the first flag that is on and lands on its neighbour; lands on the fallback if none is
on. The flag of a group of one is flipped. -/
def cycle (g : OptionGroup) (reverse : Bool) : OptionGroup × Except OptionError Move :=
  match g.names with
  | [] => (g, .ok .nothing)
  | [name] => (g.toggle name, .ok .flipped)
  | names =>
    match g.activePlace? with
    | none => g.land g.fallback
    | some place =>
      let g := ((g.nameAt? place).map (g.set · false)).getD g
      g.land (neighbour names.length place reverse)

/-- Turns on the fallback if no flag is on. -/
def ensureInitialized (g : OptionGroup) : OptionGroup × Except OptionError Unit :=
  if g.names.isEmpty ∨ g.activePlace?.isSome then (g, .ok ())
  else
    match g.nameAt? g.fallback with
    | none => (g, .error .placeOutside)
    | some name => (g.set name true, .ok ())

/-- The place of the last flag after the first that is on. -/
def lastActivePlace? (g : OptionGroup) : Option Nat :=
  ((List.range g.names.length).filter fun i =>
    0 < i && (g.names[i]?.any g.isOn)).getLast?.map (· + 1)

/-- The group with the place of the last flag that is on remembered, unless none but the first
is. -/
def remember (g : OptionGroup) : OptionGroup :=
  match g.lastActivePlace? with
  | some place => { g with saved := some place }
  | none => g

/-- From "off" to the fallback, and from anywhere else to "off", the flag left being remembered. -/
def switch (g : OptionGroup) : OptionGroup × Except OptionError Move :=
  match g.names with
  | [] => (g, .ok .nothing)
  | off :: _ =>
    let g := g.remember
    let place := g.fallback
    if g.isOn off then
      let g := g.set off false
      match g.nameAt? place with
      | none => (g, .error .placeOutside)
      | some name => (g.set name true, .ok (.landed place name))
    else
      match g.nameAt? place with
      | none => (g, .error .placeOutside)
      | some name => ((g.set name false).set off true, .ok (.landed 1 off))

/-- A flag after another one was set. -/
theorem isOn_set (g : OptionGroup) (name : String) (on : Bool) (name' : String) :
    (g.set name on).isOn name' = if name = name' then on else g.isOn name' := by
  simp only [isOn, set, Std.TreeMap.getD_insert, Std.LawfulEqOrd.compare_eq_iff_eq]

/-! ### The annotation levels -/

/-- The flags of the annotation levels. -/
def levelNames : List String :=
  ["yuhao_chaifen.off", "yuhao_chaifen.lv1", "yuhao_chaifen.lv2", "yuhao_chaifen.lv3"]

/-- The group of the annotation levels: off, then three levels, the last being the default. -/
def verbosity : OptionGroup :=
  { names := levelNames, initial := some 4 }

/-- Whether a group is in the position "off". -/
def isOff (g : OptionGroup) : Bool :=
  g.names.head?.any g.isOn

/-- The annotation level of a group: the first level whose flag, the second or the third, is on,
else three. -/
def level (g : OptionGroup) : Int :=
  match g.names.drop 1 with
  | [] => 3
  | first :: rest =>
    if g.isOn first then 1 else if rest.head?.any g.isOn then 2 else 3

end OptionGroup

end GlyphGloss
