import GlyphGloss.Options.Basic

/-!
# Keys of an option group

Two keys act on an option group while a composition is under way: one cycles it and one switches it.
A key that is empty or not given does nothing, and where both are the same key it cycles.

## Main definitions

* `KeyBindings`: the two keys.
* `KeyBindings.press`: what a key does to a group.
-/

namespace GlyphGloss

/-- The keys that act on an option group. -/
structure KeyBindings where
  /-- The key that cycles. -/
  cycle : Option String := none
  /-- The key that switches. -/
  switch : Option String := none
  /-- Whether cycling goes back. -/
  reverse : Bool := false
deriving DecidableEq, Repr

/-- What a key came to. -/
inductive KeyOutcome where
  | noop
  | cycled (move : OptionGroup.Move)
  | switched (move : OptionGroup.Move)
deriving DecidableEq, Repr

namespace KeyBindings

/-- Whether a key is the one that is bound. -/
def isBound (bound : Option String) (key : String) : Bool :=
  key ≠ "" && bound == some key

/-- What a key does to a group. -/
def press (keys : KeyBindings) (g : OptionGroup) (key : String) (composing : Bool) :
    OptionGroup × Except OptionError KeyOutcome :=
  if !composing then (g, .ok .noop)
  else if isBound keys.cycle key then
    let (g, move) := g.cycle keys.reverse
    (g, move.map .cycled)
  else if isBound keys.switch key then
    let (g, move) := g.switch
    (g, move.map .switched)
  else (g, .ok .noop)

end KeyBindings

end GlyphGloss
