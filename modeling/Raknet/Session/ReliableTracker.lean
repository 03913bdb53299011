-- SUMMARY: The receive window for reliable indices and when it tells repeats from new indices.
import Raknet.Lib.Containers
import Raknet.Protocol.Sequence24

/-!
# The reliable receive window

The tracker keeps a base index and one flag for each index ahead of it. `see`
records an index; `hasSeen` asks for it.

Recording the base index moves the base without removing the flag of the new
base. The flags ahead then stand one index too high, unless the base runs
through all of them and leaves the list empty.
-/

namespace Raknet

structure ReliableTracker where
  base : Sequence24
  seenAhead : List Bool
  maxWindow : Nat
deriving DecidableEq, Repr

namespace ReliableTracker

def new (maxWindow : Nat) : ReliableTracker :=
  { base := Sequence24.new 0, seenAhead := [], maxWindow }

/-- The loop of `advance_base`: pop the leading `true` flags, one base step
    for each. -/
def advance (base : Sequence24) : List Bool → Sequence24 × List Bool
  | true :: rest => advance base.next rest
  | flags => (base, flags)

def advanceBase (t : ReliableTracker) : ReliableTracker :=
  let (base, seenAhead) := advance t.base t.seenAhead
  { t with base, seenAhead }

/-- Record `ridx`; the result says whether it was new. -/
def see (t : ReliableTracker) (ridx : Sequence24) : Bool × ReliableTracker :=
  if ridx = t.base then
    (true, advanceBase { t with base := t.base.next })
  else
    let distance := t.base.distanceTo ridx
    if distance = 0 ∨ distance > t.maxWindow then
      (false, t)
    else
      let offset := distance - 1
      let flags :=
        if t.seenAhead.length ≤ offset then t.seenAhead.growTo (offset + 1) false
        else t.seenAhead
      if flags.getD offset false then
        (false, { t with seenAhead := flags })
      else
        (true, { t with seenAhead := flags.set offset true })

def hasSeen (t : ReliableTracker) (ridx : Sequence24) : Bool :=
  if ridx = t.base then
    false
  else
    let distance := t.base.distanceTo ridx
    if distance = 0 then
      true
    else if distance > t.maxWindow then
      false
    else
      t.seenAhead.getD (distance - 1) false

end ReliableTracker

end Raknet
