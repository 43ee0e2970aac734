import BluetoothControl.Failure

/-!
# Patience

What it comes to to wait under a bound, or to pause.  Only a bound that is ahead, and that clocks
count to, is waited for; one that is not ahead leaves the time for one look.  A pause takes some
time or none, as far as clocks count.
-/

namespace BluetoothControl

/-- What it comes to to wait under a bound. -/
inductive Patience
  /-- The wait lasts until what is awaited is there or the bound is up. -/
  | waits
  /-- The bound is up at once. -/
  | looks
  /-- Nobody can wait under such a bound. -/
  | refuses (failure : Failure)
  deriving Repr, Inhabited

/-- The patience of whoever waits under a bound; nothing in its place is never up. -/
def Seconds.patience (bound : Seconds) : Patience :=
  match bound with
  | other .null => .waits
  | _ =>
    if !bound.isNumber then .refuses .wrongType
    else if !bound.isAhead then .looks
    else if !bound.isCounted then .refuses (.beyondClock bound)
    else .waits

namespace Patience

/-- The patience of whoever waits under a bound or, without one, for ever. -/
def under : Option Seconds → Patience
  | none => .waits
  | some bound => bound.patience

/-- Whether a wait lasts. -/
def lasts : Patience → Bool
  | waits => true
  | _ => false

/-- Why a wait is refused. -/
def refusal? : Patience → Option Failure
  | refuses f => some f
  | _ => none

end Patience

namespace Seconds

/-- Why nobody can pause for so long. -/
def pauseRefusal? (duration : Seconds) : Option Failure :=
  if !duration.isNumber then some .wrongType
  else if duration.isUndefined then some .notNumber
  else if !(duration.isCounted && duration.isCountedBack) then some (.beyondClock duration)
  else if duration.isBehind then some .negativePause
  else none

/-- Whether callers can wait under a bound, and be told of it when it is up. -/
def isWaitable (a : Seconds) : Bool := a.isTellable && a.patience.refusal?.isNone

/-! ## Lemmas -/

theorem isTellable_of_isWaitable {a : Seconds} (h : a.isWaitable = true) : a.isTellable = true :=
  (Bool.and_eq_true _ _ ▸ h).1

theorem isWaitable_orElse {a b : Seconds} (ha : a.isWaitable = true) (hb : b.isWaitable = true) :
    (a.orElse b).isWaitable = true := by
  unfold orElse
  split
  · exact hb
  · exact ha

end Seconds

/-- What those who wait and pause go by. -/
inductive Clock
  /-- Time passes as it does. -/
  | system
  /-- All time that anyone waits for has passed at once. -/
  | simulated
  deriving Repr, DecidableEq

namespace Clock

/-- Why nobody can wait under a bound by this clock. -/
def waitRefusal? : Clock → Seconds → Option Failure
  | system, bound => bound.patience.refusal?
  | simulated, _ => none

/-- Why nobody can pause for so long by this clock. -/
def pauseRefusal? : Clock → Seconds → Option Failure
  | system, duration => duration.pauseRefusal?
  | simulated, _ => none

/-! ## Lemmas -/

variable {clock : Clock} {a : Seconds} {f : Failure}

theorem refusal_of_waitRefusal? (h : clock.waitRefusal? a = some f) :
    a.patience.refusal? = some f := by
  cases clock with
  | system => exact h
  | simulated => cases h

theorem refusal_of_pauseRefusal? (h : clock.pauseRefusal? a = some f) :
    a.pauseRefusal? = some f := by
  cases clock with
  | system => exact h
  | simulated => cases h

theorem waitRefusal?_eq_none (clock : Clock) (h : a.patience.refusal? = none) :
    clock.waitRefusal? a = none :=
  Option.eq_none_iff_forall_ne_some.mpr fun f hf => by
    rw [refusal_of_waitRefusal? hf] at h
    cases h

theorem pauseRefusal?_eq_none (clock : Clock) (h : a.pauseRefusal? = none) :
    clock.pauseRefusal? a = none :=
  Option.eq_none_iff_forall_ne_some.mpr fun f hf => by
    rw [refusal_of_pauseRefusal? hf] at h
    cases h

end Clock

end BluetoothControl
