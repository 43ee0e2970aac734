import BluetoothControl.Decimal.Numeral
import BluetoothControl.Decimal.Shortest
import BluetoothControl.Value.Literal

/-!
# Durations

A duration in seconds is a whole number or a fraction, as the caller wrote it; the sum of two whole
numbers stays whole.  Whatever else the caller wrote in its place is kept as it came: it can be
shown, and a truth value counts as a whole number.
-/

namespace BluetoothControl

/-- A duration in seconds. -/
inductive Seconds
  | whole (n : Int)
  | real (x : Float)
  /-- Something else in place of a number. -/
  | other (v : Value)
  deriving Repr, Inhabited

namespace Seconds

open BluetoothControl.Decimal

/-! ## Values -/

/-- The duration that a value gives. -/
def ofValue : Value → Seconds
  | .int n => whole n
  | .real x => real x
  | v => other v

/-- As a value. -/
def toValue : Seconds → Value
  | whole n => .int n
  | real x => .real x
  | other v => v

/-- As it was written. -/
def literal (a : Seconds) : String := a.toValue.literal

/-! ## Numbers -/

/-- The whole number that a duration is, if it is one. -/
def whole? : Seconds → Option Int
  | whole n => some n
  | real _ => none
  | other v => v.int?

/-- Whether a duration is a number. -/
def isNumber : Seconds → Bool
  | whole _ | real _ => true
  | other v => v.int?.isSome

/-- The first whole number that no floating-point number is near to. -/
def floatLimit : Nat := twoTo 1024 - twoTo 970

/-- Whether there is a floating-point number near a duration. -/
def isRepresentable (a : Seconds) : Bool := a.whole?.all fun n => n.natAbs < floatLimit

/-- Whether a duration can be told with places after the point. -/
def isTellable (a : Seconds) : Bool := a.isNumber && a.isRepresentable

/-- As a floating-point number. -/
def toFloat : Seconds → Float
  | whole n => Float.ofInt n
  | real x => x
  | other v => Float.ofInt (v.int?.getD 0)

/-- Two durations one after the other. -/
def add (a b : Seconds) : Seconds :=
  match a.whole?, b.whole? with
  | some m, some n => whole (m + n)
  | _, _ => real (a.toFloat + b.toFloat)

/-- No time at all. -/
def isZero (a : Seconds) : Bool := !a.toValue.truth

/-- Some time passes before such a bound is reached; in place of a bound, nothing is never
reached. -/
def isPositive : Seconds → Bool
  | whole n => 0 < n
  | real x => !(x ≤ 0)
  | other .null => true
  | other v => v.int?.any fun n => 0 < n

/-- A duration is longer than none.  What is no number of seconds at all is not. -/
def isAhead (a : Seconds) : Bool :=
  match a.whole? with
  | some n => 0 < n
  | none => 0 < a.toFloat

/-- Clocks count that far. -/
def isCounted (a : Seconds) : Bool :=
  match a.whole? with
  | some n => n ≤ 9223372036
  | none => a.toFloat < 9223372036.854775

/-- Clocks count that far back. -/
def isCountedBack (a : Seconds) : Bool :=
  match a.whole? with
  | some n => -9223372036 ≤ n
  | none => -9223372036.854776 ≤ a.toFloat

/-- A duration is shorter than none. -/
def isBehind (a : Seconds) : Bool :=
  match a.whole? with
  | some n => n < 0
  | none => a.toFloat < 0

/-- A floating-point number that is no number. -/
def isUndefined (a : Seconds) : Bool := a.whole?.isNone && a.toFloat.isNaN

/-- The first bound is reached strictly before the second. -/
def lt (a b : Seconds) : Bool :=
  match a.whole?, b.whole? with
  | some m, some n => m < n
  | _, _ => a.toFloat < b.toFloat

/-- The first duration, or the second in place of none. -/
def orElse (a b : Seconds) : Seconds := if a.isZero then b else a

/-- With `places` places after the point. -/
def fixedText (places : Nat) (a : Seconds) : String := fixed places a.toFloat

/-! ## Lemmas -/

theorem toValue_ofValue (v : Value) : (ofValue v).toValue = v := by cases v <;> rfl

theorem add_whole (m n : Int) : (whole m).add (whole n) = whole (m + n) := rfl

end Seconds

end BluetoothControl
