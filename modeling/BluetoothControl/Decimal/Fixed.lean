import BluetoothControl.Decimal.Binary

/-!
# Fixed places

A number written with a given count of places after the point: the exact binary value is rounded
to the nearest such decimal, and a value half way between two goes to the even one.
-/

namespace BluetoothControl.Decimal

/-! ## Algorithm -/

/-- The quotient rounded to the nearest whole number, halves to even. -/
def roundHalfEven (num den : Nat) : Nat :=
  let q := num / den
  let r := num % den
  if 2 * r < den then q
  else if den < 2 * r then q + 1
  else if q % 2 = 0 then q else q + 1

/-- `|x| · 10 ^ places`, rounded. -/
def Binary.scaled (b : Binary) (places : Nat) : Nat :=
  roundHalfEven (b.mantissa * twoTo b.exponent.toNat * tenTo places) (twoTo (-b.exponent).toNat)

/-- Zeros in front up to a width. -/
def padZeros (width : Nat) (digits : List Char) : List Char :=
  List.replicate (width - digits.length) '0' ++ digits

/-- A whole number of units of the last place, with its point. -/
def placed (units places : Nat) : List Char :=
  let whole := Nat.toDigits 10 (units / tenTo places)
  if places = 0 then whole
  else whole ++ '.' :: padZeros places (Nat.toDigits 10 (units % tenTo places))

/-- A floating-point number with `places` places. -/
def fixed (places : Nat) (x : Float) : String :=
  match Binary.ofFloat? x with
  | none => unboundedText x
  | some b => String.ofList ((if b.negative then ['-'] else []) ++ placed (b.scaled places) places)

/-! ## Lemmas -/

theorem roundHalfEven_one (n : Nat) : roundHalfEven n 1 = n := by
  simp [roundHalfEven, Nat.mod_one]

/-- Rounding is off by at most half a unit. -/
theorem roundHalfEven_near (num den : Nat) (h : 0 < den) :
    2 * (roundHalfEven num den * den) ≤ 2 * num + den ∧
      2 * num ≤ 2 * (roundHalfEven num den * den) + den := by
  have hd := Nat.div_add_mod num den
  have hr := Nat.mod_lt num h
  have e : num / den * den = den * (num / den) := Nat.mul_comm _ _
  have e' : (num / den + 1) * den = den * (num / den) + den := by rw [Nat.add_mul, e, Nat.one_mul]
  unfold roundHalfEven
  dsimp only
  split
  · rw [e]; omega
  · split
    · rw [e']; omega
    · split
      · rw [e]; omega
      · rw [e']; omega

end BluetoothControl.Decimal
