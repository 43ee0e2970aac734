import BluetoothControl.Failure
import BluetoothControl.Text.Blank
import BluetoothControl.Text.Hex
import BluetoothControl.Text.UpperCase

/-!
# Device addresses

A device address is six bytes.  Its canonical text is six pairs of upper-case hexadecimal digits
with single colons between them; `Address.normalize` brings every accepted spelling to that form.
-/

namespace BluetoothControl.Address

open BluetoothControl.Text

/-! ## Algorithm -/

/-- An upper-case hexadecimal digit. -/
def isUpperHex (c : Char) : Bool := ('0' ≤ c && c ≤ '9') || ('A' ≤ c && c ≤ 'F')

/-- `count` more pairs of digits, each after a colon, and nothing else. -/
def isTail : Nat → List Char → Bool
  | 0, cs => cs.isEmpty
  | count + 1, ':' :: a :: b :: rest => isUpperHex a && isUpperHex b && isTail count rest
  | _ + 1, _ => false

/-- The canonical form: six pairs of upper-case hexadecimal digits, colons between them. -/
def isCanonical : List Char → Bool
  | a :: b :: rest => isUpperHex a && isUpperHex b && isTail 5 rest
  | _ => false

/-- The pattern of addresses: the canonical form up to the end of a text, or up to a line break
there. -/
def matchesPattern (cs : List Char) : Bool :=
  isCanonical cs || (cs.getLast? == some '\n' && isCanonical cs.dropLast)

/-- The canonical form of a spelling: blanks around it go, letters become upper case. -/
def canonical? (cs : List Char) : Option (List Char) :=
  let spelled := upper (trim cs)
  if matchesPattern spelled then some spelled else none

/-- The canonical address that a text spells. -/
def normalize (s : String) : Except Failure String :=
  match canonical? s.toList with
  | some cs => .ok (String.ofList cs)
  | none => .error (.malformedAddress s)

/-- The address of six bytes, the least significant first. -/
def ofBytes (bytes : List UInt8) : String :=
  String.ofList ([':'].intercalate (bytes.reverse.map upperHexByte))

/-! ## Lemmas -/

theorem length_of_isTail {count : Nat} {cs : List Char} (h : isTail count cs) :
    cs.length = 3 * count := by
  fun_induction isTail count cs with
  | case1 cs => simpa using h
  | case2 n a b rest ih =>
    simp only [Bool.and_eq_true] at h
    have := ih h.2
    simp only [List.length_cons]
    omega
  | case3 => simp at h

theorem length_of_isCanonical {cs : List Char} (h : isCanonical cs) : cs.length = 17 := by
  unfold isCanonical at h
  split at h
  · simp only [Bool.and_eq_true] at h
    have := length_of_isTail h.2
    simp only [List.length_cons]
    omega
  · exact absurd h (by simp)

/-- Without blanks at the end there is no line break there, in upper case neither. -/
theorem matchesPattern_upper (cs : List Char) :
    matchesPattern (upper (trim cs)) = isCanonical (upper (trim cs)) := by
  have hbreak : (upper (trim cs)).getLast? ≠ some '\n' := fun h =>
    absurd (isBlank_of_getLast?_trim (getLast?_of_upper h)) (by decide)
  unfold matchesPattern
  rw [beq_false_of_ne hbreak, Bool.false_and, Bool.or_false]

theorem canonical?_eq (cs : List Char) :
    canonical? cs = if isCanonical (upper (trim cs)) then some (upper (trim cs)) else none := by
  unfold canonical?
  dsimp only
  rw [matchesPattern_upper]

theorem isCanonical_of_canonical? {cs out : List Char} (h : canonical? cs = some out) :
    isCanonical out := by
  rw [canonical?_eq] at h
  split at h
  · cases h; assumption
  · cases h

/-- A text that is no spelling is refused for that. -/
theorem eq_of_normalize_error {s : String} {f : Failure} (h : normalize s = .error f) :
    f = .malformedAddress s := by
  unfold normalize at h
  split at h
  · cases h
  · cases h
    rfl

/-- What is no address is a value without a meaning. -/
theorem isA_of_normalize {s : String} {f : Failure} (h : normalize s = .error f) :
    f.isA .badValue = true := by
  rw [eq_of_normalize_error h]
  rfl

end BluetoothControl.Address
