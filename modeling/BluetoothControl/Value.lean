/-!
# Values

What property maps, message bodies and calls hold: the values of a message bus, where a variant
carries its own signature.  Maps keep the order in which their keys were first written.
-/

namespace BluetoothControl

/-- A dynamically typed value. -/
inductive Value
  | null
  | bool (b : Bool)
  | int (n : Int)
  | real (x : Float)
  | text (s : String)
  | bytes (bs : List UInt8)
  | list (items : List Value)
  | dict (entries : List (String × Value))
  | variant (signature : String) (value : Value)
  deriving Repr, Inhabited

namespace Value

/-- Whether a value counts as true: nothing, zero and what is empty do not, all else does. -/
def truth : Value → Bool
  | null => false
  | bool b => b
  | int n => n ≠ 0
  | real x => !(x == 0)
  | text s => s ≠ ""
  | bytes bs => !bs.isEmpty
  | list items => !items.isEmpty
  | dict entries => !entries.isEmpty
  | variant .. => true

/-- One variant layer taken off. -/
def unwrap : Value → Value
  | variant _ v => v
  | v => v

/-- The text that a value is, if it is one. -/
def text? : Value → Option String
  | text s => some s
  | _ => none

/-- A whole number; truth values count as one and zero. -/
def int? : Value → Option Int
  | int n => some n
  | bool b => some (if b then 1 else 0)
  | _ => none

/-- Whether a value equals a whole number, as truth values and fractions can too. -/
def countsAs (n : Int) : Value → Bool
  | int m => m == n
  | bool b => (if b then 1 else 0) == n
  | real x => x == Float.ofInt n
  | _ => false

/-- Whether a value equals a truth value. -/
def agrees (b : Bool) (v : Value) : Bool := v.countsAs (if b then 1 else 0)

/-- Whether a value can be looked up by: what can change in place cannot. -/
def isKey : Value → Bool
  | list _ | dict _ | variant .. => false
  | _ => true

/-- A text, or nothing in its place. -/
def ofText? : Option String → Value
  | some s => text s
  | none => null

/-- The entries of a map. -/
def entries? : Value → Option (List (String × Value))
  | dict entries => some entries
  | _ => none

/-- Whether a value is this text. -/
def isText (s : String) : Value → Bool
  | text t => t == s
  | _ => false

/-! ## Lemmas -/

theorem agrees_bool (a b : Bool) : (bool a).agrees b = (a == b) := by cases a <;> cases b <;> rfl

theorem countsAs_int (m n : Int) : (int m).countsAs n = (m == n) := rfl

theorem text?_ofText? (s : Option String) : (ofText? s).text? = s := by cases s <;> rfl

end Value

/-- A map of properties, in order. -/
abbrev Props := List (String × Value)

namespace Props

/-- The value of a property. -/
def get? (props : Props) (name : String) : Option Value := props.lookup name

/-- Every value with one variant layer taken off. -/
def unwrap (props : Props) : Props := props.map fun e => (e.1, e.2.unwrap)

/-- A property set: a known one keeps its place, a new one comes last. -/
def set (props : Props) (name : String) (value : Value) : Props :=
  if props.any (·.1 == name) then props.map fun e => if e.1 == name then (name, value) else e
  else props ++ [(name, value)]

/-! ## Lemmas -/

theorem unwrap_keys (props : Props) : (unwrap props).map (·.1) = props.map (·.1) := by
  simp [unwrap, Function.comp_def]

theorem get?_unwrap (props : Props) (name : String) :
    get? (unwrap props) name = (get? props name).map Value.unwrap := by
  induction props with
  | nil => rfl
  | cons e rest ih =>
    obtain ⟨key, value⟩ := e
    simp only [get?, unwrap, List.map_cons, List.lookup_cons] at ih ⊢
    cases name == key
    · exact ih
    · rfl

end Props

end BluetoothControl
