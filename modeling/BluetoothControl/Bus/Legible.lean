import BluetoothControl.Event

/-!
# Legible replies

What is read from the reply to a message depends on the message: the value of a property, a map of
properties, a map of objects with their interfaces, or nothing.  A reply is legible if what is read
from it is there, and an error reply if the text that explains the error can be found.
-/

namespace BluetoothControl

namespace Value

/-- Whether names can be looked up in a value. -/
def isSearchable : Value → Bool
  | dict _ | list _ | text _ => true
  | _ => false

end Value

/-- What is read from the body of a reply. -/
inductive Reads
  | nothing
  /-- The first argument, whatever it is. -/
  | value
  /-- The first argument, a map. -/
  | properties
  /-- The first argument, a map of objects in whose interfaces names can be looked up. -/
  | objects
  deriving Repr, DecidableEq

namespace Reads

/-- Whether what is read is there. -/
def areIn : Reads → List Value → Bool
  | nothing, _ => true
  | value, _ :: _ => true
  | properties, .dict _ :: _ => true
  | objects, .dict entries :: _ => entries.all (·.2.isSearchable)
  | _, _ => false

end Reads

namespace Message

/-- What is read from the reply to a message. -/
def reads (m : Message) : Reads :=
  if m.interface = propertiesInterface then
    if m.member = "Get" then .value
    else if m.member = "GetAll" then .properties
    else .nothing
  else if m.interface = objectManagerInterface then .objects
  else .nothing

end Message

namespace Delivery

/-- A reply came while somebody waited for it. -/
def isTimely : Delivery → Bool
  | answered _ => true
  | _ => false

/-- Whether everything that is read from what came for a message is there. -/
def isLegible (m : Message) : Delivery → Bool
  | answered (.returned body) => m.reads.areIn body
  | answered (.refused r) => r.detail.toOption.isSome
  | _ => true

/-- Whether all objects, if objects came for a message, go by object paths. -/
def namesPaths (m : Message) : Delivery → Bool
  | answered (.returned (.dict objects :: _)) =>
    m.reads ≠ .objects || objects.all (ObjectPath.isValid ·.1)
  | _ => true

end Delivery

namespace Event

/-- A reply came in time. -/
def isTimely : Event → Bool
  | resolved _ _ d => d.isTimely
  | _ => false

/-- No reply that came is illegible. -/
def isLegible : Event → Bool
  | resolved _ m d => d.isLegible m
  | _ => true

/-- No reply that came lists objects by anything but object paths. -/
def namesPaths : Event → Bool
  | resolved _ m d => d.namesPaths m
  | _ => true

end Event

/-- Of these no reply came in time. -/
def Untimely (es : List Event) : Prop := ∀ e ∈ es, e.isTimely = false

/-- All replies among these are legible. -/
def Legible (es : List Event) : Prop := ∀ e ∈ es, e.isLegible = true

/-- All replies among these are legible, and list objects by object paths. -/
def WellFormed (es : List Event) : Prop := ∀ e ∈ es, e.isLegible = true ∧ e.namesPaths = true

/-! ## Lemmas -/

theorem Delivery.isTimely_hurried (d : Delivery) : d.hurried.isTimely = false := by
  cases d <;> rfl

theorem untimely_nil : Untimely [] := fun _ h => by cases h

theorem untimely_append {es fs : List Event} : Untimely (es ++ fs) ↔ Untimely es ∧ Untimely fs :=
  List.forall_mem_append

/-- What is no message is no reply. -/
theorem Event.isTimely_of_isMessage {e : Event} (h : e.isMessage = false) : e.isTimely = false := by
  cases e with
  | resolved n m d => cases h
  | _ => rfl

/-- What does not come in time is not read. -/
theorem Untimely.legible {es : List Event} (h : Untimely es) : Legible es := by
  intro e he
  have ht := h e he
  cases e with
  | resolved n m d =>
    cases d with
    | answered r => cases ht
    | _ => rfl
  | _ => rfl

theorem legible_nil : Legible [] := fun _ h => by cases h

theorem legible_append {es fs : List Event} : Legible (es ++ fs) ↔ Legible es ∧ Legible fs :=
  List.forall_mem_append

theorem legible_of_isMessage {es : List Event} (h : es.any Event.isMessage = false) :
    Legible es := by
  refine Untimely.legible fun e he => ?_
  exact Event.isTimely_of_isMessage (Bool.not_eq_true _ ▸ List.any_eq_false.mp h e he)

/-- A reply is traffic. -/
theorem Silent.legible {es : List Event} (h : Silent es) : Legible es := by
  intro e he
  have ht := h e he
  cases e with
  | resolved n m d => cases ht
  | _ => rfl

theorem WellFormed.legible {es : List Event} (h : WellFormed es) : Legible es :=
  fun e he => (h e he).1

theorem wellFormed_append {es fs : List Event} :
    WellFormed (es ++ fs) ↔ WellFormed es ∧ WellFormed fs := List.forall_mem_append

theorem legible_cons {e : Event} {es : List Event} :
    Legible (e :: es) ↔ e.isLegible = true ∧ Legible es := List.forall_mem_cons

/-- An unreadable error reply fails as a value of the wrong type does. -/
theorem ErrorReply.detail_error {r : ErrorReply} {f : Failure} (h : r.detail = .error f) :
    f = .missingKey ∨ f = .wrongType := by
  unfold ErrorReply.detail at h
  split at h
  · cases h
  · split at h
    · cases h
    · cases h
    · cases h
    · cases h
    · cases h
      exact Or.inl rfl
    · cases h
      exact Or.inr rfl

end BluetoothControl
