import BluetoothControl.Event

/-!
# The dialogue with the management service

The messages to the management service in the order in which they were sent, and how each fared.
What goes to the bus daemon, such as requests for notifications, is left out.
-/

namespace BluetoothControl

/-- A message to the management service, and how it fared. -/
structure Exchange where
  message : Message
  delivery : Delivery

namespace Event

/-- The message to the service that is sent, if one is. -/
def request? : Event → Option Message
  | sent _ m => if m.destination == serviceName then some m else none
  | _ => none

/-- The message to the service whose fate is told, if one is. -/
def exchange? : Event → Option Exchange
  | resolved _ m d => if m.destination == serviceName then some ⟨m, d⟩ else none
  | _ => none

/-- The message that is sent, to whomever, and its connection, if one is. -/
def message? : Event → Option (Nat × Message)
  | sent n m => some (n, m)
  | _ => none

end Event

/-- All messages that were sent, each with its connection. -/
def messages (log : List Event) : List (Nat × Message) := log.filterMap Event.message?

/-- The messages to the service that were sent. -/
def requests (log : List Event) : List Message := log.filterMap Event.request?

/-- The messages to the service with what came of them. -/
def dialogue (log : List Event) : List Exchange := log.filterMap Event.exchange?

/-- There is no message to the service among these. -/
def Unaddressed (es : List Event) : Prop := ∀ e ∈ es, e.isAddressed = false

/-! ## Lemmas -/

theorem requests_append (es fs : List Event) : requests (es ++ fs) = requests es ++ requests fs :=
  List.filterMap_append

theorem messages_append (es fs : List Event) : messages (es ++ fs) = messages es ++ messages fs :=
  List.filterMap_append

theorem dialogue_append (es fs : List Event) : dialogue (es ++ fs) = dialogue es ++ dialogue fs :=
  List.filterMap_append

theorem unaddressed_nil : Unaddressed [] := fun _ h => by cases h

theorem unaddressed_singleton {e : Event} (h : e.isAddressed = false) : Unaddressed [e] :=
  List.forall_mem_singleton.mpr h

theorem unaddressed_append {es fs : List Event} :
    Unaddressed (es ++ fs) ↔ Unaddressed es ∧ Unaddressed fs := List.forall_mem_append

theorem Silent.messages {es : List Event} (h : Silent es) : messages es = [] := by
  refine List.filterMap_eq_nil_iff.mpr fun e he => ?_
  have ht := h e he
  cases e with
  | sent n m => cases ht
  | _ => rfl

theorem Silent.unaddressed {es : List Event} (h : Silent es) : Unaddressed es := by
  intro e he
  have ht := h e he
  cases e with
  | sent n m => cases ht
  | resolved n m d => cases ht
  | _ => rfl

theorem Unaddressed.requests {es : List Event} (h : Unaddressed es) : requests es = [] := by
  refine List.filterMap_eq_nil_iff.mpr fun e he => ?_
  have ha := h e he
  cases e with
  | sent n m => exact if_neg (Bool.not_eq_true _ ▸ ha)
  | _ => rfl

theorem Unaddressed.dialogue {es : List Event} (h : Unaddressed es) : dialogue es = [] := by
  refine List.filterMap_eq_nil_iff.mpr fun e he => ?_
  have ha := h e he
  cases e with
  | resolved n m d => exact if_neg (Bool.not_eq_true _ ▸ ha)
  | _ => rfl

section
variable {m : Message} (h : m.destination = serviceName) (n : Nat) (d : Delivery)

include h

theorem requests_exchange : requests [.sent n m, .resolved n m d] = [m] := by
  have hs : Event.request? (.sent n m) = some m := by simp [Event.request?, h]
  rw [requests, List.filterMap_cons_some hs, List.filterMap_cons_none rfl]
  rfl

theorem dialogue_exchange : dialogue [.sent n m, .resolved n m d] = [⟨m, d⟩] := by
  have hs : Event.exchange? (.resolved n m d) = some ⟨m, d⟩ := by simp [Event.exchange?, h]
  rw [dialogue, List.filterMap_cons_none rfl, List.filterMap_cons_some hs]
  rfl

end

end BluetoothControl
