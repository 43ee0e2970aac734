import BluetoothControl.Bus.Dialogue

/-!
# What comes back from the bus

The fates of all messages, those to the bus daemon among them, in the order in which they became
known, and the connections that were opened.
-/

namespace BluetoothControl

namespace ErrorReply

/-- The body of an error reply is a list, if there is one. -/
def isListed (r : ErrorReply) : Bool :=
  match r.body with
  | .null | .list _ => true
  | _ => false

end ErrorReply

namespace Delivery

/-- The error reply that came, if one did. -/
def refusal? : Delivery → Option ErrorReply
  | answered (.refused r) => some r
  | _ => none

end Delivery

namespace Event

/-- The fate of a message, if it becomes known. -/
def delivery? : Event → Option Delivery
  | resolved _ _ d => some d
  | _ => none

/-- The connection that is opened, if one is. -/
def opened? : Event → Option Nat
  | connected n | strayed n => some n
  | _ => none

end Event

/-- The fates of all messages. -/
def deliveries (log : List Event) : List Delivery := log.filterMap Event.delivery?

/-- The error replies that came. -/
def refusals (log : List Event) : List ErrorReply := (deliveries log).filterMap Delivery.refusal?

/-- The connections that were opened. -/
def openings (log : List Event) : List Nat := log.filterMap Event.opened?

/-- The last that is known of any message is that its method returned. -/
def endsAccepted (log : List Event) : Bool :=
  ((deliveries log).getLast?.map Delivery.isAccepted).getD false

/-- The name of the error reply behind a failure, if that is what something came to. -/
def replyBehind {α : Type} : Except Failure α → Option String
  | .ok _ => none
  | .error f => f.reply

/-- The error replies that came have lists as bodies, if any. -/
def Listed (log : List Event) : Prop := ∀ r ∈ refusals log, r.isListed = true

/-! ## Lemmas -/

/-- An error reply whose body is a list can be read. -/
theorem ErrorReply.detail_of_isListed {r : ErrorReply} (h : r.isListed = true) :
    ∃ text, r.detail = .ok text := by
  obtain ⟨name, body⟩ := r
  cases body with
  | null => exact ⟨_, rfl⟩
  | list items =>
    cases items with
    | nil => exact ⟨_, rfl⟩
    | cons v rest => cases v <;> exact ⟨_, rfl⟩
  | _ => cases h

theorem deliveries_append (es fs : List Event) :
    deliveries (es ++ fs) = deliveries es ++ deliveries fs := List.filterMap_append

theorem mem_deliveries {log : List Event} {n : Nat} {m : Message} {d : Delivery}
    (h : .resolved n m d ∈ log) : d ∈ deliveries log := List.mem_filterMap.mpr ⟨_, h, rfl⟩

theorem refusals_append (es fs : List Event) :
    refusals (es ++ fs) = refusals es ++ refusals fs := by
  unfold refusals
  rw [deliveries_append, List.filterMap_append]

theorem openings_append (es fs : List Event) :
    openings (es ++ fs) = openings es ++ openings fs := List.filterMap_append

theorem endsAccepted_exchange (es : List Event) (n : Nat) (m : Message) (d : Delivery) :
    endsAccepted (es ++ [.sent n m, .resolved n m d]) = d.isAccepted := by
  have hd : deliveries [.sent n m, .resolved n m d] = [d] := rfl
  unfold endsAccepted
  rw [deliveries_append, hd, List.getLast?_concat]
  rfl

theorem refusals_exchange (n : Nat) (m : Message) (d : Delivery) :
    refusals [.sent n m, .resolved n m d] = d.refusal?.toList := by
  have hd : deliveries [.sent n m, .resolved n m d] = [d] := rfl
  unfold refusals
  rw [hd, List.filterMap_cons]
  cases d.refusal? <;> rfl

theorem refusal?_of_isAccepted {d : Delivery} (h : d.isAccepted = true) : d.refusal? = none := by
  cases d with
  | answered r => cases r <;> first | rfl | cases h
  | fails f => rfl
  | unanswered => rfl
  | belated r => rfl

end BluetoothControl
