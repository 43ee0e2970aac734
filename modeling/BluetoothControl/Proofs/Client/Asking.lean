import BluetoothControl.Bus.Dialogue
import BluetoothControl.Proofs.Client.Reading

/-!
# What a request asks of the service

Whatever else a request does, to connect or to have notifications, it sends the service one message
and no more, or none if it fails before; and if it answers, its answer is read from what came of
that message (`Asks`).
-/

namespace BluetoothControl

open Procedure

/-! ## Messages -/

namespace Message

/-- The call that reads a property of an object. -/
def read (path interface name : String) : Message :=
  ⟨serviceName, path, propertiesInterface, "Get", "ss", [.text interface, .text name]⟩

/-- The call that switches an adapter. -/
def setPowered (path : String) (powered : Bool) : Message :=
  ⟨serviceName, path, propertiesInterface, "Set", "ssv",
    [.text adapterInterface, .text "Powered", .variant "b" (.bool powered)]⟩

/-- The call that limits what an adapter finds. -/
def setFilter (path : String) (filters : Props) : Message :=
  ⟨serviceName, path, adapterInterface, "SetDiscoveryFilter", "a\x7bsv\x7d",
    [.dict (filters.map fun e => (e.1, Client.filterVariant e.2))]⟩

/-- A call without arguments of an adapter. -/
def toAdapter (path member : String) : Message :=
  ⟨serviceName, path, adapterInterface, member, "", []⟩

/-- A call without arguments of a device. -/
def toDevice (path member : String) : Message :=
  ⟨serviceName, path, deviceInterface, member, "", []⟩

end Message

namespace Delivery

/-- The reply to a read says that the property has this truth. -/
def reads (b : Bool) : Delivery → Bool
  | answered (.returned (v :: _)) => v.unwrap.truth == b
  | _ => false

/-- The reply to a read of all properties of a device does not say that it is connected. -/
def deniesConnected : Delivery → Bool
  | answered (.returned (.dict entries :: _)) =>
    !(((Props.unwrap entries).get? "Connected").map Value.truth).getD false
  | _ => false

end Delivery

namespace Client

variable {α β ε : Type} {m : Message} {Q : α → Delivery → Prop} {Q' : β → Delivery → Prop}

/-- From wherever it starts, a procedure sends the service the message `m` at most; if it answers
it did send it, and `Q` holds of its answer and what came of the message. -/
def Asks (m : Message) (Q : α → Delivery → Prop) (p : Procedure ε (World Client) α) : Prop :=
  ∀ w, ∃ c es, (p w).2 = w.after c es ∧
    ((∃ e, (p w).1 = .error e) ∧ Unaddressed es ∨
      ∃ d, requests es = [m] ∧ dialogue es = [⟨m, d⟩] ∧ ∀ a, (p w).1 = .ok a → Q a d)

/-! ## Composition -/

/-- What reads off an answer and changes nothing asks no more. -/
theorem asks_bind {p : Procedure ε (World Client) α} {f : α → Procedure ε (World Client) β}
    (hp : Asks m Q p) (hf : ∀ a w, (f a w).2 = w)
    (hq : ∀ a d w b, Q a d → (f a w).1 = .ok b → Q' b d) : Asks m Q' (p >>= f) := by
  intro w
  obtain ⟨c, es, hv, hr⟩ := hp w
  rw [bind_apply]
  rcases hpw : p w with ⟨r, v⟩
  rw [hpw] at hv hr
  cases r with
  | error e =>
    refine ⟨c, es, hv, ?_⟩
    rcases hr with hr | ⟨d, hs, hd, -⟩
    · exact Or.inl ⟨⟨e, rfl⟩, hr.2⟩
    · exact Or.inr ⟨d, hs, hd, fun b hb => by cases hb⟩
  | ok a =>
    refine ⟨c, es, (hf a v).trans hv, Or.inr ?_⟩
    rcases hr with ⟨⟨e, he⟩, -⟩ | ⟨d, hs, hd, ha⟩
    · cases he
    · exact ⟨d, hs, hd, fun b hb => hq a d v b (ha a rfl) hb⟩

theorem asks_map {p : Procedure ε (World Client) α} (f : α → β) (hp : Asks m Q p)
    (hq : ∀ a d, Q a d → Q' (f a) d) : Asks m Q' (f <$> p) := by
  rw [← bind_pure_comp]
  refine asks_bind hp (fun _ _ => rfl) fun a d w b h hb => ?_
  cases hb
  exact hq a d h

/-- A handler that fails another way asks no more. -/
theorem asks_tryCatch {p : Procedure ε (World Client) α}
    {handler : ε → Procedure ε (World Client) α} (hp : Asks m Q p)
    (hh : ∀ e w, ∃ e', handler e w = (.error e', w)) :
    Asks m Q (tryCatch p handler) := by
  intro w
  obtain ⟨c, es, hv, hr⟩ := hp w
  rcases hpw : p w with ⟨r, v⟩
  rw [hpw] at hv hr
  cases r with
  | ok a =>
    rw [tryCatch_ok hpw]
    exact ⟨c, es, hv, hr⟩
  | error e =>
    obtain ⟨e', he⟩ := hh e v
    rw [tryCatch_error hpw, he]
    refine ⟨c, es, hv, ?_⟩
    rcases hr with hr | ⟨d, hs, hd, -⟩
    · exact Or.inl ⟨⟨e', rfl⟩, hr.2⟩
    · exact Or.inr ⟨d, hs, hd, fun b hb => by cases hb⟩

theorem asks_error {p : Procedure ε (World Client) α} (hp : ∀ w, ∃ e, p w = (.error e, w)) :
    Asks m Q p := by
  intro w
  obtain ⟨e, he⟩ := hp w
  rw [he]
  exact ⟨w.service, [], (World.after_nil w).symm, Or.inl ⟨⟨e, rfl⟩, unaddressed_nil⟩⟩

/-! ## Calls -/

/-- What is observed while a client connects and has notifications is no message to the service. -/
theorem withstands_unaddressed (w : World Client) :
    Withstands (fun _ => True) fun v => ∃ c es, v = w.after c es ∧ Unaddressed es := by
  refine withstands_of_observe ?_ ?_
  · rintro f - v ⟨c, es, rfl, hs⟩
    refine ⟨f c, es, ?_, hs⟩
    rw [World.after_after, List.append_nil]
    rfl
  · rintro e he v ⟨c, es, rfl, hs⟩
    refine ⟨c, es ++ [e], ?_, unaddressed_append.mpr ⟨hs, unaddressed_singleton he⟩⟩
    rw [World.after_service, World.after_after]

theorem asks_call (hm : m.destination = serviceName) (context : String) :
    Asks m (fun body d => d = .answered (.returned body)) (call m context) := by
  intro w
  obtain ⟨c, es, hv, hs⟩ := keeps_obtainBus (withstands_unaddressed w).inert w
    ⟨w.service, [], (World.after_nil w).symm, unaddressed_nil⟩
  unfold call
  rw [bind_apply]
  rcases ho : obtainBus w with ⟨r, v⟩
  rw [ho] at hv
  cases r with
  | error e => exact ⟨c, es, hv, Or.inl ⟨⟨e, rfl⟩, hs⟩⟩
  | ok n =>
    obtain rfl : v = w.after c es := hv
    dsimp only
    rw [exchange_apply, World.after_after]
    generalize ((w.after c es).service.link.nextReply n).1 = d
    refine ⟨_, es ++ [.sent n m, .resolved n m d], rfl, Or.inr ⟨d, ?_, ?_, fun body hb => ?_⟩⟩
    · rw [requests_append, hs.requests, requests_exchange hm]
      rfl
    · rw [dialogue_append, hs.dialogue, dialogue_exchange hm]
      rfl
    · exact of_verdict_ok hb

theorem asks_callMethod {path interface member signature : String} {args : List Value} :
    Asks ⟨serviceName, path, interface, member, signature, args⟩
      (fun body d => d = .answered (.returned body))
      (callMethod path interface member signature args) := by
  unfold callMethod Message.call
  cases ObjectPath.isValid path with
  | false => exact asks_error fun w => ⟨_, rfl⟩
  | true => exact asks_call rfl _

theorem asks_hastily {task : Task α} (ht : Asks m Q task) : Asks m Q (hastily task) := by
  intro w
  obtain ⟨c, es, hv, hr⟩ := ht (w.after (w.service.withLink (w.service.link.pace true)) [])
  rw [hastily_apply]
  refine ⟨c.withLink (c.link.pace false), es, ?_, hr⟩
  dsimp only
  rw [hv, World.after_after, World.after_after, List.nil_append, List.append_nil]
  rfl

/-- In whatever time it is given, a task asks what it asks. -/
theorem asks_paced {task : Task α} (ht : Asks m Q task) (bound : Seconds) :
    Asks m Q (paced bound task) := by
  unfold paced
  cases bound.patience with
  | waits => exact ht
  | looks => exact asks_hastily ht
  | refuses => exact ht

/-- A task that is handed to the loop asks what it asks, if it is carried out. -/
theorem asks_runTask {task : Task α} (ht : Asks m Q task) (bound : Seconds) :
    Asks m Q (runTask bound task) := by
  intro w
  have hcalled : Unaddressed [.called (some bound)] := unaddressed_singleton rfl
  rw [runTask_eq]
  cases w.loop.current with
  | none => exact ⟨_, _, rfl, Or.inl ⟨⟨_, rfl⟩, hcalled⟩⟩
  | some thread =>
    dsimp only
    split
    · exact ⟨_, _, rfl, Or.inl ⟨⟨_, rfl⟩, hcalled⟩⟩
    · obtain ⟨c, es, hv, hr⟩ := asks_paced ht bound (w.after w.service [.called (some bound)])
      rcases hx : paced bound task (w.after w.service [.called (some bound)]) with ⟨r, v⟩
      rw [hx] at hv hr
      refine ⟨c, .called (some bound) :: es, hv.trans (World.after_after ..), ?_⟩
      rcases hr with ⟨⟨e, he⟩, hs⟩ | ⟨d, hs, hd, ha⟩
      · obtain rfl : r = .error e := he
        exact Or.inl ⟨answer_of_error .., unaddressed_append.mpr ⟨hcalled, hs⟩⟩
      · exact Or.inr ⟨d, hs, hd, fun a hb => ha a (of_answer_ok hb)⟩

theorem asks_perform {task : Task α} (ht : Asks m Q task) : Asks m Q (perform task) := fun w =>
  asks_runTask ht w.service.callTimeout w

/-! ## Requests -/

theorem asks_request {path interface member signature : String} {args : List Value} :
    Asks ⟨serviceName, path, interface, member, signature, args⟩ (fun _ d => d.isAccepted = true)
      (perform (discard (callMethod path interface member signature args))) := by
  refine asks_perform (asks_map _ asks_callMethod fun body d hd => ?_)
  rw [hd]
  rfl

theorem asks_getFlag {path interface name : String} :
    Asks (.read path interface name) (fun b d => d.reads b = true)
      (perform (getFlag path interface name)) := by
  refine asks_perform
    (asks_map (Q := fun v d => d.reads v.truth = true) Value.truth ?_ fun _ _ h => h)
  refine asks_bind asks_callMethod (fun body w => ?_) fun body d w v hd hv => ?_
  · cases body <;> rfl
  · cases body with
    | nil => cases hv
    | cons x rest =>
      cases hv
      rw [hd]
      exact beq_self_eq_true _

theorem asks_deviceProperties (path : String) :
    Asks (propertiesMessage path)
      (fun props d => ∃ entries rest, d = .answered (.returned (.dict entries :: rest)) ∧
        props = Props.unwrap entries) (deviceProperties path) := by
  refine asks_perform (asks_bind asks_callMethod (fun body w => ?_) fun body d w v hd hv => ?_)
  · cases body with
    | nil => rfl
    | cons x rest => cases x <;> rfl
  · cases body with
    | nil => cases hv
    | cons x rest =>
      cases x with
      | dict entries =>
        cases hv
        exact ⟨entries, rest, hd, rfl⟩
      | _ => cases hv

/-- The answer whether a device is connected is that of the reply. -/
theorem asks_getConnected (path : String) :
    Asks (propertiesMessage path) (fun b d => b = false → d.deniesConnected = true)
      (getConnected path) := by
  refine asks_bind (asks_deviceProperties path) (fun _ _ => rfl) ?_
  rintro props d w b ⟨entries, rest, rfl, rfl⟩ hb hf
  rw [hf] at hb
  exact congrArg not (Except.ok.inj hb)

/-- Connecting asks nothing if its bound is up at once, and answers if the service accepted. -/
theorem asks_connect (path : String) (timeout : Seconds) :
    Asks (.toDevice path "Connect") (fun _ d => d.isAccepted = true) (connect path timeout) := by
  intro w
  have htask (outer : Seconds) :
      Asks (.toDevice path "Connect") (fun _ d => d.isAccepted = true)
        (connectTask path timeout outer) := by
    unfold connectTask
    dsimp only
    split
    · exact asks_error fun _ => ⟨_, rfl⟩
    · refine asks_tryCatch (asks_map _ asks_callMethod fun body d hd => ?_) fun halt v => ?_
      · rw [hd]
        rfl
      cases halt with
      | unanswered =>
        dsimp only
        split
        · exact ⟨_, rfl⟩
        · exact ⟨_, rfl⟩
      | failed f =>
        dsimp only
        split
        · exact ⟨_, rfl⟩
        · exact ⟨_, rfl⟩
  unfold connect
  rw [bind_ok (current_apply w), bind_apply, ofExcept_apply]
  cases boundWith timeout w.service.callTimeout with
  | error f => exact asks_error (m := .toDevice path "Connect") (p := throw f) (fun _ => ⟨f, rfl⟩) w
  | ok bound => exact asks_runTask (htask bound) bound w

theorem asks_listObjects (interface : String) :
    Asks objectsMessage (fun _ _ => True) (listObjects interface) := by
  refine asks_perform (asks_bind asks_callMethod (fun body w => ?_) fun _ _ _ _ _ _ => trivial)
  cases body with
  | nil => rfl
  | cons x rest =>
    cases x with
    | dict objects =>
      exact congrArg Prod.snd (match_withInterface interface objects w)
    | _ => rfl

end Client

end BluetoothControl
