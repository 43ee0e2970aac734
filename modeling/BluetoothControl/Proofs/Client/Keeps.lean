import BluetoothControl.Proofs.Client.Effect
import BluetoothControl.Proofs.Procedure

/-!
# What a client's operations keep

Whatever a client is asked, it hands a task to the loop and calls the management service.  A
property of worlds that those two keep is kept by every request, and if entering and removing
subscribers and closing keep it too, by every operation (`keeps_execute`).  What those keep in turn
comes down to changes of the client and to what is observed besides messages to the service.
-/

namespace BluetoothControl.Client

open Procedure

/-- Whether anyone has time to wait for the bus makes no difference to a property. -/
def Unhurried (P : World Client → Prop) : Prop :=
  ∀ hasty w, P w → P (w.after (w.service.withLink (w.service.link.pace hasty)) [])

/-- To call the management service keeps a property. -/
def Heeds (P : World Client → Prop) : Prop :=
  ∀ (m : Message) (context : String), m.destination = serviceName → Keeps P (call m context)

/-- To hand a task to the loop and to call the management service keeps a property. -/
structure Upholds (P : World Client → Prop) : Prop where
  called : ∀ bound w, P w → P (w.after w.service [.called bound])
  pace : Unhurried P
  call : Heeds P

variable {α ε : Type} {P : World Client → Prop}

/-! ## The connection and the handler -/

/-- A change of the client that keeps the bound on its calls and the time that there is for the
bus. -/
def Calm (f : Client → Client) : Prop :=
  ∀ c, (f c).callTimeout = c.callTimeout ∧ (f c).link.hasty = c.link.hasty

/-- A property to which the connection and the handler make no difference, nor messages to anyone
but the service, nor anything else that is observed. -/
structure Inert (P : World Client → Prop) : Prop where
  record : ∀ f : Client → Client, Calm f → (∀ c, (f c).subscriptions = c.subscriptions) →
    ∀ w, P w → P (w.after (f w.service) [])
  observe : ∀ e, e.isMessage = false → ∀ w, P w → P (w.after w.service [e])
  exchange : ∀ (m : Message) (n : Nat) (context : String), m.destination ≠ serviceName →
    Keeps P (exchange n m context)

theorem keeps_current : Keeps P (current : Procedure ε (World Client) Client) := fun _ h => h

theorem keeps_fail (f : Failure) : Keeps P (fail f : Task α) := keeps_throw _

section
variable (h : Inert P)

include h

theorem keeps_record {f : Client → Client} (hf : Calm f)
    (hs : ∀ c, (f c).subscriptions = c.subscriptions) :
    Keeps P (change f : Procedure ε (World Client) Unit) := by
  intro w hw
  rw [change_apply]
  exact h.record f hf hs w hw

theorem keeps_changeLink {f : Link → Link} (hf : ∀ l, (f l).hasty = l.hasty) :
    Keeps P (changeLink f : Procedure ε (World Client) Unit) :=
  keeps_record h (fun c => ⟨rfl, hf c.link⟩) fun _ => rfl

theorem keeps_observe {e : Event} (he : e.isMessage = false) :
    Keeps P (World.observe e : Procedure ε (World Client) Unit) := h.observe e he

theorem Inert.called (bound : Option Seconds) (w : World Client) (hw : P w) :
    P (w.after w.service [.called bound]) := h.observe _ rfl w hw

/-- What changes the client so and is no message. -/
theorem Inert.after {f : Client → Client} (hf : Calm f)
    (hs : ∀ c, (f c).subscriptions = c.subscriptions) {es : List Event}
    (he : es.any Event.isMessage = false) {w : World Client} (hw : P w) :
    P (w.after (f w.service) es) := by
  induction es using List.reverseRecOn with
  | nil => exact h.record f hf hs w hw
  | append_singleton es e ih =>
    rw [List.any_append, Bool.or_eq_false_iff, List.any_cons, List.any_nil, Bool.or_false] at he
    have hv := h.observe e he.2 _ (ih he.1)
    rw [World.after_after] at hv
    exact hv

theorem keeps_reconnect : Keeps P reconnect := by
  intro w hw
  have hl (c : Client) : c.link.nextConnect.2.hasty = c.link.hasty := Link.hasty_nextConnect _
  have hr := reconnected w
  generalize reconnect w = x at hr
  cases hr with
  | opens => exact h.after (f := connected) (fun c => ⟨rfl, hl c⟩) (fun _ => rfl) rfl hw
  | lapses =>
    exact h.after (f := lapsed) (fun c => ⟨rfl, (Link.hasty_change ..).trans (hl c)⟩)
      (fun _ => rfl) rfl hw
  | strays => exact h.after (f := strayed) (fun c => ⟨rfl, hl c⟩) (fun _ => rfl) rfl hw
  | hangs =>
    exact h.after (f := fun c => c.withLink c.link.nextConnect.2) (fun c => ⟨rfl, hl c⟩)
      (fun _ => rfl) rfl hw
  | cancelled =>
    exact h.after (f := fun c => c.withLink c.link.nextConnect.2) (fun c => ⟨rfl, hl c⟩)
      (fun _ => rfl) rfl hw
  | unreachable =>
    exact h.after (f := fun c => { c.withLink c.link.nextConnect.2 with bus := none })
      (fun c => ⟨rfl, hl c⟩) (fun _ => rfl) rfl hw

theorem keeps_installAsking {ask : Task (List Value)} (ha : Keeps P ask) (n : Nat) :
    Keeps P (installAsking ask n) := by
  refine keeps_bind keeps_current fun c => ?_
  dsimp only
  split
  · exact keeps_pure _
  · refine keeps_bind (keeps_changeLink h fun _ => Link.hasty_change ..) fun _ =>
      keeps_bind (keeps_observe h rfl) fun _ =>
      keeps_bind (keeps_tryCatch (keeps_discard ha) fun e => ?_) fun _ =>
        keeps_bind (keeps_observe h rfl) fun _ =>
          keeps_record h (fun _ => ⟨rfl, rfl⟩) fun _ => rfl
    refine keeps_bind (keeps_observe h rfl) fun _ => ?_
    split
    · exact keeps_bind (keeps_changeLink h fun _ => Link.hasty_change ..) fun _ =>
        keeps_bind (keeps_observe h rfl) fun _ => keeps_throw _
    · exact keeps_throw _

theorem keeps_takeUp {ask : Task (List Value)} (ha : Keeps P ask) (n : Nat) :
    Keeps P (takeUp ask n) := by
  refine keeps_bind keeps_current fun c => ?_
  split
  · exact keeps_pure _
  · exact keeps_bind (keeps_installAsking h ha n) fun _ => keeps_bind keeps_current fun _ =>
      keeps_pure _

/-- However many connections are down at once. -/
theorem keeps_obtainWithin (depth : Nat) : Keeps P (obtainWithin depth) := by
  induction depth with
  | zero => exact keeps_throw _
  | succ depth ih =>
    refine keeps_bind keeps_current fun c => ?_
    split
    · exact keeps_pure _
    · exact keeps_bind (keeps_reconnect h) fun n =>
        keeps_takeUp h (keeps_bind ih fun n => h.exchange _ n _ (by decide)) n

theorem keeps_obtainBus : Keeps P obtainBus :=
  keeps_bind keeps_current fun _ => keeps_obtainWithin h _

theorem keeps_installHandler (n : Nat) : Keeps P (installHandler n) :=
  keeps_installAsking h
    (keeps_bind (keeps_obtainBus h) fun n => h.exchange _ n _ (by decide)) n

theorem keeps_uninstallHandler : Keeps P uninstallHandler := by
  refine keeps_bind keeps_current fun c => ?_
  split
  · exact keeps_pure _
  · refine keeps_bind (keeps_record h (fun _ => ⟨rfl, Link.hasty_change ..⟩) fun _ => rfl) fun _ =>
      keeps_bind (keeps_observe h rfl) fun _ => keeps_bind keeps_current fun c => ?_
    split
    · exact keeps_ignoring (keeps_discard (keeps_bind (keeps_obtainBus h) fun n =>
        h.exchange _ n _ (by decide)))
    · exact keeps_pure _

theorem keeps_letGo : Keeps P letGo := by
  refine keeps_bind keeps_current fun c => ?_
  split
  · exact keeps_pure _
  · refine keeps_bind (keeps_ignoring (keeps_bind (keeps_observe h rfl) fun _ =>
      keeps_bind (keeps_changeLink h fun _ => Link.hasty_change ..) fun _ =>
        keeps_bind keeps_current fun c => ?_)) fun _ =>
          keeps_record h (fun _ => ⟨rfl, rfl⟩) fun _ => rfl
    split
    · exact keeps_fail _
    · exact keeps_pure _

end

/-! ## Subscriptions and the end -/

/-- A change of the client that keeps the bound on its calls and the time that there is for the bus,
and adds no subscriber but those with `A`. -/
def Mild (A : Subscriber → Prop) (f : Client → Client) : Prop :=
  Calm f ∧ ∀ c, ∀ e ∈ (f c).subscriptions, e ∈ c.subscriptions ∨ A e.2

/-- What a client does short of sending to the management service keeps a property, if only
subscribers with `A` are new. -/
structure Withstands (A : Subscriber → Prop) (P : World Client → Prop) : Prop where
  change : ∀ f, Mild A f → ∀ w, P w → P (w.after (f w.service) [])
  observe : ∀ e, e.isMessage = false → ∀ w, P w → P (w.after w.service [e])
  exchange : ∀ (m : Message) (n : Nat) (context : String), m.destination ≠ serviceName →
    Keeps P (exchange n m context)

theorem mild_of_eq {A : Subscriber → Prop} {f : Client → Client} (hf : Calm f)
    (hs : ∀ c, (f c).subscriptions = c.subscriptions) : Mild A f :=
  ⟨hf, fun c e he => Or.inl (by rw [hs] at he; exact he)⟩

/-- Where it makes no difference what is observed short of messages to the service, messages to
others make none. -/
theorem withstands_of_observe {A : Subscriber → Prop}
    (hchange : ∀ f, Mild A f → ∀ w, P w → P (w.after (f w.service) []))
    (hobserve : ∀ e, e.isAddressed = false → ∀ w, P w → P (w.after w.service [e])) :
    Withstands A P where
  change := hchange
  observe e he := hobserve e (Event.isAddressed_of_isMessage he)
  exchange m n context hm w hw := by
    have he : (m.destination == serviceName) = false := beq_false_of_ne hm
    have hv := hchange (fun c => c.withLink (c.link.nextReply n).2)
      (mild_of_eq (fun c => ⟨rfl, Link.hasty_nextReply ..⟩) fun _ => rfl) w hw
    have hs := hobserve (.sent n m) he _ hv
    have hr := hobserve (.resolved n m (w.service.link.nextReply n).1) he _ hs
    rw [World.after_after, World.after_after] at hr
    rw [exchange_apply]
    exact hr

theorem Withstands.inert {A : Subscriber → Prop} (h : Withstands A P) : Inert P where
  record f hf hs := h.change f (mild_of_eq hf hs)
  observe := h.observe
  exchange := h.exchange

section
variable {A : Subscriber → Prop} (h : Withstands A P)

include h

theorem keeps_change {f : Client → Client} (hf : Mild A f) :
    Keeps P (change f : Procedure ε (World Client) Unit) := by
  intro w hw
  rw [change_apply]
  exact h.change f hf w hw

theorem keeps_subscribeTask {s : Subscriber} (hs : A s) : Keeps P (subscribeTask s) := by
  refine keeps_bind keeps_current fun c =>
    keeps_bind (keeps_change h ⟨fun _ => ⟨rfl, rfl⟩, fun d => ?_⟩) fun _ =>
    keeps_bind
      (keeps_tryCatch (keeps_bind (keeps_obtainBus h.inert) (keeps_installHandler h.inert))
        fun e => ?_)
      fun _ => keeps_pure _
  · intro e he
    rcases List.mem_append.mp he with he | he
    · exact Or.inl he
    · rw [List.mem_singleton.mp he]
      exact Or.inr hs
  · dsimp only
    split
    · exact keeps_bind (keeps_change h
        ⟨fun _ => ⟨rfl, rfl⟩, fun d e he => Or.inl (List.mem_filter.mp he).1⟩)
        fun _ => keeps_throw _
    · exact keeps_throw _

theorem Withstands.retain (p : Nat × Subscriber → Bool) (w : World Client) (hw : P w) :
    P (w.after { w.service with subscriptions := w.service.subscriptions.filter p } []) :=
  h.change (fun c => { c with subscriptions := c.subscriptions.filter p })
    ⟨fun _ => ⟨rfl, rfl⟩, fun _ _ he => Or.inl (List.mem_filter.mp he).1⟩ w hw

end

section
variable
  (hretain : ∀ p w, P w →
    P (w.after { w.service with subscriptions := w.service.subscriptions.filter p } []))
  (huninstall : Keeps P uninstallHandler)

include hretain huninstall

/-- What dropping subscriptions and taking the handler off keep, to unsubscribe keeps. -/
theorem keeps_unsubscribeTask (handle : Value) : Keeps P (unsubscribeTask handle) := by
  intro w hw
  unfold unsubscribeTask
  rw [bind_ok (current_apply w)]
  dsimp only
  split
  · exact hw
  · rw [bind_ok (change_apply _ w), bind_ok (current_apply _)]
    have hv := hretain (fun e => !handle.countsAs e.1) w hw
    split
    · exact huninstall _ hv
    · exact hv

theorem keeps_closeTask (hletGo : Keeps P letGo) : Keeps P closeTask := by
  intro w hw
  rw [closeTask_eq, bind_ok (change_apply _ w)]
  have hv := hretain (fun _ => false) w hw
  rw [List.filter_eq_nil_iff.mpr (by simp)] at hv
  exact keeps_rest (huninstall _ hv) fun _ => hletGo

end

/-! ## Requests -/

theorem keeps_firstArgument (body : List Value) : Keeps P (firstArgument body) := by
  cases body with
  | nil => exact keeps_fail _
  | cons v rest => exact keeps_pure v

section
variable (h : Heeds P) {path interface member signature : String} {body : List Value}

include h

theorem keeps_callMethod : Keeps P (callMethod path interface member signature body) := by
  unfold callMethod
  cases hm : Message.call path interface member signature body with
  | error f => exact keeps_fail f
  | ok m => exact h m _ (Message.destination_of_call hm)

theorem keeps_getFlag {name : String} : Keeps P (getFlag path interface name) :=
  keeps_bind
    (keeps_bind (keeps_callMethod h) fun body =>
      keeps_bind (keeps_firstArgument body) fun _ => keeps_pure _)
    fun _ => keeps_pure _

theorem keeps_getAll : Keeps P (getAll path interface) := by
  refine keeps_bind (keeps_callMethod h) fun body =>
    keeps_bind (keeps_firstArgument body) fun v => ?_
  split
  · exact keeps_pure _
  · exact keeps_fail _

theorem keeps_setPoweredTask (powered : Value) : Keeps P (setPoweredTask path powered) := by
  unfold setPoweredTask
  split
  · exact keeps_discard (keeps_callMethod h)
  · exact keeps_fail _

theorem keeps_setDiscoveryFilterTask (filters : Value) :
    Keeps P (setDiscoveryFilterTask path filters) := by
  unfold setDiscoveryFilterTask
  split
  · exact keeps_discard (keeps_callMethod h)
  · exact keeps_fail _

theorem keeps_listObjectsTask : Keeps P (listObjectsTask interface) := by
  refine keeps_bind (keeps_callMethod h) fun body =>
    keeps_bind (keeps_firstArgument body) fun v => ?_
  split
  · split
    · exact keeps_pure _
    · exact keeps_fail _
  · exact keeps_fail _

theorem keeps_connectTask (timeout outer : Seconds) : Keeps P (connectTask path timeout outer) := by
  unfold connectTask
  dsimp only
  split
  · exact keeps_fail _
  · refine keeps_tryCatch (keeps_discard (keeps_callMethod h)) fun halt => ?_
    cases halt with
    | unanswered =>
      dsimp only
      split
      · exact keeps_throw _
      · exact keeps_fail _
    | failed f =>
      dsimp only
      split
      · exact keeps_fail _
      · exact keeps_throw _

end

/-! ## Calls from other threads -/

/-- How a task that does not answer reaches a caller that waits for it. -/
def reported (loop : String) (bound : Seconds) : Halt → Failure
  | .failed f => EventLoop.settleFailure loop (some bound) f.filed
  | .unanswered => EventLoop.untold loop (some bound)

/-- A task without time to wait is the task on a bus that nobody has time to wait for. -/
theorem hastily_apply (task : Task α) (w : World Client) :
    hastily task w =
      let r := task (w.after (w.service.withLink (w.service.link.pace true)) [])
      (r.1, r.2.after (r.2.service.withLink (r.2.service.link.pace false)) []) := by
  unfold hastily
  rw [bind_ok (changeLink_apply _ w), bind_ok (attempt_apply _ _), bind_ok (changeLink_apply _ _),
    ofExcept_apply]

/-- Whoever waits is told how the task ended, and whoever does not is told why. -/
theorem answer_task (loop : String) (bound : Seconds) (r : Except Halt α) :
    EventLoop.answer loop (some bound) false (ended? r) =
      if bound.patience.lasts then r.mapError (reported loop bound)
      else .error (EventLoop.untold loop (some bound)) := by
  unfold EventLoop.answer
  rw [Bool.not_false, Bool.and_true]
  show EventLoop.told loop (some bound) (if bound.patience.lasts = true then _ else _) = _
  split
  · cases r with
    | ok a => rfl
    | error halt => cases halt <;> rfl
  · rfl

/-- Whoever is told an answer is told that of the task. -/
theorem of_answer_ok {loop : String} {bound : Seconds} {r : Except Halt α} {a : α}
    (h : EventLoop.answer loop (some bound) false (ended? r) = .ok a) : r = .ok a := by
  rw [answer_task] at h
  split at h
  · cases r with
    | ok b =>
      cases h
      rfl
    | error e => cases h
  · cases h

/-- Where a task fails, whoever waits is told of a failure. -/
theorem answer_of_error (loop : String) (bound : Seconds) (e : Halt) :
    ∃ f, EventLoop.answer loop (some bound) false (ended? (.error e : Except Halt α)) =
      .error f := by
  rw [answer_task]
  split
  · exact ⟨_, rfl⟩
  · exact ⟨_, rfl⟩

/-- A task is carried out, in the time that its bound leaves, if the loop runs and is free. -/
theorem runTask_eq (bound : Seconds) (task : Task α) (w : World Client) :
    runTask bound task w =
      let v := w.after w.service [.called (some bound)]
      match w.loop.current with
      | none => (.error (.loopNotRunning w.loop.name), v)
      | some thread =>
        if thread.occupied then (.error (EventLoop.untold w.loop.name (some bound)), v)
        else
          (EventLoop.answer w.loop.name (some bound) false (ended? (paced bound task v).1),
            (paced bound task v).2) := by
  unfold runTask
  rw [bind_ok (World.observe_apply _ w)]
  generalize hv : w.after w.service [.called (some bound)] = v
  have hl : v.loop = w.loop := by
    rw [← hv]
    rfl
  rw [bind_ok (get_apply v), hl]
  cases w.loop.current with
  | none => rfl
  | some thread =>
    dsimp only
    cases thread.occupied with
    | true =>
      rw [if_pos rfl, if_pos rfl, ofExcept_apply]
      unfold EventLoop.answer
      rw [Bool.not_true, Bool.and_false]
      rfl
    | false => rfl

theorem paced_waits {bound : Seconds} (h : bound.patience = .waits) (task : Task α) :
    paced bound task = task := by
  unfold paced
  rw [h]

theorem paced_looks {bound : Seconds} (h : bound.patience = .looks) (task : Task α) :
    paced bound task = hastily task := by
  unfold paced
  rw [h]

/-- A task that answered had time, and was carried out after the call was observed. -/
theorem of_runTask_ok {bound : Seconds} {task : Task α} {w v : World Client} {a : α}
    (h : runTask bound task w = (.ok a, v)) :
    bound.patience = .waits ∧ task (w.after w.service [.called (some bound)]) = (.ok a, v) := by
  rw [runTask_eq] at h
  cases hc : w.loop.current with
  | none =>
    rw [hc] at h
    cases h
  | some thread =>
    rw [hc] at h
    dsimp only at h
    split at h
    · cases h
    · rw [answer_task] at h
      obtain ⟨hr, hv⟩ := Prod.mk.inj h
      cases hp : bound.patience with
      | looks =>
        rw [hp] at hr
        cases hr
      | refuses f =>
        rw [hp] at hr
        cases hr
      | waits =>
        rw [hp, if_pos (show Patience.waits.lasts = true from rfl), paced_waits hp] at hr
        rw [paced_waits hp] at hv
        refine ⟨rfl, Prod.ext ?_ hv⟩
        cases ht : (task (w.after w.service [.called (some bound)])).1 with
        | ok b =>
          rw [ht] at hr
          cases hr
          rfl
        | error e =>
          rw [ht] at hr
          cases hr

section
variable (hcalled : ∀ bound w, P w → P (w.after w.service [.called bound])) (hpace : Unhurried P)

include hpace

/-- Where a task leads from `P` to `Q` it does so in whatever time it is given. -/
theorem paced_leads {Q : World Client → Prop} (hpace' : Unhurried Q) {task : Task α}
    (ht : ∀ w, P w → Q (task w).2) (bound : Seconds) (w : World Client) (hw : P w) :
    Q (paced bound task w).2 := by
  unfold paced
  cases bound.patience with
  | looks =>
    show Q (hastily task w).2
    rw [hastily_apply]
    exact hpace' false _ (ht _ (hpace true w hw))
  | waits => exact ht w hw
  | refuses => exact ht w hw

theorem keeps_paced {task : Task α} (ht : Keeps P task) (bound : Seconds) :
    Keeps P (paced bound task) := paced_leads hpace hpace ht bound

include hcalled

theorem keeps_runTask {task : Task α} (ht : Keeps P task) (bound : Seconds) :
    Keeps P (runTask bound task) := by
  intro w hw
  have hc := hcalled (some bound) w hw
  rw [runTask_eq]
  cases w.loop.current with
  | none => exact hc
  | some thread =>
    dsimp only
    split
    · exact hc
    · exact keeps_paced hpace ht bound _ hc

theorem keeps_perform {task : Task α} (ht : Keeps P task) : Keeps P (perform task) := fun w =>
  keeps_runTask hcalled hpace ht w.service.callTimeout w

end

section
variable {A : Subscriber → Prop} (h : Withstands A P) (hpace : Unhurried P)

include h hpace

theorem keeps_subscribe {s : Subscriber} (hs : A s) : Keeps P (subscribe s) :=
  keeps_perform h.inert.called hpace (keeps_subscribeTask h hs)

theorem keeps_unsubscribe (handle : Value) : Keeps P (unsubscribe handle) :=
  keeps_perform h.inert.called hpace
    (keeps_unsubscribeTask h.retain (keeps_uninstallHandler h.inert) handle)

theorem keeps_close : Keeps P close := by
  refine keeps_bind keeps_get fun w => ?_
  split
  · exact keeps_perform h.inert.called hpace
      (keeps_closeTask h.retain (keeps_uninstallHandler h.inert) (keeps_letGo h.inert))
  · exact keeps_change h ⟨fun _ => ⟨rfl, rfl⟩, fun c e he => by cases he⟩

end

section
variable (h : Upholds P)

include h

theorem keeps_request {path interface member signature : String} {body : List Value} :
    Keeps P (perform (discard (callMethod path interface member signature body))) :=
  keeps_perform h.called h.pace (keeps_discard (keeps_callMethod h.call))

theorem keeps_deviceProperties (path : String) : Keeps P (deviceProperties path) :=
  keeps_perform h.called h.pace (keeps_getAll h.call)

theorem keeps_getAddress (path : String) : Keeps P (getAddress path) := by
  refine keeps_bind (keeps_deviceProperties h path) fun props => ?_
  split
  · exact keeps_pure _
  · exact keeps_throw _

theorem keeps_getName (path : String) : Keeps P (getName path) :=
  keeps_bind (keeps_deviceProperties h path) fun _ => keeps_pure _

theorem keeps_getRssi (path : String) : Keeps P (getRssi path) :=
  keeps_bind (keeps_deviceProperties h path) fun _ => keeps_pure _

theorem keeps_getConnected (path : String) : Keeps P (getConnected path) :=
  keeps_bind (keeps_deviceProperties h path) fun _ => keeps_pure _

theorem keeps_connect (path : String) (timeout : Seconds) : Keeps P (connect path timeout) :=
  keeps_bind (fun _ hw => hw) fun _ => keeps_bind (keeps_ofExcept _) fun bound =>
    keeps_runTask h.called h.pace (keeps_connectTask h.call timeout bound) bound

/-- Every operation keeps what its parts keep. -/
theorem keeps_execute (hsubscribe : ∀ s, Keeps P (subscribeTask s))
    (hunsubscribe : ∀ handle, Keeps P (unsubscribeTask handle)) (hclose : Keeps P close)
    (command : Command) : Keeps P (execute command) := by
  cases command with
  | getPowered path => exact keeps_map _ (keeps_perform h.called h.pace (keeps_getFlag h.call))
  | setPowered path powered =>
    exact keeps_map _ (keeps_perform h.called h.pace (keeps_setPoweredTask h.call powered))
  | getDiscovering path => exact keeps_map _ (keeps_perform h.called h.pace (keeps_getFlag h.call))
  | setDiscoveryFilter path filters =>
    exact keeps_map _ (keeps_perform h.called h.pace (keeps_setDiscoveryFilterTask h.call filters))
  | startDiscovery path => exact keeps_map _ (keeps_request h)
  | stopDiscovery path => exact keeps_map _ (keeps_request h)
  | listObjects interface =>
    exact keeps_map _ (keeps_perform h.called h.pace (keeps_listObjectsTask h.call))
  | deviceProperties path => exact keeps_map _ (keeps_deviceProperties h path)
  | getAddress path => exact keeps_map _ (keeps_getAddress h path)
  | getName path => exact keeps_map _ (keeps_getName h path)
  | getRssi path => exact keeps_map _ (keeps_getRssi h path)
  | getConnected path => exact keeps_map _ (keeps_getConnected h path)
  | connect path timeout => exact keeps_map _ (keeps_connect h path timeout)
  | disconnect path => exact keeps_map _ (keeps_request h)
  | subscribe s =>
    exact keeps_map _
      (keeps_bind (keeps_perform h.called h.pace (hsubscribe s)) fun _ => keeps_pure _)
  | unsubscribe handle => exact keeps_map _ (keeps_perform h.called h.pace (hunsubscribe handle))
  | close => exact keeps_map _ hclose

end

/-! ## Notifications -/

/-- What announcements to sessions keep, notifications keep. -/
theorem keeps_signal
    (hobserve : ∀ e, e.isTraffic = false → Keeps P (World.observe e : Action Client Unit))
    (hannounce : ∀ number adapter path props, Keeps P (World.announceTo number adapter path props))
    (hrequire : Keeps P (World.onLoop EventLoop.require)) (s : Signal) : Keeps P (signal s) := by
  have htell : ∀ path props e, Keeps P (deliver path props e) := by
    intro path props e
    refine keeps_ignoring ?_
    cases e with
    | session number adapter => exact hannounce number adapter path _
    | callback label reaction =>
      refine keeps_bind (hobserve _ rfl) fun _ => ?_
      cases reaction with
      | none => exact keeps_pure _
      | fails => exact keeps_throw _
      | reenters =>
        exact keeps_bind (fun _ h => h) fun _ => keeps_bind (hobserve _ rfl) fun _ =>
          keeps_bind (hobserve _ rfl) fun _ => keeps_throw _
  refine keeps_bind (keeps_discard hrequire) fun _ => keeps_bind (fun _ h => h) fun _ =>
    keeps_forEach (fun _ => ?_) _
  rw [handle_eq]
  split
  · exact keeps_pure _
  · exact keeps_bind (fun _ h => h) fun _ => keeps_forEach (fun _ => htell _ _ _) _
  · exact keeps_throw _

end BluetoothControl.Client
