import BluetoothControl.Proofs.Client.Reading
import BluetoothControl.Proofs.EventLoop.Answer
import BluetoothControl.Proofs.Truthful

/-!
# How a client's operations end

An operation of a client answers, or it fails in one of two ways: with a failure of the service,
which callers are told to expect, or with a failure of reading, when a reply was not legible.
-/

namespace BluetoothControl

open Procedure

/-! ## Two kinds of failures -/

namespace Failure

/-- The failure of reading what is not there. -/
def isMisreading (f : Failure) : Bool :=
  [Kind.outOfRange, .missingOperation, .missingKey, .wrongType].contains f.kind

/-- A misreading belongs to no kind that any handler of the library takes. -/
theorem isA_of_isMisreading {f : Failure} (h : f.isMisreading = true) {k : Kind}
    (hk : k ∈ [Kind.service, .powerTimeout, .elapsed, .badValue, .loopStopped]) :
    f.isA k = false := by
  unfold isMisreading at h
  unfold isA
  revert h hk
  cases f.kind <;> cases k <;> decide

end Failure

namespace Halt

/-- Why a task may end without an answer: it waits for ever, it was cancelled, or the service
failed. -/
def Expected : Halt → Prop
  | unanswered => True
  | failed f => f.kind = .cancelled ∨ f.isA .service = true

/-- A task ended over a reply that is not legible. -/
def Misread : Halt → Prop
  | unanswered => False
  | failed f => f.isMisreading = true

end Halt

namespace Client

/-! ## Tasks -/

variable {α β : Type} {m : Message}

/-- What a task observes explains how it ends. -/
abbrev Candid (task : Task α) : Prop := Truthful (fun _ => True) Halt.Expected Halt.Misread task

theorem candid_bind {p : Task α} {f : α → Task β} (hp : Candid p) (hf : ∀ a, Candid (f a)) :
    Candid (p >>= f) :=
  truthful_bind hp (fun _ _ => trivial) hf

theorem candid_change (f : Client → Client) : Candid (change f) := truthful_changeService f

theorem candid_current : Candid current := candid_bind truthful_get fun _ => truthful_pure _

theorem candid_fail {f : Failure} (h : f.isA .service = true) : Candid (fail f : Task α) :=
  truthful_throw (Or.inr h)

/-- A handler that fails again in the same way, whatever else it does. -/
theorem candid_rethrow {p : Task α} {handler : Halt → Task α} (hp : Candid p)
    (hh : ∀ e w, ∃ fs, (handler e w).1 = .error e ∧ (handler e w).2.log = w.log ++ fs ∧
      Legible fs) :
    Candid (tryCatch p handler) := by
  refine truthful_tryCatch hp (fun _ _ => trivial) (fun e he w _ => ?_) fun e he =>
    ⟨he, fun w => ?_⟩
  · obtain ⟨fs, hr, hl, hfs⟩ := hh e w
    rw [hr]
    exact ⟨fs, hl, Or.inl ⟨he, hfs⟩⟩
  · obtain ⟨fs, hr, hl, -⟩ := hh e w
    exact ⟨fs, hr, hl⟩

/-! ## Messages and what is read from the replies -/

/-- Reading from the body of a reply answers if what is read is there, and else it is a
misreading. -/
def ReadsOff (r : Reads) (read : List Value → Task α) : Prop :=
  ∀ body w, if r.areIn body then ∃ a, read body w = (.ok a, w)
    else ∃ e, Halt.Misread e ∧ read body w = (.error e, w)

theorem legible_sent (n : Nat) (m : Message) (d : Delivery) :
    Legible [.sent n m, .resolved n m d] ↔ d.isLegible m = true := by
  simp [Legible, Event.isLegible]

/-- A call without an answer is expected to be, unless an error reply cannot be read. -/
theorem verdict_error {context : String} {d : Delivery} {e : Halt} (m : Message)
    (h : verdict context d = .error e) :
    e.Expected ∧ d.isLegible m = true ∨ e.Misread ∧ d.isLegible m = false := by
  cases d with
  | unanswered =>
    cases h
    exact Or.inl ⟨trivial, rfl⟩
  | belated r =>
    cases h
    exact Or.inl ⟨trivial, rfl⟩
  | fails f =>
    cases h
    refine Or.inl ⟨?_, rfl⟩
    cases ho : f.kind.isOrdinary with
    | true => exact Or.inr rfl
    | false => exact Or.inl (by simpa [Kind.isOrdinary] using ho)
  | answered r =>
    cases r with
    | returned body => cases h
    | missing =>
      cases h
      exact Or.inl ⟨Or.inr rfl, rfl⟩
    | refused r =>
      cases h
      show Halt.Expected (.failed (r.failure context)) ∧ r.detail.toOption.isSome = true ∨
        Halt.Misread (.failed (r.failure context)) ∧ r.detail.toOption.isSome = false
      unfold ErrorReply.failure
      cases hd : r.detail with
      | ok detail => exact Or.inl ⟨Or.inr rfl, rfl⟩
      | error f =>
        refine Or.inr ⟨?_, rfl⟩
        rcases ErrorReply.detail_error hd with rfl | rfl <;> rfl

/-- Whatever becomes of a message, sending it and reading off the reply is explained by that. -/
theorem candid_exchange {read : List Value → Task α} (h : ReadsOff m.reads read) (n : Nat)
    (context : String) : Candid (exchange n m context >>= read) := by
  intro w _
  have hx := exchange_apply n m context w
  generalize (w.service.link.nextReply n).1 = d at hx
  generalize w.service.withLink _ = c at hx
  refine ⟨[.sent n m, .resolved n m d], ?_⟩
  have hleg := legible_sent n m d
  cases hv : verdict context d with
  | error e =>
    rw [hv] at hx
    rw [bind_error hx]
    refine ⟨rfl, ?_⟩
    rcases verdict_error m hv with ⟨he, hd⟩ | ⟨he, hd⟩
    · exact Or.inl ⟨he, hleg.mpr hd⟩
    · exact Or.inr ⟨he, fun hl => by rw [hleg.mp hl] at hd; cases hd⟩
  | ok body =>
    rw [hv] at hx
    rw [bind_ok hx]
    have hd : d.isLegible m = m.reads.areIn body := by
      obtain ⟨r, rfl⟩ : ∃ r, d = .answered r := by
        cases d with
        | answered r => exact ⟨r, rfl⟩
        | fails f => cases hv
        | unanswered => cases hv
        | belated r => cases hv
      cases r with
      | returned b =>
        cases hv
        rfl
      | missing => cases hv
      | refused r => cases hv
    have hr := h body (w.after c [.sent n m, .resolved n m d])
    split at hr
    · next hb =>
      obtain ⟨a, hr⟩ := hr
      rw [hr]
      exact ⟨rfl, hleg.mpr (hd.trans hb)⟩
    · next hb =>
      obtain ⟨e, he, hr⟩ := hr
      rw [hr]
      refine ⟨rfl, Or.inr ⟨he, fun hl => hb ?_⟩⟩
      rw [← hd]
      exact hleg.mp hl

/-- Where nothing is read every reply will do. -/
theorem readsOff_pure {r : Reads} (hr : r = .nothing) (f : List Value → α) :
    ReadsOff r fun body => (pure (f body) : Task α) := by
  intro body w
  subst hr
  exact ⟨f body, rfl⟩

theorem candid_exchange_unread (hm : m.reads = .nothing) (n : Nat) (context : String) :
    Candid (exchange n m context) := by
  have h : Candid (exchange n m context >>= pure) := candid_exchange (readsOff_pure hm id) n context
  rwa [bind_pure] at h

/-! ## The connection -/

/-- Nothing is read when connecting, and whatever failure is no cancellation becomes one of the
service. -/
theorem candid_reconnect : Candid reconnect := by
  intro w _
  have hr := reconnected w
  generalize reconnect w = x at hr
  cases hr with
  | opens => exact ⟨_, rfl, legible_of_isMessage rfl⟩
  | lapses => exact ⟨_, rfl, legible_of_isMessage rfl⟩
  | strays => exact ⟨_, rfl, Or.inl ⟨trivial, legible_of_isMessage rfl⟩⟩
  | hangs => exact ⟨_, rfl, Or.inl ⟨trivial, legible_nil⟩⟩
  | cancelled outcome kind => exact ⟨_, rfl, Or.inl ⟨Or.inl kind, legible_of_isMessage rfl⟩⟩
  | unreachable => exact ⟨_, rfl, Or.inl ⟨Or.inr rfl, legible_of_isMessage rfl⟩⟩

theorem candid_installAsking {ask : Task (List Value)} (ha : Candid ask) (n : Nat) :
    Candid (installAsking ask n) := by
  refine candid_bind candid_current fun c => ?_
  dsimp only
  split
  · exact truthful_pure ()
  · refine candid_bind (candid_change _) fun _ => candid_bind (truthful_observe rfl) fun _ =>
      candid_bind ?_ fun _ => candid_bind (truthful_observe rfl) fun _ => candid_change _
    refine candid_rethrow (truthful_discard ha) fun e w => ?_
    refine ⟨.consented n (Halt.consent e) :: if e.isA .service then [.handlerRemoved n] else [],
      ?_⟩
    rw [bind_ok (World.observe_apply _ w)]
    split
    · refine ⟨rfl, ?_, legible_of_isMessage rfl⟩
      exact (List.append_assoc w.log [.consented n (Halt.consent e)] [.handlerRemoved n])
    · exact ⟨rfl, rfl, legible_of_isMessage rfl⟩

theorem candid_takeUp {ask : Task (List Value)} (ha : Candid ask) (n : Nat) :
    Candid (takeUp ask n) := by
  refine candid_bind candid_current fun c => ?_
  split
  · exact truthful_pure _
  · exact candid_bind (candid_installAsking ha n) fun _ => candid_bind candid_current fun _ =>
      truthful_pure _

/-- However many connections are down at once. -/
theorem candid_obtainWithin (depth : Nat) : Candid (obtainWithin depth) := by
  induction depth with
  | zero => exact truthful_throw trivial
  | succ depth ih =>
    refine candid_bind candid_current fun c => ?_
    split
    · exact truthful_pure _
    · exact candid_bind candid_reconnect fun n => candid_takeUp
        (candid_bind ih fun n => candid_exchange_unread (by decide) n _) n

theorem candid_obtainBus : Candid obtainBus :=
  candid_bind candid_current fun _ => candid_obtainWithin _

theorem candid_call {read : List Value → Task α} (h : ReadsOff m.reads read) (context : String) :
    Candid (call m context >>= read) := by
  unfold call
  rw [bind_assoc]
  exact candid_bind candid_obtainBus fun n => candid_exchange h n context

theorem candid_call_unread (hm : m.reads = .nothing) (context : String) :
    Candid (call m context) :=
  candid_bind candid_obtainBus fun n => candid_exchange_unread hm n context

/-- Only failures of the service are let pass, and those are no misreadings. -/
theorem isA_of_misread {e : Halt} (h : e.Misread) : e.isA .service = false := by
  cases e with
  | unanswered => rfl
  | failed f => exact Failure.isA_of_isMisreading h (by decide)

theorem candid_installHandler (n : Nat) : Candid (installHandler n) :=
  candid_installAsking (candid_call_unread (by decide) _) n

theorem candid_uninstallHandler : Candid uninstallHandler := by
  refine candid_bind candid_current fun c => ?_
  split
  · exact truthful_pure ()
  · refine candid_bind (candid_change _) fun _ => candid_bind (truthful_observe rfl) fun _ =>
      candid_bind candid_current fun c => ?_
    split
    · exact truthful_ignoring (truthful_discard (candid_call_unread rfl _)) (fun _ _ => trivial)
        (fun e he => ⟨he, isA_of_misread he⟩) fun e he _ => he
    · exact truthful_pure ()

/-! ## Subscriptions and the end -/

theorem candid_subscribeTask (s : Subscriber) : Candid (subscribeTask s) := by
  refine candid_bind candid_current fun c => candid_bind (candid_change _) fun _ =>
    candid_bind ?_ fun _ => truthful_pure _
  refine candid_rethrow (candid_bind candid_obtainBus candid_installHandler) fun e w => ?_
  refine ⟨[], ?_, ?_, legible_nil⟩
  · cases e.isA .service <;> rfl
  · rw [List.append_nil]
    cases e.isA .service <;> rfl

theorem candid_unsubscribeTask {handle : Value} (h : handle.isKey = true) :
    Candid (unsubscribeTask handle) := by
  refine candid_bind candid_current fun c => ?_
  simp only [h, Bool.not_true, Bool.and_false, Bool.false_eq_true, if_false]
  refine candid_bind (candid_change _) fun _ => candid_bind candid_current fun c => ?_
  split
  · exact candid_uninstallHandler
  · exact truthful_pure ()

theorem candid_closeTask : Candid closeTask := by
  refine candid_bind (candid_change _) fun _ => candid_bind candid_uninstallHandler fun _ =>
    candid_bind candid_current fun c => ?_
  split
  · exact truthful_pure ()
  · next n _ =>
    refine candid_bind ?_ fun _ => candid_change _
    -- nothing is read when disconnecting, so it can fail in any way, and what is ordinary is let go
    have hd : Truthful (fun _ => True) (fun h => ∃ f, h = .failed f) (fun _ => False)
        (disconnectBus n) := by
      refine truthful_bind (truthful_observe rfl) (fun _ _ => trivial) fun _ =>
        truthful_bind (truthful_changeService _) (fun _ _ => trivial) fun _ =>
        truthful_bind (truthful_bind truthful_get (fun _ _ => trivial) fun _ => truthful_pure _)
          (fun _ _ => trivial) fun c => ?_
      split
      · exact truthful_throw ⟨_, rfl⟩
      · exact truthful_pure ()
    refine truthful_ignoring hd (fun _ _ => trivial) (fun _ h => h.elim) fun e he ht => ?_
    obtain ⟨f, rfl⟩ := he
    exact Or.inl (by simpa [Halt.isOrdinary, Kind.isOrdinary] using ht)

/-! ## Requests -/

section
variable {path interface member signature : String} {args : List Value}

theorem candid_callMethod {read : List Value → Task α} (hp : ObjectPath.isValid path = true)
    (h : ReadsOff (Message.reads ⟨serviceName, path, interface, member, signature, args⟩) read) :
    Candid (callMethod path interface member signature args >>= read) := by
  unfold callMethod Message.call
  rw [if_pos hp]
  exact candid_call h _

theorem candid_callMethod_unread (hp : ObjectPath.isValid path = true)
    (h : Message.reads ⟨serviceName, path, interface, member, signature, args⟩ = .nothing) :
    Candid (callMethod path interface member signature args) := by
  unfold callMethod Message.call
  rw [if_pos hp]
  exact candid_call_unread h _

theorem candid_getFlag {name : String} (hp : ObjectPath.isValid path = true) :
    Candid (getFlag path interface name) := by
  refine candid_bind (candid_callMethod hp fun body w => ?_) fun _ => truthful_pure _
  cases body with
  | nil => exact ⟨.failed .emptyBody, rfl, rfl⟩
  | cons v rest => exact ⟨_, rfl⟩

theorem candid_getAll (hp : ObjectPath.isValid path = true) : Candid (getAll path interface) := by
  refine candid_callMethod hp fun body w => ?_
  cases body with
  | nil => exact ⟨.failed .emptyBody, rfl, rfl⟩
  | cons v rest =>
    cases v with
    | dict entries => exact ⟨_, rfl⟩
    | _ => exact ⟨.failed .lacksOperation, rfl, rfl⟩

theorem candid_setPoweredTask (hp : ObjectPath.isValid path = true) (b : Bool) :
    Candid (setPoweredTask path (.bool b)) :=
  truthful_discard (candid_callMethod_unread hp rfl)

theorem candid_setDiscoveryFilterTask (hp : ObjectPath.isValid path = true) (filters : Props) :
    Candid (setDiscoveryFilterTask path (.dict filters)) :=
  truthful_discard (candid_callMethod_unread hp rfl)

theorem candid_listObjectsTask : Candid (listObjectsTask interface) := by
  refine candid_callMethod (by decide) fun body w => ?_
  cases body with
  | nil => exact ⟨.failed .emptyBody, rfl, rfl⟩
  | cons v rest =>
    cases v with
    | dict objects =>
      have hx := match_withInterface interface objects w
      show if objects.all (·.2.isSearchable) then _ else _
      split
      · next hs =>
        rw [if_pos hs] at hx
        exact ⟨_, hx⟩
      · next hs =>
        rw [if_neg hs] at hx
        exact ⟨.failed .wrongType, rfl, hx⟩
    | _ => exact ⟨.failed .lacksOperation, rfl, rfl⟩

/-- What a bound of its own cuts short was expected to be. -/
theorem candid_connectTask {timeout outer : Seconds} (hp : ObjectPath.isValid path = true)
    (ht : timeout.isTellable = true) : Candid (connectTask path timeout outer) := by
  unfold connectTask
  dsimp only
  rw [Failure.telling_of_isTellable ht]
  split
  · exact candid_fail rfl
  · have hc : Candid (discard (callMethod path deviceInterface "Connect")) :=
      truthful_discard (candid_callMethod_unread hp rfl)
    refine truthful_tryCatch hc (fun _ _ => trivial) (fun h he => ?_) fun h he => ⟨he, fun w => ?_⟩
    · cases h with
      | unanswered =>
        dsimp only
        split
        · exact truthful_throw trivial
        · exact candid_fail rfl
      | failed f =>
        dsimp only
        split
        · exact candid_fail rfl
        · exact truthful_throw he
    · cases h with
      | unanswered => exact he.elim
      | failed f =>
        dsimp only
        rw [Failure.isA_of_isMisreading he (by decide)]
        exact ⟨[], rfl, (List.append_nil _).symm⟩

end

/-! ## Calls from other threads -/

/-- What an operation observes explains how it ends, if the client's bound is `bound`. -/
abbrev Accountable (bound : Seconds) (p : Action Client α) : Prop :=
  Truthful (fun w => w.service.callTimeout = bound) (·.isA .service = true)
    (·.isMisreading = true) p

theorem isA_reported {loop : String} {bound : Seconds} (hb : bound.isWaitable = true)
    {e : Halt} (h : e.Expected) : (reported loop bound e).isA .service = true := by
  cases e with
  | unanswered =>
    rw [reported, EventLoop.untold_of_isWaitable hb]
    rfl
  | failed f =>
    rw [reported]
    rcases h with h | h
    · rw [EventLoop.settleFailure_of_cancelled h]
      rfl
    · rw [EventLoop.settleFailure_filed]
      · exact h
      · unfold Failure.isA at h
        revert h
        cases f.kind <;> decide

theorem isMisreading_reported (loop : String) (bound : Seconds) {e : Halt} (h : e.Misread) :
    (reported loop bound e).isMisreading = true := by
  cases e with
  | unanswered => exact h.elim
  | failed f =>
    rw [reported, EventLoop.settleFailure_filed]
    · exact h
    · change f.isMisreading = true at h
      unfold Failure.isMisreading at h
      revert h
      cases f.kind <;> decide

/-! ### Without time to wait -/

/-- Nobody has time to wait for the bus, and no reply since `u` came in time. -/
def Hurries (u w : World Client) : Prop :=
  w.service.link.hasty = true ∧ ∃ es, w.log = u.log ++ es ∧ Untimely es

section
variable {u : World Client}

theorem Hurries.after {w : World Client} (h : Hurries u w) {c : Client}
    (hc : c.link.hasty = w.service.link.hasty) {es : List Event} (hes : Untimely es) :
    Hurries u (w.after c es) := by
  obtain ⟨hh, fs, hl, hfs⟩ := h
  refine ⟨hc.trans hh, fs ++ es, ?_, untimely_append.mpr ⟨hfs, hes⟩⟩
  rw [World.after_log, hl, List.append_assoc]

/-- Whatever comes of a message comes too late. -/
theorem hurries_exchange (n : Nat) (m : Message) (context : String) :
    Keeps (Hurries u) (exchange n m context) := by
  intro w hw
  have hd : (w.service.link.nextReply n).1.isTimely = false := by
    unfold Link.nextReply
    split
    · rfl
    · dsimp only
      rw [if_pos hw.1]
      exact Delivery.isTimely_hurried _
  rw [exchange_apply]
  exact hw.after (Link.hasty_nextReply ..) (by simp [Untimely, Event.isTimely, hd])

theorem withstands_hurries : Withstands (fun _ => True) (Hurries u) where
  change _ hf _ hw := hw.after (hf.1 _).2 untimely_nil
  observe _ he _ hw :=
    hw.after rfl (List.forall_mem_singleton.mpr (Event.isTimely_of_isMessage he))
  exchange m n context _ := hurries_exchange n m context

theorem heeds_hurries : Heeds (Hurries u) := fun m context _ =>
  keeps_bind (keeps_obtainBus withstands_hurries.inert) fun n => hurries_exchange n m context

theorem hurries_subscribeTask (s : Subscriber) : Keeps (Hurries u) (subscribeTask s) :=
  keeps_subscribeTask withstands_hurries trivial

theorem hurries_unsubscribeTask (handle : Value) : Keeps (Hurries u) (unsubscribeTask handle) :=
  keeps_unsubscribeTask withstands_hurries.retain
    (keeps_uninstallHandler withstands_hurries.inert) handle

theorem hurries_closeTask : Keeps (Hurries u) closeTask :=
  keeps_closeTask withstands_hurries.retain (keeps_uninstallHandler withstands_hurries.inert)
    (keeps_letGo withstands_hurries.inert)

end

/-! ### With and without -/

/-- A task that nobody has time to wait for is given no reply in time. -/
theorem untimely_hastily {task : Task α} (hh : ∀ u, Keeps (Hurries u) task) (w : World Client) :
    ∃ es, (hastily task w).2.log = w.log ++ es ∧ Untimely es := by
  have hu : Hurries w (w.after (w.service.withLink (w.service.link.pace true)) []) :=
    ⟨rfl, [], rfl, untimely_nil⟩
  obtain ⟨-, es, hl, hes⟩ := hh w _ hu
  rw [hastily_apply]
  refine ⟨es, ?_, hes⟩
  rw [World.after_log, List.append_nil, hl]

/-- A bound that can be waited for is not refused. -/
theorem patience_of_isWaitable {bound : Seconds} (h : bound.isWaitable = true) :
    bound.patience = .waits ∨ bound.patience = .looks := by
  have hn := (Bool.and_eq_true _ _ ▸ h).2
  cases hp : bound.patience with
  | waits => exact Or.inl rfl
  | looks => exact Or.inr rfl
  | refuses f =>
    rw [hp] at hn
    cases hn

/-- Whether or not there is time to wait for a task, what it observes explains what its caller is
told. -/
theorem explained_paced {bound : Seconds} {task : Task α} (hb : bound.isWaitable = true)
    (ht : Candid task) (hh : ∀ u, Keeps (Hurries u) task) (loop : String) (w : World Client) :
    ∃ es, (paced bound task w).2.log = w.log ++ es ∧
      Explained (·.isA .service = true) (·.isMisreading = true) es
        (EventLoop.answer loop (some bound) false (ended? (paced bound task w).1)) := by
  rcases patience_of_isWaitable hb with hp | hp
  · rw [paced_waits hp, answer_task, hp, if_pos (show Patience.waits.lasts = true from rfl)]
    obtain ⟨es, hl, hr⟩ := ht w trivial
    refine ⟨es, hl, ?_⟩
    cases htask : (task w).1 with
    | ok a =>
      rw [htask] at hr
      exact hr
    | error e =>
      rw [htask] at hr
      exact hr.imp (.imp_left (isA_reported hb)) (.imp_left (isMisreading_reported _ _))
  · obtain ⟨es, hl, hes⟩ := untimely_hastily hh w
    rw [paced_looks hp, answer_task, hp, if_neg (show ¬ Patience.looks.lasts = true from nofun)]
    exact ⟨es, hl, Or.inl ⟨isA_reported (e := .unanswered) hb trivial, hes.legible⟩⟩

theorem accountable_runTask {bound own : Seconds} {task : Task α} (hb : bound.isWaitable = true)
    (ht : Candid task) (hh : ∀ u, Keeps (Hurries u) task) :
    Accountable own (runTask bound task) := by
  intro w _
  have hcalled : Legible [Event.called (some bound)] := legible_of_isMessage rfl
  rw [runTask_eq]
  cases w.loop.current with
  | none => exact ⟨_, rfl, Or.inl ⟨rfl, hcalled⟩⟩
  | some thread =>
    dsimp only
    split
    · exact ⟨_, rfl, Or.inl ⟨isA_reported (e := .unanswered) hb trivial, hcalled⟩⟩
    · obtain ⟨es, hl, hr⟩ := explained_paced hb ht hh w.loop.name
        (w.after w.service [.called (some bound)])
      refine ⟨.called (some bound) :: es, ?_, hr.prepend hcalled⟩
      rw [List.append_cons]
      exact hl

theorem accountable_perform {bound : Seconds} {task : Task α} (hb : bound.isWaitable = true)
    (ht : Candid task) (hh : ∀ u, Keeps (Hurries u) task) : Accountable bound (perform task) := by
  intro w hw
  have h : Accountable bound (runTask w.service.callTimeout task) :=
    accountable_runTask (by rw [hw]; exact hb) ht hh
  exact h w hw

/-! ## Operations -/

section
variable {own : Seconds}

/-- The bound on its calls is never changed. -/
theorem keeps_callTimeout {p : Action Client α}
    (h : ∀ w, Keeps (Within (fun _ => True) w) p) :
    Keeps (fun w => w.service.callTimeout = own) p := by
  intro w hw
  obtain ⟨c, es, hv, ht, -⟩ := h w w (within_refl w)
  rw [hv]
  exact ht.trans hw

variable {path : String}

/-- The truth of a property is read. -/
theorem accountable_flag {interface name : String} (ho : own.isWaitable = true)
    (hp : ObjectPath.isValid path = true) :
    Accountable own (perform (getFlag path interface name)) :=
  accountable_perform ho (candid_getFlag hp) fun _ => keeps_getFlag heeds_hurries

theorem accountable_deviceProperties (ho : own.isWaitable = true)
    (hp : ObjectPath.isValid path = true) : Accountable own (deviceProperties path) :=
  accountable_perform ho (candid_getAll hp) fun _ => keeps_getAll heeds_hurries

theorem accountable_setPowered (ho : own.isWaitable = true) (hp : ObjectPath.isValid path = true)
    (b : Bool) : Accountable own (setPowered path (.bool b)) :=
  accountable_perform ho (candid_setPoweredTask hp b) fun _ => keeps_setPoweredTask heeds_hurries _

theorem accountable_setDiscoveryFilter (ho : own.isWaitable = true)
    (hp : ObjectPath.isValid path = true) (filters : Props) :
    Accountable own (setDiscoveryFilter path (.dict filters)) :=
  accountable_perform ho (candid_setDiscoveryFilterTask hp filters) fun _ =>
    keeps_setDiscoveryFilterTask heeds_hurries _

theorem accountable_listObjects (ho : own.isWaitable = true) (interface : String) :
    Accountable own (listObjects interface) :=
  accountable_perform ho candid_listObjectsTask fun _ => keeps_listObjectsTask heeds_hurries

theorem accountable_unsubscribe (ho : own.isWaitable = true) {handle : Value}
    (h : handle.isKey = true) : Accountable own (unsubscribe handle) :=
  accountable_perform ho (candid_unsubscribeTask h) fun _ => hurries_unsubscribeTask handle

/-- What is read off the properties of a device. -/
theorem accountable_reading (ho : own.isWaitable = true) (hp : ObjectPath.isValid path = true)
    {read : Props → Action Client α} (hr : ∀ props, Accountable own (read props)) :
    Accountable own (deviceProperties path >>= read) :=
  truthful_bind (accountable_deviceProperties ho hp)
    (keeps_callTimeout fun _ => keeps_deviceProperties upholds_within path) hr

theorem accountable_getAddress (ho : own.isWaitable = true) (hp : ObjectPath.isValid path = true) :
    Accountable own (getAddress path) := by
  refine accountable_reading ho hp fun props => ?_
  split
  · exact truthful_pure _
  · exact truthful_throw rfl

/-- A request whose reply nobody reads. -/
theorem accountable_request {interface member : String} (ho : own.isWaitable = true)
    (hp : ObjectPath.isValid path = true)
    (h : Message.reads ⟨serviceName, path, interface, member, "", []⟩ = .nothing) :
    Accountable own (perform (discard (callMethod path interface member))) :=
  accountable_perform ho (truthful_discard (candid_callMethod_unread hp h)) fun _ =>
    keeps_discard (keeps_callMethod heeds_hurries)

theorem boundWith_ok {timeout : Seconds} (ho : own.isTellable = true)
    (ht : timeout.isTellable = true) :
    boundWith timeout own = .ok ((timeout.add own).orElse own) := by
  unfold Seconds.isTellable at ho ht
  rw [Bool.and_eq_true] at ho ht
  unfold boundWith
  simp [ho.1, ho.2, ht.1, ht.2]

theorem accountable_connect {timeout : Seconds} (ho : own.isWaitable = true)
    (hp : ObjectPath.isValid path = true) (ht : timeout.isTellable = true)
    (hs : (timeout.add own).isWaitable = true) : Accountable own (connect path timeout) := by
  intro w hw
  unfold connect
  rw [bind_ok (current_apply w), hw, boundWith_ok (Seconds.isTellable_of_isWaitable ho) ht,
    bind_ok (ofExcept_apply (.ok ((timeout.add own).orElse own)) w)]
  exact accountable_runTask (Seconds.isWaitable_orElse hs ho) (candid_connectTask hp ht)
    (fun _ => keeps_connectTask heeds_hurries _ _) w hw

theorem accountable_close (ho : own.isWaitable = true) : Accountable own close := by
  intro w hw
  show ∃ es, ((if w.loop.isRunning = true then perform closeTask else _) w).2.log = _ ∧
    Explained _ _ es ((if w.loop.isRunning = true then perform closeTask else _) w).1
  split
  · exact accountable_perform ho candid_closeTask (fun _ => hurries_closeTask) w hw
  · have hd : Accountable own (change fun c => { c with subscriptions := [], bus := none }) :=
      truthful_changeService _
    exact hd w hw

theorem accountable_subscribe (ho : own.isWaitable = true) (s : Subscriber) :
    Accountable own (subscribe s >>= fun n => pure (n : Int)) :=
  truthful_bind (accountable_perform ho (candid_subscribeTask s) fun _ => hurries_subscribeTask s)
    (keeps_callTimeout fun _ => within_subscribe trivial) fun _ => truthful_pure _

/-- Every operation with proper arguments ends in a way that the replies explain. -/
theorem accountable_execute (ho : own.isWaitable = true) {command : Command}
    (hc : command.isProper own = true) : Accountable own (execute command) := by
  cases command with
  | getPowered path => exact truthful_map _ (accountable_flag ho hc)
  | setPowered path powered =>
    cases powered with
    | bool b =>
      exact truthful_map _ (accountable_setPowered ho hc b)
    | _ => cases hc
  | getDiscovering path => exact truthful_map _ (accountable_flag ho hc)
  | setDiscoveryFilter path filters =>
    cases filters with
    | dict fs =>
      exact truthful_map _ (accountable_setDiscoveryFilter ho hc fs)
    | _ => cases hc
  | startDiscovery path => exact truthful_map _ (accountable_request ho hc rfl)
  | stopDiscovery path => exact truthful_map _ (accountable_request ho hc rfl)
  | listObjects interface => exact truthful_map _ (accountable_listObjects ho interface)
  | deviceProperties path => exact truthful_map _ (accountable_deviceProperties ho hc)
  | getAddress path => exact truthful_map _ (accountable_getAddress ho hc)
  | getName path =>
    exact truthful_map _ (accountable_reading ho hc fun _ => truthful_pure _)
  | getRssi path =>
    exact truthful_map _ (accountable_reading ho hc fun _ => truthful_pure _)
  | getConnected path =>
    exact truthful_map _ (accountable_reading ho hc fun _ => truthful_pure _)
  | connect path timeout =>
    simp only [Command.isProper, Bool.and_eq_true] at hc
    exact truthful_map _ (accountable_connect ho hc.1.1 hc.1.2 hc.2)
  | disconnect path => exact truthful_map _ (accountable_request ho hc rfl)
  | subscribe s => exact truthful_map _ (accountable_subscribe ho s)
  | unsubscribe handle => exact truthful_map _ (accountable_unsubscribe ho hc)
  | close => exact truthful_map _ (accountable_close ho)

end

end Client

end BluetoothControl
