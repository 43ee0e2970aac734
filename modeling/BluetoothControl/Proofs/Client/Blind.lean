import BluetoothControl.Bus.Dialogue
import BluetoothControl.Proofs.Client.Keeps

/-!
# Nothing reads the log

Two worlds that differ in their logs only, with the same messages in both, are twins.  Whatever a
client does, it does in both alike: it comes to the same and leaves twins behind.
-/

namespace BluetoothControl

open Procedure

/-- The worlds are the same but for their logs, and the same messages were sent. -/
def Twin {κ : Type} (w v : World κ) : Prop :=
  ∃ l, v = { w with log := l } ∧ messages l = messages w.log

/-- In twin worlds a procedure comes to the same and leaves twins behind. -/
abbrev Blind {κ ε α : Type} (p : Procedure ε (World κ) α) : Prop := Parallel Twin p p

section
variable {κ ε α : Type} {w v u : World κ}

theorem twin_refl (w : World κ) : Twin w w := ⟨w.log, rfl, rfl⟩

theorem Twin.symm (h : Twin w v) : Twin v w := by
  obtain ⟨l, rfl, hl⟩ := h
  exact ⟨w.log, rfl, hl.symm⟩

theorem Twin.trans (h : Twin w v) (h' : Twin v u) : Twin w u := by
  obtain ⟨l, rfl, hl⟩ := h
  obtain ⟨k, rfl, hk⟩ := h'
  exact ⟨k, rfl, hk.trans hl⟩

theorem Twin.messages (h : Twin w v) : messages v.log = messages w.log := by
  obtain ⟨l, rfl, hl⟩ := h
  exact hl

/-! ## Steps -/

/-- What goes on from a world without regard to its log. -/
theorem blind_get {f : World κ → Procedure ε (World κ) α} (hf : ∀ w, Blind (f w))
    (hlog : ∀ w l, f { w with log := l } = f w) : Blind (get >>= f) := by
  rintro w v ⟨l, rfl, hl⟩
  rw [bind_ok (get_apply w), bind_ok (get_apply _), hlog w l]
  exact hf w w _ ⟨l, rfl, hl⟩

/-- A change that leaves the log alone and does not read it. -/
theorem blind_modify {f : World κ → World κ}
    (hf : ∀ w l, f { w with log := l } = { f w with log := l }) (hlog : ∀ w, (f w).log = w.log) :
    Blind (modify f : Procedure ε (World κ) Unit) := by
  rintro w v ⟨l, rfl, hl⟩
  refine ⟨rfl, l, hf w l, ?_⟩
  rw [modify_apply, hlog]
  exact hl

theorem Twin.observe (h : Twin w v) (es : List Event) :
    Twin { w with log := w.log ++ es } { v with log := v.log ++ es } := by
  obtain ⟨l, rfl, hl⟩ := h
  refine ⟨l ++ es, rfl, ?_⟩
  rw [messages_append, messages_append, hl]

theorem blind_observe (e : Event) : Blind (World.observe e : Procedure ε (World κ) Unit) :=
  fun _ _ h => ⟨rfl, h.observe [e]⟩

theorem blind_onLoop (p : LoopAction α) : Blind (World.onLoop p : Action κ α) := by
  rintro w v ⟨l, rfl, hl⟩
  refine ⟨rfl, l ++ (p w.loop).2.log, rfl, ?_⟩
  rw [messages_append, hl]
  exact (messages_append ..).symm

theorem blind_onHost (p : HostAction α) : Blind (World.onHost p : Action κ α) := by
  rintro w v ⟨l, rfl, hl⟩
  refine ⟨rfl, l ++ (p w.host).2.log, rfl, ?_⟩
  rw [messages_append, hl]
  exact (messages_append ..).symm

theorem blind_changeSession (k : Nat) (f : DiscoverySession → DiscoverySession) :
    Blind (World.changeSession k f : Action κ Unit) :=
  blind_modify (fun _ _ => rfl) fun _ => rfl

theorem blind_announceTo (k : Nat) (adapter : String) (path props : Value) :
    Blind (World.announceTo k adapter path props : Action κ Unit) :=
  blind_get (fun _ => parallel_bind (parallel_ofExcept _) fun _ => blind_changeSession k _)
    fun _ _ => rfl

end

namespace Client

/-! ## The connection and the handler -/

section
variable {ε : Type}

theorem blind_current : Blind (current : Procedure ε (World Client) Client) :=
  blind_get (fun w => parallel_pure w.service) fun _ _ => rfl

theorem blind_change (f : Client → Client) :
    Blind (change f : Procedure ε (World Client) Unit) :=
  blind_modify (fun _ _ => rfl) fun _ => rfl

theorem blind_changeLink (f : Link → Link) :
    Blind (changeLink f : Procedure ε (World Client) Unit) := blind_change _

end

theorem blind_fail {α : Type} (f : Failure) : Blind (fail f : Task α) := parallel_throw _

theorem blind_openBus : Blind openBus :=
  parallel_bind blind_current fun _ => parallel_bind (blind_changeLink _) fun _ => parallel_pure _

theorem blind_connectBus : Blind connectBus := by
  refine parallel_bind blind_current fun c => parallel_bind (blind_changeLink _) fun _ => ?_
  split
  · exact parallel_throw _
  · exact parallel_bind (blind_observe _) fun _ => blind_fail _
  · exact parallel_bind blind_openBus fun _ => parallel_bind (blind_observe _) fun _ =>
      parallel_pure _
  · exact parallel_bind blind_openBus fun _ => parallel_bind (blind_observe _) fun _ =>
      parallel_bind (blind_changeLink _) fun _ => parallel_bind (blind_observe _) fun _ =>
        parallel_pure _
  · exact parallel_bind blind_openBus fun _ => parallel_bind (blind_observe _) fun _ =>
      parallel_throw _

theorem blind_exchange (n : Nat) (m : Message) (context : String) :
    Blind (exchange n m context) :=
  parallel_bind (blind_observe _) fun _ => parallel_bind blind_current fun _ =>
    parallel_bind (blind_changeLink _) fun _ => parallel_bind (blind_observe _) fun _ =>
      parallel_ofExcept _

theorem blind_installAsking {ask : Task (List Value)} (ha : Blind ask) (n : Nat) :
    Blind (installAsking ask n) := by
  refine parallel_bind blind_current fun c => ?_
  dsimp only
  split
  · exact parallel_pure _
  · refine parallel_bind (blind_changeLink _) fun _ => parallel_bind (blind_observe _) fun _ =>
      parallel_bind (parallel_tryCatch (parallel_discard ha) fun e => ?_) fun _ =>
        parallel_bind (blind_observe _) fun _ => blind_change _
    refine parallel_bind (blind_observe _) fun _ => ?_
    split
    · exact parallel_bind (blind_changeLink _) fun _ => parallel_bind (blind_observe _) fun _ =>
        parallel_throw _
    · exact parallel_throw _

theorem blind_reconnect : Blind reconnect := by
  refine parallel_bind (parallel_tryCatch blind_connectBus fun e => ?_) fun n =>
    parallel_bind (blind_change _) fun _ => parallel_pure _
  cases e with
  | unanswered => exact parallel_throw _
  | failed f =>
    dsimp only
    split
    · exact parallel_bind (blind_change _) fun _ => blind_fail _
    · exact parallel_throw _

theorem blind_takeUp {ask : Task (List Value)} (ha : Blind ask) (n : Nat) :
    Blind (takeUp ask n) := by
  refine parallel_bind blind_current fun c => ?_
  split
  · exact parallel_pure _
  · exact parallel_bind (blind_installAsking ha n) fun _ => parallel_bind blind_current fun _ =>
      parallel_pure _

/-- However many connections are down at once. -/
theorem blind_obtainWithin (depth : Nat) : Blind (obtainWithin depth) := by
  induction depth with
  | zero => exact parallel_throw _
  | succ depth ih =>
    refine parallel_bind blind_current fun c => ?_
    split
    · exact parallel_pure _
    · exact parallel_bind blind_reconnect fun n =>
        blind_takeUp (parallel_bind ih fun n => blind_exchange n _ _) n

theorem blind_obtainBus : Blind obtainBus :=
  parallel_bind blind_current fun _ => blind_obtainWithin _

theorem blind_call (m : Message) (context : String) : Blind (call m context) :=
  parallel_bind blind_obtainBus fun n => blind_exchange n m context

theorem blind_uninstallHandler : Blind uninstallHandler := by
  refine parallel_bind blind_current fun c => ?_
  split
  · exact parallel_pure _
  · refine parallel_bind (blind_change _) fun _ => parallel_bind (blind_observe _) fun _ =>
      parallel_bind blind_current fun c => ?_
    split
    · exact parallel_ignoring (parallel_discard (blind_call _ _))
    · exact parallel_pure _

/-! ## Subscriptions and the end -/

theorem blind_installHandler (n : Nat) : Blind (installHandler n) :=
  blind_installAsking (blind_call _ _) n

theorem blind_subscribeTask (s : Subscriber) : Blind (subscribeTask s) := by
  refine parallel_bind blind_current fun c => parallel_bind (blind_change _) fun _ =>
    parallel_bind
      (parallel_tryCatch (parallel_bind blind_obtainBus blind_installHandler) fun e => ?_)
      fun _ => parallel_pure _
  dsimp only
  split
  · exact parallel_bind (blind_change _) fun _ => parallel_throw _
  · exact parallel_throw _

theorem blind_unsubscribeTask (handle : Value) : Blind (unsubscribeTask handle) := by
  refine parallel_bind blind_current fun c => ?_
  dsimp only
  split
  · exact blind_fail _
  · refine parallel_bind (blind_change _) fun _ => parallel_bind blind_current fun c => ?_
    split
    · exact blind_uninstallHandler
    · exact parallel_pure _

theorem blind_letGo : Blind letGo := by
  refine parallel_bind blind_current fun c => ?_
  split
  · exact parallel_pure _
  · refine parallel_bind (parallel_ignoring (parallel_bind (blind_observe _) fun _ =>
      parallel_bind (blind_changeLink _) fun _ => parallel_bind blind_current fun c => ?_))
      fun _ => blind_change _
    split
    · exact blind_fail _
    · exact parallel_pure _

theorem blind_closeTask : Blind closeTask := by
  rw [closeTask_eq]
  exact parallel_bind (blind_change _) fun _ => parallel_bind blind_uninstallHandler fun _ =>
    blind_letGo

/-! ## Requests -/

section
variable {path interface member signature : String} {args : List Value}

theorem blind_firstArgument (body : List Value) : Blind (firstArgument body) := by
  cases body with
  | nil => exact blind_fail _
  | cons v rest => exact parallel_pure v

theorem blind_callMethod : Blind (callMethod path interface member signature args) := by
  unfold callMethod
  split
  · exact blind_fail _
  · exact blind_call _ _

theorem blind_getFlag {name : String} : Blind (getFlag path interface name) :=
  parallel_bind
    (parallel_bind blind_callMethod fun body =>
      parallel_bind (blind_firstArgument body) fun _ => parallel_pure _)
    fun _ => parallel_pure _

theorem blind_getAll : Blind (getAll path interface) := by
  refine parallel_bind blind_callMethod fun body =>
    parallel_bind (blind_firstArgument body) fun v => ?_
  split
  · exact parallel_pure _
  · exact blind_fail _

theorem blind_setPoweredTask (powered : Value) : Blind (setPoweredTask path powered) := by
  unfold setPoweredTask
  split
  · exact parallel_discard blind_callMethod
  · exact blind_fail _

theorem blind_setDiscoveryFilterTask (filters : Value) :
    Blind (setDiscoveryFilterTask path filters) := by
  unfold setDiscoveryFilterTask
  split
  · exact parallel_discard blind_callMethod
  · exact blind_fail _

theorem blind_listObjectsTask : Blind (listObjectsTask interface) := by
  refine parallel_bind blind_callMethod fun body =>
    parallel_bind (blind_firstArgument body) fun v => ?_
  split
  · split
    · exact parallel_pure _
    · exact blind_fail _
  · exact blind_fail _

theorem blind_connectTask (timeout outer : Seconds) : Blind (connectTask path timeout outer) := by
  unfold connectTask
  dsimp only
  split
  · exact blind_fail _
  · refine parallel_tryCatch (parallel_discard blind_callMethod) fun halt => ?_
    cases halt with
    | unanswered =>
      dsimp only
      split
      · exact parallel_throw _
      · exact blind_fail _
    | failed f =>
      dsimp only
      split
      · exact blind_fail _
      · exact parallel_throw _

end

/-! ## Calls from other threads -/

section
variable {α : Type}

theorem blind_paced {task : Task α} (ht : Blind task) (bound : Seconds) :
    Blind (paced bound task) := by
  unfold paced
  split
  · exact parallel_bind (blind_changeLink _) fun _ => parallel_bind (parallel_attempt ht) fun _ =>
      parallel_bind (blind_changeLink _) fun _ => parallel_ofExcept _
  · exact ht

theorem blind_runTask {task : Task α} (ht : Blind task) (bound : Seconds) :
    Blind (runTask bound task) := by
  rintro w v h
  have hcalled := h.observe [.called (some bound)]
  obtain ⟨l, rfl, -⟩ := h
  rw [runTask_eq, runTask_eq]
  cases hc : w.loop.current with
  | none => exact ⟨rfl, hcalled⟩
  | some thread =>
    dsimp only
    split
    · exact ⟨rfl, hcalled⟩
    · obtain ⟨hr, hv⟩ := blind_paced ht bound _ _ hcalled
      exact ⟨congrArg (fun r => EventLoop.answer w.loop.name (some bound) false (ended? r)) hr, hv⟩

theorem blind_perform {task : Task α} (ht : Blind task) : Blind (perform task) :=
  parallel_bind blind_current fun c => blind_runTask ht c.callTimeout

theorem blind_request {path interface member signature : String} {args : List Value} :
    Blind (perform (discard (callMethod path interface member signature args))) :=
  blind_perform (parallel_discard blind_callMethod)

theorem blind_deviceProperties (path : String) : Blind (deviceProperties path) :=
  blind_perform blind_getAll

theorem blind_getAddress (path : String) : Blind (getAddress path) := by
  refine parallel_bind (blind_deviceProperties path) fun props => ?_
  split
  · exact parallel_pure _
  · exact parallel_throw _

theorem blind_connect (path : String) (timeout : Seconds) : Blind (connect path timeout) :=
  parallel_bind blind_current fun _ => parallel_bind (parallel_ofExcept _) fun bound =>
    blind_runTask (blind_connectTask timeout bound) bound

theorem blind_close : Blind close := by
  refine blind_get (fun w => ?_) fun _ _ => rfl
  split
  · exact blind_perform blind_closeTask
  · exact blind_change _

end

/-! ## Notifications -/

theorem blind_deliver (path : Value) (props : Props) (s : Subscriber) :
    Blind (deliver path props s) := by
  refine parallel_ignoring ?_
  cases s with
  | session number adapter => exact blind_announceTo number adapter path _
  | callback label reaction =>
    refine parallel_bind (blind_observe _) fun _ => ?_
    cases reaction with
    | none => exact parallel_pure _
    | fails => exact parallel_throw _
    | reenters =>
      exact parallel_bind blind_current fun _ => parallel_bind (blind_observe _) fun _ =>
        parallel_bind (blind_observe _) fun _ => parallel_throw _

theorem blind_signal (s : Signal) : Blind (signal s) := by
  refine parallel_bind (parallel_discard (blind_onLoop _)) fun _ =>
    parallel_bind blind_current fun _ => parallel_forEach (fun _ => ?_) _
  rw [handle_eq]
  split
  · exact parallel_pure _
  · exact parallel_bind blind_current fun _ => parallel_forEach (fun _ => blind_deliver _ _ _) _
  · exact parallel_throw _

end Client

end BluetoothControl
