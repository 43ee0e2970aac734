import BluetoothControl.Client.Conduct
import BluetoothControl.Proofs.Client.Keeps
import BluetoothControl.Proofs.Client.Telling

/-!
# Dispatch is complete, and isolated from all but two kinds of callbacks

A notification of a new device is told to every live subscription, in order and once to each,
whatever the callbacks do: one that fails keeps nothing from the others, and a call of the client is
refused, so nothing is sent.  Two things get past that (`dispatch_isolated_iff`): those who are told
share the properties, so what one callback changes the next is handed, and a loop that was told to
stop does not stand in the way of a callback that closes the client.
-/

namespace BluetoothControl

open Procedure

/-- A signal says that an object with a device interface came, with what stands under it. -/
structure Signal.Announces (s : Signal) (path device : Value) : Prop where
  isSignal : s.isSignal = true
  interface : s.interface = objectManagerInterface
  member : s.member = "InterfacesAdded"
  body : ∃ interfaces rest, s.body = path :: .dict interfaces :: rest ∧
    interfaces.lookup deviceInterface = some device

/-- What a callback was told, with its label. -/
def Event.notice? : Event → Option (String × Value × Props)
  | .notified label path props => some (label, path, props)
  | _ => none

/-- The label of a callback. -/
def Subscriber.label? : Subscriber → Option String
  | .callback label _ => some label
  | .session .. => none

namespace Client

/-- Whether a command is to close the client. -/
def Command.isClose : Command → Bool
  | .close => true
  | _ => false

/-- A client that is closed without the help of its loop. -/
def cleared (c : Client) : Client := { c with subscriptions := [], bus := none }

/-- What is left of the client after callbacks, of which one closes it or none does. -/
def leftBy (w : World Client) (closes : Bool) : Client :=
  if !w.loop.isRunning && closes then cleared w.service else w.service

/-- What comes of a command on the loop thread. -/
def retort (w : World Client) (command : Command) : Except Failure Answer :=
  (executeOnLoop command w).1

/-- The callbacks among subscriptions, with their labels. -/
def callbacks (told : List (Nat × Subscriber)) : List ((Nat × Subscriber) × String) :=
  told.filterMap fun e => e.2.label?.map fun label => (e, label)

end Client

namespace Conduct

variable (answer : Client.Command → Except Failure Answer)

/-- The properties that a callback leaves, if its calls are answered so. -/
def edits : Conduct → Props → Props
  | returns, props => props
  | raises .., props => props
  | changes f next, props => next.edits (f props)
  | calls command next, props => (next (answer command)).edits props

/-- Whether a callback tries to close the client, if its calls are answered so. -/
def closes : Conduct → Bool
  | returns => false
  | raises .. => false
  | changes _ next => next.closes
  | calls command next => command.isClose || (next (answer command)).closes

end Conduct

namespace Client

variable {w u v : World Client} {path : Value} {props : Props}

theorem announcement?_iff {s : Signal} {device : Value} :
    announcement? s = some (path, device) ↔ s.Announces path device := by
  unfold announcement?
  constructor
  · intro h
    split at h
    · next hkind =>
      rw [Bool.and_eq_true, Bool.and_eq_true, beq_iff_eq, beq_iff_eq] at hkind
      split at h
      · next interfaces rest hbody =>
        obtain ⟨d, hd, hpath⟩ := Option.map_eq_some_iff.mp h
        cases hpath
        exact ⟨hkind.1.1, hkind.1.2, hkind.2, interfaces, rest, hbody, hd⟩
      · cases h
    · cases h
  · rintro ⟨hs, hi, hm, interfaces, rest, hbody, hd⟩
    rw [hs, hi, hm, hbody]
    dsimp only
    rw [hd]
    rfl

theorem leftBy_false (w : World Client) : leftBy w false = w.service := by
  unfold leftBy
  rw [Bool.and_false]
  rfl

theorem leftBy_running (h : w.loop.isRunning = true) (closes : Bool) :
    leftBy w closes = w.service := by
  unfold leftBy
  rw [h]
  rfl

/-- One callback after others. -/
theorem leftBy_leftBy {a : Bool} (hloop : v.loop = w.loop) (hv : v.service = leftBy w a)
    (b : Bool) : leftBy v b = leftBy w (a || b) := by
  have hb : leftBy v b = if !w.loop.isRunning && b then cleared (leftBy w a) else leftBy w a := by
    rw [leftBy, hloop, hv]
  rw [hb]
  unfold leftBy
  cases w.loop.isRunning <;> cases a <;> cases b <;> rfl

theorem callTimeout_leftBy (w : World Client) (closes : Bool) :
    (leftBy w closes).callTimeout = w.service.callTimeout := by
  unfold leftBy
  split <;> rfl

/-! ## One call -/

/-- What is observed of a blocking call that is refused. -/
def IsRefusal (e : Event) : Prop := (∃ bound, e = .called bound) ∨ ∃ f, e = .reentered f

theorem IsRefusal.silent {e : Event} (h : IsRefusal e) : e.isTraffic = false := by
  rcases h with ⟨bound, rfl⟩ | ⟨f, rfl⟩ <;> rfl

theorem IsRefusal.notice?_eq_none {e : Event} (h : IsRefusal e) : e.notice? = none := by
  rcases h with ⟨bound, rfl⟩ | ⟨f, rfl⟩ <;> rfl

/-- Once the loop was told to stop, a command closes the client or is refused. -/
theorem execute_stopped (command : Command) (h : w.loop.isRunning = false) :
    execute command w = match command.bound w.service.callTimeout with
      | .error f => (.error f, w)
      | .ok bound =>
        if command.isClose then (.ok .nothing, w.after (cleared w.service) [])
        else (.error (.loopNotRunning w.loop.name), w.after w.service [.called (some bound)]) := by
  have hnone : w.loop.current = none := Option.isNone_iff_eq_none.mp (by
    rw [← Option.not_isSome, ← EventLoop.isRunning, h]
    rfl)
  have hrun {α : Type} (bound : Seconds) (task : Task α) : runTask bound task w =
      (.error (.loopNotRunning w.loop.name), w.after w.service [.called (some bound)]) := by
    rw [runTask_eq, hnone]
  have hperform {α : Type} (task : Task α) : perform task w =
      (.error (.loopNotRunning w.loop.name),
        w.after w.service [.called (some w.service.callTimeout)]) :=
    hrun w.service.callTimeout task
  have hmap {α : Type} {p : Action Client α} {f : Failure} {v : World Client} (g : α → Answer)
      (hp : p w = (.error f, v)) : (g <$> p) w = (.error f, v) := by
    rw [map_apply, hp]
    rfl
  cases command with
  | connect path timeout =>
    show (_ <$> connect path timeout) w = _
    unfold connect
    rw [map_apply, bind_ok (current_apply w), bind_apply, ofExcept_apply]
    dsimp only [Command.bound]
    cases boundWith timeout w.service.callTimeout with
    | error f => rfl
    | ok bound =>
      dsimp only
      rw [hrun]
      rfl
  | close =>
    show (_ <$> close) w = (.ok Answer.nothing, w.after (cleared w.service) [])
    unfold close
    rw [map_apply, bind_ok (get_apply w), h, World.after, List.append_nil]
    rfl
  | getAddress _ | getName _ | getRssi _ | getConnected _ | subscribe _ =>
    exact hmap _ (bind_error (hperform _))
  | _ => exact hmap _ (hperform _)

/-- While the loop runs, a command is refused on its thread. -/
theorem executeOnLoop_running (command : Command) (h : w.loop.isRunning = true) :
    executeOnLoop command w = match command.bound w.service.callTimeout with
      | .error f => (.error f, w)
      | .ok bound => (.error .calledOnLoop, w.after w.service [.called (some bound)]) := by
  unfold executeOnLoop
  rw [bind_ok (get_apply w), if_pos h, bind_ok (current_apply w), bind_apply, ofExcept_apply]
  cases command.bound w.service.callTimeout <;> rfl

theorem executeOnLoop_stopped (command : Command) (h : w.loop.isRunning = false) :
    executeOnLoop command w = execute command w := by
  unfold executeOnLoop
  rw [bind_ok (get_apply w), h]
  rfl

/-- What comes of a command on the loop thread depends on the loop and the client's own bound. -/
theorem retort_congr (hloop : v.loop = w.loop)
    (hown : v.service.callTimeout = w.service.callTimeout) : retort v = retort w := by
  funext command
  unfold retort
  cases h : w.loop.isRunning with
  | true =>
    rw [executeOnLoop_running command h, executeOnLoop_running command (by rw [hloop, h]), hown]
    cases command.bound w.service.callTimeout <;> rfl
  | false =>
    have hv : v.loop.isRunning = false := by rw [hloop, h]
    rw [executeOnLoop_stopped command h, executeOnLoop_stopped command hv,
      execute_stopped command h, execute_stopped command hv, hown, hloop]
    cases command.bound w.service.callTimeout with
    | error f => rfl
    | ok bound => cases command.isClose <;> rfl

/-- A command on the loop thread is refused, or it closes a client whose loop was told to stop. -/
theorem executeOnLoop_cases (command : Command) (w : World Client) :
    (∃ f es, executeOnLoop command w = (.error f, w.after w.service es) ∧
      leftBy w command.isClose = w.service ∧ ∀ e ∈ es, IsRefusal e) ∨
    executeOnLoop command w = (.ok .nothing, w.after (cleared w.service) []) ∧
      leftBy w command.isClose = cleared w.service := by
  have hnone : ∀ e ∈ ([] : List Event), IsRefusal e := fun e he => (nomatch he)
  have hcalled (bound : Seconds) : ∀ e ∈ [Event.called (some bound)], IsRefusal e :=
    List.forall_mem_singleton.mpr (Or.inl ⟨_, rfl⟩)
  have hsame : w = w.after w.service [] := (World.after_nil w).symm
  cases h : w.loop.isRunning with
  | true =>
    rw [executeOnLoop_running command h]
    cases command.bound w.service.callTimeout with
    | error f => exact Or.inl ⟨f, [], Prod.ext rfl hsame, leftBy_running h _, hnone⟩
    | ok bound => exact Or.inl ⟨_, _, rfl, leftBy_running h _, hcalled bound⟩
  | false =>
    rw [executeOnLoop_stopped command h, execute_stopped command h]
    cases hb : command.bound w.service.callTimeout with
    | error f =>
      have hc : command.isClose = false := by
        cases command <;> first | rfl | cases hb
      rw [hc]
      exact Or.inl ⟨f, [], Prod.ext rfl hsame, leftBy_false w, hnone⟩
    | ok bound =>
      cases command.isClose with
      | false => exact Or.inl ⟨_, _, rfl, leftBy_false w, hcalled bound⟩
      | true =>
        refine Or.inr ⟨rfl, ?_⟩
        unfold leftBy
        rw [h]
        rfl

/-- A command that is tried on the loop thread does nothing but close a client whose loop was told
to stop. -/
theorem tryOnLoop_apply (command : Command) (w : World Client) :
    ∃ es, tryOnLoop command w =
        (.ok (retort w command), w.after (leftBy w command.isClose) es) ∧
      ∀ e ∈ es, IsRefusal e := by
  unfold tryOnLoop retort
  rcases executeOnLoop_cases command w with ⟨f, es, hx, hleft, hes⟩ | ⟨hx, hleft⟩
  · have ha : (executeOnLoop command).attempt w = (.ok (.error f), w.after w.service es) := by
      rw [attempt_apply, hx]
    refine ⟨es ++ [.reentered f], ?_, fun e he => (List.mem_append.mp he).elim (hes e) fun he =>
      Or.inr ⟨f, List.mem_singleton.mp he⟩⟩
    rw [bind_ok ha, hx, hleft]
    dsimp only
    rw [bind_ok (World.observe_apply _ _), World.after_after]
    rfl
  · refine ⟨[], ?_, fun e he => (nomatch he)⟩
    rw [bind_ok (attempt_apply _ w), hx, hleft]
    rfl

/-! ## One callback -/

/-- What a callback comes to: a failure as it may be, the properties that it leaves, and its
refusals. -/
theorem perform_apply (c : Conduct) (w : World Client) (props : Props) :
    ∃ r es, c.perform (w, props) =
        (r, (w.after (leftBy w (c.closes (retort w))) es, c.edits (retort w) props)) ∧
      (∀ f, r = .error f → f.kind.isOrdinary = true) ∧ ∀ e ∈ es, IsRefusal e := by
  induction c generalizing w props with
  | returns =>
    refine ⟨.ok (), [], ?_, fun f hf => (nomatch hf), fun e he => (nomatch he)⟩
    rw [Conduct.closes, leftBy_false, World.after_nil]
    rfl
  | raises f ordinary =>
    refine ⟨.error f, [], ?_, fun g hg => ?_, fun e he => (nomatch he)⟩
    · rw [Conduct.closes, leftBy_false, World.after_nil]
      rfl
    · cases hg
      exact ordinary
  | changes f next ih => exact ih w (f props)
  | calls command next ih =>
    obtain ⟨es, hx, hes⟩ := tryOnLoop_apply command w
    have hloop : (w.after (leftBy w command.isClose) es).loop = w.loop := rfl
    have hservice : (w.after (leftBy w command.isClose) es).service =
        leftBy w command.isClose := rfl
    have htry : Telling.reading (fun _ => tryOnLoop command) (w, props) =
        (.ok (retort w command), (w.after (leftBy w command.isClose) es, props)) := by
      rw [Telling.reading_apply, hx]
    obtain ⟨r, fs, hnext, hr, hfs⟩ :=
      ih (retort w command) (w.after (leftBy w command.isClose) es) props
    -- no call changes what the answers to the others depend on
    have hretort : retort (w.after (leftBy w command.isClose) es) = retort w :=
      retort_congr hloop (callTimeout_leftBy w command.isClose)
    rw [hretort, leftBy_leftBy hloop hservice, World.after_after] at hnext
    refine ⟨r, es ++ fs, ?_, hr, fun e he => (List.mem_append.mp he).elim (hes e) (hfs e)⟩
    exact (bind_ok htry).trans hnext

/-! ## One subscription after another -/

section

variable (conduct : Nat × Subscriber → Value → Props → Conduct)
  (answer : Command → Except Failure Answer) (path : Value)

/-- What callbacks are told in turn: the first is handed these properties, and each of the others
what the one before it leaves. -/
def notices (props : Props) : List ((Nat × Subscriber) × String) → List (String × Value × Props)
  | [] => []
  | (e, label) :: rest =>
    (label, path, props) :: notices ((conduct e path props).edits answer props) rest

/-- Whether one of several callbacks that are told in turn tries to close the client. -/
def closing (props : Props) : List ((Nat × Subscriber) × String) → Bool
  | [] => false
  | (e, _) :: rest => (conduct e path props).closes answer ||
    closing ((conduct e path props).edits answer props) rest

end

/-- From `w` to `v` callbacks were given these notices and nothing was sent, and the client became
`c`: else only sessions changed. -/
structure Heard (ns : List (String × Value × Props)) (c : Client) (w v : World Client) : Prop where
  frame : v = { w with service := c, sessions := v.sessions, log := v.log }
  log : ∃ events, v.log = w.log ++ events ∧ Silent events ∧ events.filterMap Event.notice? = ns

theorem Heard.nil : Heard [] w.service w w where
  frame := rfl
  log := ⟨[], (List.append_nil _).symm, silent_nil, rfl⟩

theorem Heard.append {ns ms : List (String × Value × Props)} {c d : Client} (h : Heard ns c w u)
    (h' : Heard ms d u v) : Heard (ns ++ ms) d w v where
  frame := by
    have hv := h'.frame
    rw [h.frame] at hv
    exact hv
  log := by
    obtain ⟨a, ha, hsa, hna⟩ := h.log
    obtain ⟨b, hb, hsb, hnb⟩ := h'.log
    refine ⟨a ++ b, by rw [hb, ha, List.append_assoc], silent_append.mpr ⟨hsa, hsb⟩, ?_⟩
    rw [List.filterMap_append, hna, hnb]

theorem Heard.loop {ns : List (String × Value × Props)} {c : Client} (h : Heard ns c w v) :
    v.loop = w.loop := by
  rw [h.frame]

theorem Heard.service {ns : List (String × Value × Props)} {c : Client} (h : Heard ns c w v) :
    v.service = c := by
  rw [h.frame]

/-- What was heard is in the log, and what became of the client in the world. -/
theorem Heard.unique {ns ms : List (String × Value × Props)} {c d : Client} (h : Heard ns c w v)
    (h' : Heard ms d w v) : ns = ms ∧ c = d := by
  obtain ⟨a, ha, _, hna⟩ := h.log
  obtain ⟨b, hb, _, hnb⟩ := h'.log
  have hab : a = b := List.append_cancel_left (ha.symm.trans hb)
  exact ⟨by rw [← hna, ← hnb, hab], h.service.symm.trans h'.service⟩

/-- A callback is told. -/
theorem tellWith_callback (conduct : Nat × Subscriber → Value → Props → Conduct) (path : Value)
    (n : Nat) (label : String) (reaction : Reaction) (w : World Client) (props : Props) :
    let c := conduct (n, .callback label reaction) path props
    ∃ r v, tellWith conduct (n, .callback label reaction) path (w, props) =
        (r, (v, c.edits (retort w) props)) ∧
      (∀ f, r = .error f → f.kind.isOrdinary = true) ∧
      Heard [(label, path, props)] (leftBy w (c.closes (retort w))) w v := by
  intro c
  obtain ⟨r, es, hx, hr, hes⟩ :=
    perform_apply c (w.after w.service [.notified label path props]) props
  have hretort : retort (w.after w.service [.notified label path props]) = retort w :=
    retort_congr rfl rfl
  have hleft (b : Bool) :
      leftBy (w.after w.service [.notified label path props]) b = leftBy w b := rfl
  rw [hretort, hleft, World.after_after] at hx
  have hobserve : Telling.reading (fun _ => World.observe (.notified label path props))
      (w, props) = (.ok (), (w.after w.service [.notified label path props], props)) := rfl
  refine ⟨r, _, (bind_ok (get_apply _)).trans ((bind_ok hobserve).trans hx), hr, rfl, _, rfl,
    ?_, ?_⟩
  · intro e he
    rcases List.mem_cons.mp he with rfl | he
    · rfl
    · exact (hes e he).silent
  · have hnone : es.filterMap Event.notice? = [] :=
      List.filterMap_eq_nil_iff.mpr fun e he => (hes e he).notice?_eq_none
    show (label, path, props) :: es.filterMap Event.notice? = _
    rw [hnone]

/-- A session is told. -/
theorem tellWith_session (conduct : Nat × Subscriber → Value → Props → Conduct) (path : Value)
    (n number : Nat) (adapter : String) (w : World Client) (props : Props) :
    ∃ r v, tellWith conduct (n, .session number adapter) path (w, props) = (r, (v, props)) ∧
      (∀ f, r = .error f → f.kind.isOrdinary = true) ∧ Heard [] w.service w v := by
  have hsame : Heard [] w.service w w := .nil
  refine ⟨(World.announceTo number adapter path (.dict props) w).1,
    (World.announceTo number adapter path (.dict props) w).2, rfl, ?_⟩
  unfold World.announceTo
  rw [bind_ok (get_apply w), bind_apply, ofExcept_apply]
  cases hh : (w.session number).hear adapter path (.dict props) with
  | ok session => exact ⟨fun f hf => (nomatch hf), rfl, hsame.log⟩
  | error f =>
    refine ⟨fun g hg => ?_, hsame⟩
    cases hg
    exact DiscoverySession.isOrdinary_of_hear_error hh

/-- Every callback is told in turn, and handed what the others left. -/
theorem forEach_tellWith (conduct : Nat × Subscriber → Value → Props → Conduct) (path : Value)
    (told : List (Nat × Subscriber)) (w : World Client) (props : Props) :
    ∃ v next, forEach (fun e => ignoring (·.kind.isOrdinary) (tellWith conduct e path)) told
        (w, props) = (.ok (), (v, next)) ∧
      Heard (notices conduct (retort w) path props (callbacks told))
        (leftBy w (closing conduct (retort w) path props (callbacks told))) w v := by
  induction told generalizing w props with
  | nil =>
    refine ⟨w, props, rfl, ?_⟩
    show Heard [] (leftBy w false) w w
    rw [leftBy_false]
    exact .nil
  | cons e rest ih =>
    obtain ⟨n, s⟩ := e
    cases s with
    | callback label reaction =>
      obtain ⟨r, u, hx, hr, hu⟩ := tellWith_callback conduct path n label reaction w props
      obtain ⟨v, next, hrest, hv⟩ := ih u
        ((conduct (n, .callback label reaction) path props).edits (retort w) props)
      have hretort : retort u = retort w :=
        retort_congr hu.loop (by rw [hu.service, callTimeout_leftBy])
      rw [hretort, leftBy_leftBy hu.loop hu.service] at hv
      exact ⟨v, next, (bind_ok (ignoring_of_taken hx hr)).trans hrest, hu.append hv⟩
    | session number adapter =>
      obtain ⟨r, u, hx, hr, hu⟩ := tellWith_session conduct path n number adapter w props
      obtain ⟨v, next, hrest, hv⟩ := ih u props
      have hretort : retort u = retort w := retort_congr hu.loop (by rw [hu.service])
      rw [hretort, leftBy_leftBy hu.loop (hu.service.trans (leftBy_false w).symm)] at hv
      exact ⟨v, next, (bind_ok (ignoring_of_taken hx hr)).trans hrest, hu.append hv⟩

/-- While the loop runs, a subscriber that does what it does by itself is told as the handler tells
it. -/
theorem tellWith_usual (e : Nat × Subscriber) (path : Value) (h : w.loop.isRunning = true)
    (props : Props) : tellWith usualConduct e path (w, props) =
      Telling.reading (fun props => e.2.notify reenter path props) (w, props) := by
  obtain ⟨n, s⟩ := e
  cases s with
  | session number adapter => rfl
  | callback label reaction =>
    cases reaction with
    | reenters =>
      let v := w.after w.service [.notified label path props]
      have hrefused : executeOnLoop (.getPowered "/") v = _ := executeOnLoop_running _ h
      have htry : Telling.reading (fun _ => tryOnLoop (.getPowered "/")) (v, props) =
          (.ok (.error .calledOnLoop),
            ((v.after v.service [.called (some v.service.callTimeout)]).after v.service
              [.reentered .calledOnLoop], props)) := by
        rw [Telling.reading_apply]
        unfold tryOnLoop
        rw [bind_ok (attempt_apply _ v), hrefused]
        rfl
      exact bind_ok htry
    | _ => rfl

/-- While the loop runs, the handler is the one whose subscribers do what they do by themselves. -/
theorem handle_eq_dispatch (s : Signal) (h : w.loop.isRunning = true) :
    handle s w = dispatch (tellWith usualConduct) s w := by
  unfold handle dispatch
  rcases announcement? s with _ | ⟨path, device⟩
  · rfl
  · cases device with
    | dict props =>
      dsimp only
      have hkeeps (e : Nat × Subscriber) :
          Keeps (fun t : World Client × Props => t.1.loop.isRunning = true)
            (ignoring (·.kind.isOrdinary)
              (Telling.reading fun props => e.2.notify reenter path props)) := by
        intro t ht
        have hstill := still_deliver path t.2 e.2 t.1 (still_refl t.1)
        unfold deliver at hstill
        rw [ignoring_state] at hstill ⊢
        exact (congrArg EventLoop.isRunning hstill.2.1).trans ht
      have hsame (e : Nat × Subscriber) (t : World Client × Props)
          (ht : t.1.loop.isRunning = true) :
          ignoring (·.kind.isOrdinary) (tellWith usualConduct e path) t =
            ignoring (·.kind.isOrdinary)
              (Telling.reading fun props => e.2.notify reenter path props) t := by
        rw [ignoring_apply, ignoring_apply, tellWith_usual e path ht t.2]
      rw [bind_ok (current_apply w), bind_ok (current_apply w)]
      unfold Telling.startingWith
      rw [forEach_congr hsame hkeeps w.service.subscriptions (s := (w, Props.unwrap props)) h]
    | _ => rfl

/-! ## Isolation -/

/-- Each callback but the last leaves the properties as they were. -/
def Discreet (conduct : Nat × Subscriber → Value → Props → Conduct)
    (answer : Command → Except Failure Answer) (path : Value) (props : Props)
    (cs : List ((Nat × Subscriber) × String)) : Prop :=
  ∀ c ∈ cs.dropLast, (conduct c.1 path props).edits answer props = props

variable {conduct : Nat × Subscriber → Value → Props → Conduct}

/-- Callbacks are handed the same properties exactly if each but the last leaves them alone. -/
theorem notices_eq_iff (answer : Command → Except Failure Answer)
    (cs : List ((Nat × Subscriber) × String)) :
    notices conduct answer path props cs = cs.map (fun c => (c.2, path, props)) ↔
      Discreet conduct answer path props cs := by
  unfold Discreet
  induction cs with
  | nil => exact iff_of_true rfl fun c hc => (nomatch hc)
  | cons c rest ih =>
    obtain ⟨e, label⟩ := c
    unfold notices
    rw [List.map_cons, List.cons_inj_right]
    cases rest with
    | nil => exact iff_of_true rfl fun c hc => (nomatch hc)
    | cons d others =>
      rw [List.dropLast_cons_cons, List.forall_mem_cons, ← ih]
      constructor
      · intro h
        have hprops : (conduct e path props).edits answer props = props := by
          unfold notices at h
          rw [List.map_cons] at h
          injection h with hd _
          injection hd with _ hd
          injection hd
        rw [hprops] at h
        exact ⟨hprops, h⟩
      · rintro ⟨hprops, h⟩
        dsimp only at hprops
        rw [hprops]
        exact h

/-- If all are handed the same properties, none tries to close the client exactly if none does so
for these. -/
theorem closing_eq_false_iff (answer : Command → Except Failure Answer)
    {cs : List ((Nat × Subscriber) × String)} (h : Discreet conduct answer path props cs) :
    closing conduct answer path props cs = false ↔
      ∀ c ∈ cs, (conduct c.1 path props).closes answer = false := by
  induction cs with
  | nil => exact iff_of_true rfl fun c hc => (nomatch hc)
  | cons c rest ih =>
    obtain ⟨e, label⟩ := c
    unfold closing
    rw [Bool.or_eq_false_iff, List.forall_mem_cons]
    refine and_congr_right fun _ => ?_
    cases rest with
    | nil => exact iff_of_true rfl fun c hc => (nomatch hc)
    | cons d others =>
      unfold Discreet at h ih
      rw [List.dropLast_cons_cons, List.forall_mem_cons] at h
      have hprops : (conduct e path props).edits answer props = props := h.1
      rw [hprops]
      exact ih h.2

/-- Whatever is handed to them, each callback is told once and in order. -/
theorem notices_names (answer : Command → Except Failure Answer)
    (cs : List ((Nat × Subscriber) × String)) (props : Props) :
    (notices conduct answer path props cs).map (fun n => (n.1, n.2.1)) =
      cs.map fun c => (c.2, path) := by
  induction cs generalizing props with
  | nil => rfl
  | cons c rest ih => exact congrArg _ (ih _)

/-- From `w` to `v` these subscriptions were told of a device: each callback once, in order and of
this path, with nothing sent and nothing failing for it, and the client was left alone, unless its
loop was told to stop and it was closed. -/
def Notified (path : Value) (told : List (Nat × Subscriber)) (w v : World Client) : Prop :=
  ∃ ns c, Heard ns c w v ∧
    ns.map (fun n => (n.1, n.2.1)) = (callbacks told).map (fun c => (c.2, path)) ∧
    (c = w.service ∨ w.loop.isRunning = false ∧ c = cleared w.service)

/-- From `w` to `v` these subscriptions were told of a device: each callback once, in order, of this
path and with these properties, with nothing sent and the client left alone. -/
def Informed (path : Value) (props : Props) (told : List (Nat × Subscriber))
    (w v : World Client) : Prop :=
  Heard ((callbacks told).map fun c => (c.2, path, props)) w.service w v

/-- A client with subscriptions is left alone exactly if its loop runs or nobody closes it. -/
theorem leftBy_eq_iff {closes : Bool} (h : closes = true → w.service.subscriptions ≠ []) :
    leftBy w closes = w.service ↔ w.loop.isRunning = true ∨ closes = false := by
  cases hr : w.loop.isRunning with
  | true => exact iff_of_true (leftBy_running hr closes) (Or.inl rfl)
  | false =>
    cases closes with
    | false => exact iff_of_true (leftBy_false w) (Or.inr rfl)
    | true =>
      refine iff_of_false (fun hc => h rfl ?_) (fun hc => hc.elim nofun nofun)
      rw [← hc, leftBy, hr]
      rfl

/-- What callbacks heard is what they were to hear exactly if each but the last is discreet, and
none tries to close the client unless its loop runs. -/
theorem informed_iff
    (h : Heard (notices conduct (retort w) path props (callbacks w.service.subscriptions))
      (leftBy w (closing conduct (retort w) path props (callbacks w.service.subscriptions))) w v) :
    Informed path props w.service.subscriptions w v ↔
      Discreet conduct (retort w) path props (callbacks w.service.subscriptions) ∧
      (w.loop.isRunning = true ∨ ∀ c ∈ callbacks w.service.subscriptions,
        (conduct c.1 path props).closes (retort w) = false) := by
  have hsome (hc : closing conduct (retort w) path props
      (callbacks w.service.subscriptions) = true) : w.service.subscriptions ≠ [] := by
    intro hnil
    rw [hnil] at hc
    cases hc
  calc Informed path props w.service.subscriptions w v
      ↔ notices conduct (retort w) path props (callbacks w.service.subscriptions) =
            (callbacks w.service.subscriptions).map (fun c => (c.2, path, props)) ∧
          leftBy w (closing conduct (retort w) path props (callbacks w.service.subscriptions)) =
            w.service := by
        refine ⟨fun hi => h.unique hi, fun ⟨hn, hc⟩ => ?_⟩
        rw [hn, hc] at h
        exact h
    _ ↔ _ := by
        rw [notices_eq_iff, leftBy_eq_iff hsome]
        exact and_congr_right fun hd => or_congr_right (closing_eq_false_iff _ hd)

end Client

end BluetoothControl
