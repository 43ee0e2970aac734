import BluetoothControl.Client.Run

/-!
# What the client's tasks do

A task that starts in a world `w` ends in `w.after c es`: the client became `c`, and `es` was
observed.  Each part of the client has lemmas that say which, one for each way it can go:

    reconnect w = (.ok n, w.after w.service.connected …)              (reconnect_opens)
    obtainBus w = (.ok n, w)                                          (obtainBus_held)
    call m context w = exchange n m context w                         (call_held)
    installHandler n w = (…, w.after (w.service.requested n) …)       (installHandler_request)

Only where a new connection is down at once does the request for notifications seek yet another
one; what holds of that case too is proved by recursion (`obtainBus_eq`).
-/

namespace BluetoothControl

/-! ## Worlds -/

namespace World

variable {κ ε : Type}

/-- The world in which the service became `service` and `events` were observed. -/
def after (w : World κ) (service : κ) (events : List Event) : World κ :=
  { w with service, log := w.log ++ events }

@[simp] theorem after_service (w : World κ) (c : κ) (es : List Event) :
    (w.after c es).service = c := rfl

@[simp] theorem after_log (w : World κ) (c : κ) (es : List Event) :
    (w.after c es).log = w.log ++ es := rfl

theorem after_after (w : World κ) (c d : κ) (es fs : List Event) :
    (w.after c es).after d fs = w.after d (es ++ fs) := by
  unfold after
  rw [List.append_assoc]

theorem after_nil (w : World κ) : w.after w.service [] = w := by
  rw [after, List.append_nil]

/-- The loop runs, and nothing waits on it. -/
def Running (w : World κ) : Prop := ∃ name, w.loop = { name, current := some {} }

theorem observe_apply (e : Event) (w : World κ) :
    (observe e : Procedure ε (World κ) Unit) w = (.ok (), w.after w.service [e]) := rfl

end World

/-! ## The handler in a log -/

theorem handlings_append (es fs : List Event) :
    handlings (es ++ fs) = handlings es ++ handlings fs :=
  List.filterMap_append

namespace Client

open Procedure

/-! ## Verdicts -/

theorem verdict_of_isAccepted {d : Delivery} (context : String) (h : d.isAccepted = true) :
    ∃ body, verdict context d = .ok body := by
  cases d with
  | answered r =>
    cases r with
    | returned body => exact ⟨body, rfl⟩
    | refused r => cases h
    | missing => cases h
  | fails f => cases h
  | unanswered => cases h
  | belated r => cases h

/-- A call that answers was answered. -/
theorem of_verdict_ok {d : Delivery} {context : String} {body : List Value}
    (h : verdict context d = .ok body) : d = .answered (.returned body) := by
  cases d with
  | answered r =>
    cases r with
    | returned b =>
      cases h
      rfl
    | refused r => cases h
    | missing => cases h
  | fails f => cases h
  | unanswered => cases h
  | belated r => cases h

theorem isInterrupted_of_isAccepted {d : Delivery} (h : d.isAccepted = true) :
    d.isInterrupted = false := by
  cases d with
  | answered r =>
    cases r with
    | returned body => rfl
    | refused r => cases h
    | missing => cases h
  | fails f => cases h
  | unanswered => cases h
  | belated r => cases h

/-- A call that is not accepted fails, and a handler for failures of the service takes it exactly
if it was not interrupted. -/
theorem verdict_of_not_isAccepted {d : Delivery} (context : String) (h : d.isAccepted = false) :
    ∃ e, verdict context d = .error e ∧ e.isA .service = !d.isInterrupted := by
  cases d with
  | answered r =>
    cases r with
    | returned body => cases h
    | missing => exact ⟨_, rfl, rfl⟩
    | refused r =>
      refine ⟨_, rfl, ?_⟩
      show (r.failure context).isA .service = !r.detail.toOption.isNone
      unfold ErrorReply.failure
      cases hd : r.detail with
      | ok detail => rfl
      | error f => exact ErrorReply.kind_of_detail_error hd
  | fails f =>
    refine ⟨_, rfl, ?_⟩
    show Failure.isA (if f.kind.isOrdinary then _ else f) .service = !!f.kind.isOrdinary
    cases ho : f.kind.isOrdinary with
    | true => rfl
    | false =>
      have hk : f.kind = .cancelled := by simpa [Kind.isOrdinary] using ho
      rw [if_neg (by simp), Failure.isA, hk]
      rfl
  | unanswered => exact ⟨_, rfl, rfl⟩
  | belated r => exact ⟨_, rfl, rfl⟩

/-! ## Steps -/

variable {ε : Type}

theorem current_apply (w : World Client) :
    (current : Procedure ε (World Client) Client) w = (.ok w.service, w) := rfl

theorem change_apply (f : Client → Client) (w : World Client) :
    (change f : Procedure ε (World Client) Unit) w = (.ok (), w.after (f w.service) []) := by
  unfold World.after
  rw [List.append_nil]
  rfl

/-- The client on another state of the bus. -/
def withLink (c : Client) (l : Link) : Client := { c with link := l }

theorem changeLink_apply (f : Link → Link) (w : World Client) :
    (changeLink f : Procedure ε (World Client) Unit) w =
      (.ok (), w.after (w.service.withLink (f w.service.link)) []) :=
  change_apply _ w

theorem fail_apply {α : Type} (f : Failure) (w : World Client) :
    (fail f : Task α) w = (.error (.failed f), w) := rfl

theorem exchange_apply (n : Nat) (m : Message) (context : String) (w : World Client) :
    exchange n m context w =
      (verdict context (w.service.link.nextReply n).1,
        w.after (w.service.withLink (w.service.link.nextReply n).2)
          [.sent n m, .resolved n m (w.service.link.nextReply n).1]) := by
  unfold exchange
  rw [bind_ok (World.observe_apply _ _), bind_ok (current_apply _)]
  dsimp only
  rw [bind_ok (changeLink_apply _ _), bind_ok (World.observe_apply _ _), ofExcept_apply]
  simp only [World.after_after]
  rfl

/-! ## New connections -/

/-- The client once the next attempt to connect succeeded. -/
def connected (c : Client) : Client :=
  { c.withLink c.link.nextConnect.2.opened.2 with bus := some (c.link.buses.length + 1) }

/-- The client once the next attempt to connect succeeded and the connection is down. -/
def lapsed (c : Client) : Client :=
  c.connected.withLink (c.connected.link.drop (c.link.buses.length + 1))

/-- The client once a connection was opened that nobody holds. -/
def strayed (c : Client) : Client := c.withLink c.link.nextConnect.2.opened.2

theorem opened_nextConnect (l : Link) : l.nextConnect.2.opened.1 = l.buses.length + 1 := by
  show l.nextConnect.2.buses.length + 1 = _
  rw [Link.buses_nextConnect]

theorem isConnected_strayed (c : Client) (n : Nat) :
    c.strayed.link.isConnected n =
      (decide (n = c.link.buses.length + 1) || c.link.isConnected n) := by
  show c.link.nextConnect.2.opened.2.isConnected n = _
  rw [Link.isConnected_opened, opened_nextConnect,
    Link.isConnected_of_buses (Link.buses_nextConnect c.link)]

theorem isConnected_connected (c : Client) (n : Nat) :
    c.connected.link.isConnected n =
      (decide (n = c.link.buses.length + 1) || c.link.isConnected n) := isConnected_strayed c n

theorem handlersOn_strayed (c : Client) (n : Nat) :
    c.strayed.link.handlersOn n = c.link.handlersOn n := by
  show c.link.nextConnect.2.opened.2.handlersOn n = _
  rw [Link.handlersOn_opened, Link.handlersOn_of_buses (Link.buses_nextConnect c.link)]

theorem handlersOn_connected (c : Client) (n : Nat) :
    c.connected.link.handlersOn n = c.link.handlersOn n := handlersOn_strayed c n

theorem length_strayed (c : Client) :
    c.strayed.link.buses.length = c.link.buses.length + 1 := by
  show c.link.nextConnect.2.opened.2.buses.length = _
  rw [Link.length_opened, opened_nextConnect]

theorem length_connected (c : Client) :
    c.connected.link.buses.length = c.link.buses.length + 1 := length_strayed c

theorem length_lapsed (c : Client) : c.lapsed.link.buses.length = c.link.buses.length + 1 :=
  (Link.length_change ..).trans (length_strayed c)

theorem openBus?_connected (c : Client) :
    c.connected.openBus? = some (c.link.buses.length + 1) := by
  refine Option.filter_eq_some_iff.mpr ⟨rfl, ?_⟩
  rw [isConnected_connected]
  simp

theorem openBus?_lapsed (c : Client) : c.lapsed.openBus? = none := by
  refine Option.filter_eq_none_iff.mpr fun n hn => ?_
  obtain rfl : c.link.buses.length + 1 = n := Option.some.inj hn
  show ¬ (c.connected.link.drop (c.link.buses.length + 1)).isConnected (c.link.buses.length + 1) =
    true
  rw [Link.isConnected_drop]
  simp

section
variable {w : World Client}

theorem openBus_apply {n : Nat} (h : n = w.service.link.opened.1) :
    openBus w = (.ok n, w.after (w.service.withLink w.service.link.opened.2) []) := by
  subst h
  unfold openBus
  rw [bind_ok (current_apply w)]
  dsimp only
  rw [bind_ok (changeLink_apply _ _)]
  rfl

/-- To connect is to open a connection, if it is one of the attempts that do. -/
theorem openBus_nextConnect {n : Nat} (h : n = w.service.link.buses.length + 1) :
    openBus (w.after (w.service.withLink w.service.link.nextConnect.2) []) =
      (.ok n, w.after w.service.strayed []) := by
  rw [openBus_apply, World.after_after]
  · rfl
  · rw [h]
    exact (opened_nextConnect _).symm

theorem connectBus_opens {n : Nat} (h : w.service.link.nextConnect.1 = .opens)
    (hn : n = w.service.link.buses.length + 1) :
    connectBus w = (.ok n, w.after w.service.strayed [.connected n]) := by
  unfold connectBus
  rw [bind_ok (current_apply w)]
  dsimp only
  rw [bind_ok (changeLink_apply _ _), h]
  dsimp only
  rw [bind_ok (openBus_nextConnect hn), bind_ok (World.observe_apply _ _), World.after_after]
  rfl

theorem connectBus_opensDown {n : Nat} (h : w.service.link.nextConnect.1 = .opensDown)
    (hn : n = w.service.link.buses.length + 1) :
    connectBus w =
      (.ok n, w.after (w.service.strayed.withLink (w.service.strayed.link.drop n))
        [.connected n, .lapsed n]) := by
  unfold connectBus
  rw [bind_ok (current_apply w)]
  dsimp only
  rw [bind_ok (changeLink_apply _ _), h]
  dsimp only
  rw [bind_ok (openBus_nextConnect hn), bind_ok (World.observe_apply _ _),
    bind_ok (changeLink_apply _ _), bind_ok (World.observe_apply _ _), World.after_after,
    World.after_after, World.after_after]
  rfl

theorem connectBus_strays {n : Nat} (h : w.service.link.nextConnect.1 = .strays)
    (hn : n = w.service.link.buses.length + 1) :
    connectBus w = (.error .unanswered, w.after w.service.strayed [.strayed n]) := by
  unfold connectBus
  rw [bind_ok (current_apply w)]
  dsimp only
  rw [bind_ok (changeLink_apply _ _), h]
  dsimp only
  rw [bind_ok (openBus_nextConnect hn), bind_ok (World.observe_apply _ _), World.after_after]
  rfl

theorem connectBus_fails {f : Failure} (h : w.service.link.nextConnect.1 = .fails f) :
    connectBus w =
      (.error (.failed f),
        w.after (w.service.withLink w.service.link.nextConnect.2) [.connectFailed]) := by
  unfold connectBus
  rw [bind_ok (current_apply w)]
  dsimp only
  rw [bind_ok (changeLink_apply _ _), h]
  dsimp only
  rw [bind_ok (World.observe_apply _ _), World.after_after]
  rfl

theorem connectBus_hangs (h : w.service.link.nextConnect.1 = .hangs) :
    connectBus w =
      (.error .unanswered, w.after (w.service.withLink w.service.link.nextConnect.2) []) := by
  unfold connectBus
  rw [bind_ok (current_apply w)]
  dsimp only
  rw [bind_ok (changeLink_apply _ _), h]
  rfl

/-! ## The connection held -/

theorem reconnect_ok {n : Nat} {v : World Client} (h : connectBus w = (.ok n, v)) :
    reconnect w = (.ok n, v.after { v.service with bus := some n } []) := by
  unfold reconnect
  rw [bind_ok (tryCatch_ok h), bind_ok (change_apply _ _)]
  rfl

/-- What can come of reconnecting. -/
inductive Reconnected (w : World Client) : Except Halt Nat × World Client → Prop
  /-- There is a new connection. -/
  | opens {n : Nat} (number : n = w.service.link.buses.length + 1)
      (outcome : w.service.link.nextConnect.1 = .opens) :
      Reconnected w (.ok n, w.after w.service.connected [.connected n])
  /-- There was one. -/
  | lapses {n : Nat} (number : n = w.service.link.buses.length + 1)
      (outcome : w.service.link.nextConnect.1 = .opensDown) :
      Reconnected w (.ok n, w.after w.service.lapsed [.connected n, .lapsed n])
  /-- There is one that nobody holds. -/
  | strays {n : Nat} (number : n = w.service.link.buses.length + 1)
      (outcome : w.service.link.nextConnect.1 = .strays) :
      Reconnected w (.error .unanswered, w.after w.service.strayed [.strayed n])
  /-- The attempt never ends. -/
  | hangs (outcome : w.service.link.nextConnect.1 = .hangs) :
      Reconnected w
        (.error .unanswered, w.after (w.service.withLink w.service.link.nextConnect.2) [])
  /-- The attempt is cancelled. -/
  | cancelled {f : Failure} (outcome : w.service.link.nextConnect.1 = .fails f)
      (kind : f.kind = .cancelled) :
      Reconnected w
        (.error (.failed f),
          w.after (w.service.withLink w.service.link.nextConnect.2) [.connectFailed])
  /-- The attempt fails, and the connection held is given up. -/
  | unreachable {f : Failure} (outcome : w.service.link.nextConnect.1 = .fails f)
      (kind : f.kind.isOrdinary = true) :
      Reconnected w
        (.error (.failed (.busUnreachable f.message)),
          w.after { w.service.withLink w.service.link.nextConnect.2 with bus := none }
            [.connectFailed])

/-- To reconnect goes one of six ways. -/
theorem reconnected (w : World Client) : Reconnected w (reconnect w) := by
  cases hc : w.service.link.nextConnect.1 with
  | opens =>
    rw [reconnect_ok (connectBus_opens hc rfl), World.after_after]
    exact .opens rfl hc
  | opensDown =>
    rw [reconnect_ok (connectBus_opensDown hc rfl), World.after_after]
    exact .lapses rfl hc
  | strays =>
    unfold reconnect
    rw [bind_apply, tryCatch_error (connectBus_strays hc rfl)]
    exact .strays rfl hc
  | hangs =>
    unfold reconnect
    rw [bind_apply, tryCatch_error (connectBus_hangs hc)]
    exact .hangs hc
  | fails f =>
    unfold reconnect
    rw [bind_apply, tryCatch_error (connectBus_fails hc)]
    cases hf : f.kind.isOrdinary with
    | true =>
      simp only [hf, if_true]
      rw [bind_ok (change_apply _ _), fail_apply, World.after_after]
      exact .unreachable hc hf
    | false =>
      simp only [hf, Bool.false_eq_true, if_false]
      exact .cancelled hc (by simpa [Kind.isOrdinary] using hf)

theorem obtainWithin_held {n : Nat} (depth : Nat) (h : w.service.openBus? = some n) :
    obtainWithin (depth + 1) w = (.ok n, w) := by
  unfold obtainWithin
  rw [bind_ok (current_apply w), h]
  rfl

/-- Without a connection that is up, a new one is needed. -/
theorem obtainWithin_down (depth : Nat) (h : w.service.openBus? = none) :
    obtainWithin (depth + 1) w =
      (reconnect >>= takeUp (do exchange (← obtainWithin depth) .addMatch addMatchContext)) w := by
  conv_lhs => unfold obtainWithin
  rw [bind_ok (current_apply w), h]

theorem obtainBus_held {n : Nat} (h : w.service.openBus? = some n) :
    obtainBus w = (.ok n, w) := by
  unfold obtainBus
  rw [bind_ok (current_apply w)]
  exact obtainWithin_held _ h

end

/-! ## The notification handler -/

/-- The client after a request for notifications on a connection. -/
def requested (c : Client) (n : Nat) : Client :=
  let r := (c.link.addHandler n).nextReply n
  if r.1.isAccepted then { c.withLink r.2 with signalBus := some n }
  else if r.1.isInterrupted then c.withLink r.2
  else c.withLink (r.2.removeHandler n)

/-- What comes of asking for notifications when the request fares so. -/
def consentOf (d : Delivery) : Consent :=
  if d.isAccepted then .granted else if d.isInterrupted then .interrupted else .denied

/-- What is observed of a request for notifications that fared so. -/
def requestEvents (n : Nat) (d : Delivery) : List Event :=
  [.handlerAdded n, .sent n .addMatch, .resolved n .addMatch d, .consented n (consentOf d)] ++
    if d.isAccepted || d.isInterrupted then [] else [.handlerRemoved n]

/-- Only the link and the record change. -/
theorem requested_eq (c : Client) (n : Nat) :
    c.requested n =
      { c.withLink (c.requested n).link with signalBus := (c.requested n).signalBus } := by
  unfold requested
  dsimp only
  split
  · rfl
  · split
    · rfl
    · rfl

theorem requested_bus (c : Client) (n : Nat) : (c.requested n).bus = c.bus := by
  rw [requested_eq]
  rfl

theorem requested_subscriptions (c : Client) (n : Nat) :
    (c.requested n).subscriptions = c.subscriptions := by
  rw [requested_eq]
  rfl

theorem length_requested (c : Client) (n : Nat) :
    (c.requested n).link.buses.length = c.link.buses.length := by
  have hlen : ((c.link.addHandler n).nextReply n).2.buses.length = c.link.buses.length :=
    (Link.length_nextReply ..).trans (Link.length_change ..)
  unfold requested
  dsimp only
  split
  · exact hlen
  · split
    · exact hlen
    · exact (Link.length_change ..).trans hlen

/-- The world in which the handler was just put on a connection. -/
def asking (n : Nat) (w : World Client) : World Client :=
  w.after (w.service.withLink (w.service.link.addHandler n)) [.handlerAdded n]

/-- The world once asking for notifications on a connection came to this. -/
def settled (n : Nat) (consent : Consent) (w : World Client) : World Client :=
  match consent with
  | .granted => w.after { w.service with signalBus := some n } [.consented n .granted]
  | .denied =>
    w.after (w.service.withLink (w.service.link.removeHandler n))
      [.consented n .denied, .handlerRemoved n]
  | .interrupted => w.after w.service [.consented n .interrupted]

section
variable {ask : Task (List Value)} {n : Nat} {w : World Client}

theorem installAsking_recorded (h : w.service.signalBus = some n) :
    installAsking ask n w = (.ok (), w) := by
  unfold installAsking
  rw [bind_ok (current_apply w), if_pos h]
  rfl

/-- What becomes of the handler that was put on a connection depends on what the asking comes to. -/
theorem installAsking_new (h : w.service.signalBus ≠ some n) :
    installAsking ask n w =
      match ask (asking n w) with
      | (.ok _, v) => (.ok (), settled n .granted v)
      | (.error e, v) => (.error e, settled n (Halt.consent e) v) := by
  unfold installAsking
  rw [bind_ok (current_apply w), if_neg h]
  rw [bind_ok (changeLink_apply _ _), bind_ok (World.observe_apply _ _), World.after_after]
  show (tryCatch (discard ask) _ >>= _) (asking n w) = _
  have hx := discard_apply ask (asking n w)
  rcases ha : ask (asking n w) with ⟨r, v⟩
  rw [ha] at hx
  cases r with
  | ok body =>
    rw [bind_ok (tryCatch_ok hx), bind_ok (World.observe_apply _ _), change_apply,
      World.after_after]
    rfl
  | error e =>
    rw [bind_apply, tryCatch_error hx]
    unfold Halt.consent
    cases he : e.isA .service with
    | true =>
      simp only [he, if_true, bind_apply, World.observe_apply, changeLink_apply, throw_apply,
        World.after_after]
      rfl
    | false =>
      simp only [he, Bool.false_eq_true, if_false, bind_apply, World.observe_apply, throw_apply]
      rfl

/-- Two ways to ask that come to the same are the same to the handler. -/
theorem installAsking_congr {ask' : Task (List Value)} (h : ask (asking n w) = ask' (asking n w)) :
    installAsking ask n w = installAsking ask' n w := by
  by_cases hr : w.service.signalBus = some n
  · rw [installAsking_recorded hr, installAsking_recorded hr]
  · rw [installAsking_new hr, installAsking_new hr, h]

theorem openBus?_asking (n : Nat) (w : World Client) :
    (asking n w).service.openBus? = w.service.openBus? := by
  show Option.filter (w.service.link.addHandler n).isConnected w.service.bus = _
  rw [show (w.service.link.addHandler n).isConnected = w.service.link.isConnected from
    funext fun m => Link.isConnected_addHandler ..]
  rfl

theorem connects_asking (n : Nat) (w : World Client) :
    (asking n w).service.link.connects = w.service.link.connects := by
  cases n <;> rfl

/-! ## Calls -/

theorem call_held (h : w.service.openBus? = some n) (m : Message) (context : String) :
    call m context w = exchange n m context w := by
  unfold call
  rw [bind_ok (obtainBus_held h)]

/-- While a connection is up, the request for notifications goes to that one. -/
theorem installHandler_request (ho : w.service.openBus? = some n)
    (h : w.service.signalBus ≠ some n) :
    installHandler n w =
      ((verdict addMatchContext (w.service.link.nextReply n).1).map fun _ => (),
        w.after (w.service.requested n) (requestEvents n (w.service.link.nextReply n).1)) := by
  unfold installHandler
  rw [installAsking_new h, call_held ((openBus?_asking n w).trans ho), exchange_apply]
  have hd : ((asking n w).service.link.nextReply n).1 = (w.service.link.nextReply n).1 :=
    Link.nextReply_addHandler ..
  have hr : ((w.service.link.addHandler n).nextReply n).1 = (w.service.link.nextReply n).1 :=
    Link.nextReply_addHandler ..
  unfold requested requestEvents consentOf
  simp only [hd, hr]
  generalize (w.service.link.nextReply n).1 = d
  cases ha : d.isAccepted with
  | true =>
    obtain ⟨body, hb⟩ := verdict_of_isAccepted addMatchContext ha
    rw [hb]
    simp only [asking, settled, World.after_after]
    rfl
  | false =>
    obtain ⟨e, hb, hk⟩ := verdict_of_not_isAccepted addMatchContext ha
    rw [hb]
    unfold Halt.consent
    dsimp only
    rw [hk]
    cases d.isInterrupted with
    | true =>
      simp only [asking, settled, World.after_after]
      rfl
    | false =>
      simp only [asking, settled, World.after_after]
      rfl

/-! ## Connections that are down at once -/

/-- With nobody subscribed a new connection is taken as it is. -/
theorem takeUp_idle (h : w.service.subscriptions = []) : takeUp ask n w = (.ok n, w) := by
  unfold takeUp
  rw [bind_ok (current_apply w), h]
  rfl

/-- With anyone subscribed the handler is put on a new connection before it is used. -/
theorem takeUp_busy (h : w.service.subscriptions ≠ []) :
    takeUp ask n w =
      match installAsking ask n w with
      | (.ok _, v) => (.ok (v.service.bus.getD n), v)
      | (.error e, v) => (.error e, v) := by
  unfold takeUp
  rw [bind_ok (current_apply w), if_neg (fun he => h (List.isEmpty_iff.mp he))]
  show (installAsking ask n >>= fun _ => _) w = _
  rw [bind_apply]
  rcases installAsking ask n w with ⟨r, v⟩
  cases r <;> rfl

theorem takeUp_congr {ask' : Task (List Value)} (h : ask (asking n w) = ask' (asking n w)) :
    takeUp ask n w = takeUp ask' n w := by
  by_cases hs : w.service.subscriptions = []
  · rw [takeUp_idle hs, takeUp_idle hs]
  · rw [takeUp_busy hs, takeUp_busy hs, installAsking_congr h]

/-- Two ways to obtain a connection to ask on that come to the same, on the connection that is held
once the client has reconnected, are the same to whoever reconnects. -/
theorem reconnect_congr {obtain obtain' : Task Nat} {m : Message} {context : String}
    (hheld : ∀ n v, v.service.openBus? = some n → obtain v = obtain' v)
    (hlapsed : ∀ v : World Client,
      v.service.link.connects.length + 1 = w.service.link.connects.length →
        obtain v = obtain' v) :
    (reconnect >>= takeUp (do exchange (← obtain) m context)) w =
      (reconnect >>= takeUp (do exchange (← obtain') m context)) w := by
  have hask {n : Nat} {v : World Client} (h : obtain (asking n v) = obtain' (asking n v)) :
      takeUp (do exchange (← obtain) m context) n v =
        takeUp (do exchange (← obtain') m context) n v := by
    refine takeUp_congr ?_
    rw [bind_apply, bind_apply, h]
  have hr := reconnected w
  rw [bind_apply, bind_apply]
  generalize reconnect w = x at hr
  cases hr with
  | opens number =>
    subst number
    exact hask (hheld _ _ ((openBus?_asking _ _).trans (openBus?_connected _)))
  | lapses number outcome =>
    subst number
    refine hask (hlapsed _ ?_)
    rw [connects_asking, ← Link.length_connects_nextConnect outcome]
    rfl
  | strays => rfl
  | hangs => rfl
  | cancelled => rfl
  | unreachable => rfl

/-- Where no more connections than that can be down at once, a greater depth makes no difference. -/
theorem obtainWithin_succ {depth : Nat} (h : w.service.link.connects.length + 2 ≤ depth) :
    obtainWithin (depth + 1) w = obtainWithin depth w := by
  induction depth generalizing w with
  | zero => exact absurd h (by omega)
  | succ depth ih =>
    cases ho : w.service.openBus? with
    | some n => rw [obtainWithin_held _ ho, obtainWithin_held _ ho]
    | none =>
      rw [obtainWithin_down _ ho, obtainWithin_down _ ho]
      refine reconnect_congr (fun n v hv => ?_) fun v hv => ih (by omega)
      obtain ⟨k, rfl⟩ : ∃ k, depth = k + 1 := ⟨depth - 1, by omega⟩
      rw [obtainWithin_held _ hv, obtainWithin_held _ hv]

/-- The connection to use is the one held, or a new one, with the handler on it if anyone is
subscribed; and the request for notifications goes to the connection to use. -/
theorem obtainBus_eq : obtainBus = (do
    match (← current).openBus? with
    | some n => return n
    | none => takeUp (call .addMatch addMatchContext) (← reconnect)) := by
  funext w
  cases ho : w.service.openBus? with
  | some n =>
    rw [obtainBus_held ho, bind_ok (current_apply w), ho]
    rfl
  | none =>
    rw [bind_ok (current_apply w), ho]
    unfold obtainBus
    rw [bind_ok (current_apply w), obtainWithin_down _ ho]
    refine reconnect_congr (fun n v hv => ?_) fun v hv => ?_
    · rw [obtainWithin_held _ hv, obtainBus_held hv]
    · unfold obtainBus
      rw [bind_ok (current_apply v), ← hv]

end

/-! ## Taking the handler off -/

/-- The client once the handler is off a connection and not recorded anywhere. -/
def withdrawn (c : Client) (n : Nat) : Client :=
  { c.withLink (c.link.removeHandler n) with signalBus := none }

theorem uninstallHandler_none {w : World Client} (h : w.service.signalBus = none) :
    uninstallHandler w = (.ok (), w) := by
  unfold uninstallHandler
  rw [bind_ok (current_apply w), h]
  rfl

theorem uninstallHandler_down {n : Nat} {w : World Client} (h : w.service.signalBus = some n)
    (hn : w.service.link.isConnected n = false) :
    uninstallHandler w = (.ok (), w.after (w.service.withdrawn n) [.handlerRemoved n]) := by
  unfold uninstallHandler
  rw [bind_ok (current_apply w), h]
  dsimp only
  rw [bind_ok (change_apply _ _), bind_ok (World.observe_apply _ _), bind_ok (current_apply _),
    World.after_after, if_neg]
  · rfl
  · show ¬ (w.service.link.removeHandler n).isConnected n = true
    rw [Link.isConnected_removeHandler, hn]
    simp

/-- The handler goes first; then the request is taken back, and what the service says to that is
of no matter. -/
theorem uninstallHandler_held {n : Nat} {w : World Client} (h : w.service.signalBus = some n)
    (hn : w.service.openBus? = some n) :
    uninstallHandler w =
      (if (w.service.link.nextReply n).1.isInterrupted then
          (verdict removeMatchContext (w.service.link.nextReply n).1).map fun _ => ()
        else .ok (),
        w.after
          ((w.service.withdrawn n).withLink ((w.service.link.removeHandler n).nextReply n).2)
          [.handlerRemoved n, .sent n .removeMatch,
            .resolved n .removeMatch (w.service.link.nextReply n).1]) := by
  have hup : ∀ m, (w.service.link.removeHandler n).isConnected m = w.service.link.isConnected m :=
    Link.isConnected_removeHandler w.service.link n
  have hc : w.service.link.isConnected n = true := (Option.filter_eq_some_iff.mp hn).2
  unfold uninstallHandler
  rw [bind_ok (current_apply w), h]
  dsimp only
  rw [bind_ok (change_apply _ _), bind_ok (World.observe_apply _ _), bind_ok (current_apply _),
    World.after_after]
  show (if (w.service.link.removeHandler n).isConnected n = true then
      ignoring (Halt.isA .service) (discard (call .removeMatch removeMatchContext))
    else pure ()) (w.after (w.service.withdrawn n) [.handlerRemoved n]) = _
  rw [if_pos ((hup n).trans hc)]
  generalize hv : w.after (w.service.withdrawn n) [.handlerRemoved n] = v
  have ho : v.service.openBus? = some n := by
    rw [← hv]
    show Option.filter (w.service.link.removeHandler n).isConnected w.service.bus = some n
    rw [funext hup]
    exact hn
  have hd : (v.service.link.nextReply n).1 = (w.service.link.nextReply n).1 := by
    rw [← hv]
    exact Link.nextReply_removeHandler ..
  rw [ignoring_apply, discard_apply, call_held ho, exchange_apply, hd]
  subst hv
  rw [World.after_after]
  generalize (w.service.link.nextReply n).1 = d
  cases ha : d.isAccepted with
  | true =>
    obtain ⟨body, hb⟩ := verdict_of_isAccepted removeMatchContext ha
    rw [hb, isInterrupted_of_isAccepted ha]
    rfl
  | false =>
    obtain ⟨e, hb, hk⟩ := verdict_of_not_isAccepted removeMatchContext ha
    rw [hb]
    show (if e.isA .service = true then _ else _, _) = _
    rw [hk]
    cases d.isInterrupted <;> rfl

/-! ## Closing the connection held -/

/-- The connection held is closed and given up. -/
def letGo : Task Unit := do
  match (← current).bus with
  | none => return
  | some bus =>
    ignoring Halt.isOrdinary (disconnectBus bus)
    change fun c => { c with bus := none }

theorem closeTask_eq :
    closeTask =
      change (fun c => { c with subscriptions := [] }) >>= fun _ =>
        uninstallHandler >>= fun _ => letGo := rfl

/-- Whether closing a connection succeeds or fails in a way that is swallowed. -/
def partsCalmly (c : Client) : Bool := c.link.disconnectFailure.all (·.kind.isOrdinary)

/-- The client once the connection held was closed. -/
def parted (c : Client) (n : Nat) : Client :=
  { c.withLink (c.link.drop n) with bus := if c.partsCalmly then none else c.bus }

theorem disconnectBus_apply (n : Nat) (w : World Client) :
    disconnectBus n w =
      (match w.service.link.disconnectFailure with
        | some f => .error (.failed f)
        | none => .ok (),
        w.after (w.service.withLink (w.service.link.drop n)) [.disconnected n]) := by
  unfold disconnectBus
  rw [bind_ok (World.observe_apply _ _), bind_ok (changeLink_apply _ _), bind_ok (current_apply _),
    World.after_after]
  show (match (w.service.link.drop n).disconnectFailure with
    | some f => fail f
    | none => return : Task Unit)
      (w.after (w.service.withLink (w.service.link.drop n)) [.disconnected n]) = _
  rw [show (w.service.link.drop n).disconnectFailure = w.service.link.disconnectFailure from
    Link.disconnectFailure_change ..]
  cases w.service.link.disconnectFailure <;> rfl

theorem letGo_none {w : World Client} (h : w.service.bus = none) : letGo w = (.ok (), w) := by
  unfold letGo
  rw [bind_ok (current_apply w), h]
  rfl

/-- The connection held goes down, whatever closing it comes to. -/
theorem letGo_held {n : Nat} {w : World Client} (h : w.service.bus = some n) :
    (letGo w).2 = w.after (w.service.parted n) [.disconnected n] := by
  unfold letGo parted partsCalmly
  rw [bind_ok (current_apply w), h]
  dsimp only
  rw [bind_apply, ignoring_apply, disconnectBus_apply]
  cases w.service.link.disconnectFailure with
  | none =>
    simp only [change_apply, World.after_after]
    rfl
  | some f =>
    dsimp only [Halt.isOrdinary]
    rw [Option.all_some]
    by_cases hf : f.kind.isOrdinary = true
    · simp only [hf, if_true, change_apply, World.after_after]
      rfl
    · simp only [hf]
      rw [← h]
      rfl

end Client

end BluetoothControl
