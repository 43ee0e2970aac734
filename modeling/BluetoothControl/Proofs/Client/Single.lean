import BluetoothControl.Bus.Feedback
import BluetoothControl.Proofs.Client.Asking
import BluetoothControl.Proofs.Client.Connecting
import BluetoothControl.Proofs.Client.Contract

/-!
# One message for a request, and a faithful failure

A request opens one connection at most, and only while none is up; it sends the service one message
at most, and none if there is no connection or notifications are refused on it (`Single`).  Unless
the last that comes back is a method return it fails with a failure of the service, and the failure
tells the name of an error reply exactly if one came (`Faithful`).  `forthright_execute` says so of
every request, in whatever world it is made.
-/

namespace BluetoothControl

open Procedure

/-- From the client `b` to the client `c`, with `es` observed, the message `m` was sent to the
service once at most. -/
structure Single (m : Message) (b c : Client) (es : List Event) : Prop where
  opened : c.link.buses.length = b.link.buses.length + (openings es).length
  once : (openings es).length ≤ 1
  needed : b.openBus? ≠ none → openings es = []
  sent : requests es = [] ∨ requests es = [m]
  unreached : b.openBus? = none → openings es = [] → requests es = []
  ungranted : ∀ n d, .resolved n .addMatch d ∈ es → d.isAccepted = false → requests es = []

/-- A result is faithful to what came back: unless that ends in a method return it is an expected
failure, and it tells the name of an error reply exactly if one came. -/
structure Faithful {ε α : Type} (expected : ε → Prop) (reply : ε → Option String)
    (es : List Event) (r : Except ε α) : Prop where
  raises : endsAccepted es = false → ∃ e, r = .error e ∧ expected e
  tells : ∀ name, (∃ e, r = .error e ∧ reply e = some name) ↔
    ∃ q ∈ refusals es, q.errorName = name

/-- The name of the error reply behind a halt. -/
def Halt.reply : Halt → Option String
  | failed f => f.reply
  | unanswered => none

namespace Failure

/-- Only failures of the service tell the name of an error reply. -/
theorem isA_of_reply {f : Failure} {name : String} (h : f.reply = some name) :
    f.isA .service = true := by
  cases f with
  | refused context name detail => rfl
  | unknownDevice path => rfl
  | foreign kind text reply =>
    change (if kind.isA .service = true then reply else none) = some name at h
    split at h
    · assumption
    · cases h
  | _ => cases h

theorem reply_of_not_isA {f : Failure} (h : f.isA .service = false) : f.reply = none := by
  cases hr : f.reply with
  | none => rfl
  | some name =>
    rw [isA_of_reply hr] at h
    cases h

theorem reply_of_cancelled {f : Failure} (h : f.kind = .cancelled) : f.reply = none := by
  refine reply_of_not_isA ?_
  rw [isA, h]
  rfl

/-- Time that runs out is no failure of the service. -/
theorem reply_of_elapsed {f : Failure} (h : f.isA .elapsed = true) : f.reply = none := by
  refine reply_of_not_isA ?_
  unfold isA at h ⊢
  revert h
  cases f.kind <;> decide

end Failure

/-! ## Faithful results -/

section
variable {ε α β : Type} {expected : ε → Prop} {reply : ε → Option String} {es : List Event}

/-- Where no error reply came, a result without one behind it tells of none. -/
theorem faithful_of_unrefused {r : Except ε α} (hes : refusals es = [])
    (hr : ∀ e, r = .error e → reply e = none)
    (raises : endsAccepted es = false → ∃ e, r = .error e ∧ expected e) :
    Faithful expected reply es r where
  raises := raises
  tells name := by
    rw [hes]
    refine ⟨?_, ?_⟩
    · rintro ⟨e, he, hn⟩
      rw [hr e he] at hn
      cases hn
    · rintro ⟨q, hq, -⟩
      cases hq

theorem faithful_error {e : ε} (he : expected e) (hr : reply e = none) (hes : refusals es = []) :
    Faithful expected reply es (.error e : Except ε α) := by
  refine faithful_of_unrefused hes (fun e' he' => ?_) fun _ => ⟨e, rfl, he⟩
  cases he'
  exact hr

/-- After an answer nothing was refused, and the last that came back is a method return. -/
theorem Faithful.of_ok {a : α} (h : Faithful expected reply es (.ok a : Except ε α)) :
    endsAccepted es = true ∧ refusals es = [] := by
  refine ⟨?_, ?_⟩
  · cases ha : endsAccepted es with
    | true => rfl
    | false =>
      obtain ⟨e, he, -⟩ := h.raises ha
      cases he
  · refine List.eq_nil_iff_forall_not_mem.mpr fun q hq => ?_
    obtain ⟨e, he, -⟩ := (h.tells q.errorName).mpr ⟨q, hq, rfl⟩
    cases he

/-- What goes on from an answer and fails by itself has no reply behind it. -/
theorem Faithful.goes_on {ε' : Type} {expected' : ε' → Prop} {reply' : ε' → Option String} {a : α}
    {r : Except ε' β} (h : Faithful expected reply es (.ok a : Except ε α))
    (hr : ∀ e, r = .error e → reply' e = none) : Faithful expected' reply' es r := by
  obtain ⟨ha, hes⟩ := h.of_ok
  refine faithful_of_unrefused hes hr fun hn => ?_
  rw [ha] at hn
  cases hn

/-- A failure that is raised again in other words tells the same reply. -/
theorem Faithful.reword {ε' : Type} {expected' : ε' → Prop} {reply' : ε' → Option String} {e : ε}
    {e' : ε'} (h : Faithful expected reply es (.error e : Except ε α))
    (he : expected e → expected' e') (hr : reply' e' = reply e) :
    Faithful expected' reply' es (.error e' : Except ε' β) where
  raises ha := by
    obtain ⟨x, hx, hex⟩ := h.raises ha
    cases hx
    exact ⟨e', rfl, he hex⟩
  tells name := by
    rw [← h.tells name]
    refine ⟨?_, ?_⟩
    · rintro ⟨x, hx, hn⟩
      cases hx
      exact ⟨e, rfl, hr ▸ hn⟩
    · rintro ⟨x, hx, hn⟩
      cases hx
      exact ⟨e', rfl, hr.trans hn⟩

end

variable {α β : Type} {m : Message}

/-! ## Single messages -/

section
variable {b c : Client} {es : List Event}

/-- What is done short of a message to the service leaves that single. -/
theorem single_of_unaddressed (hes : Unaddressed es)
    (opened : c.link.buses.length = b.link.buses.length + (openings es).length)
    (once : (openings es).length ≤ 1) (needed : b.openBus? ≠ none → openings es = []) :
    Single m b c es where
  opened := opened
  once := once
  needed := needed
  sent := Or.inl hes.requests
  unreached _ _ := hes.requests
  ungranted _ _ _ _ := hes.requests

theorem Single.called (h : Single m b c es) (bound : Option Seconds) :
    Single m b c (.called bound :: es) where
  opened := h.opened
  once := h.once
  needed := h.needed
  sent := h.sent
  unreached := h.unreached
  ungranted n d hd := h.ungranted n d ((List.mem_cons.mp hd).resolve_left fun he => nomatch he)

/-- The connections are all that matters of the clients. -/
theorem Single.congr {b' c' : Client} (h : Single m b c es)
    (hb : b'.link.buses.length = b.link.buses.length) (ho : b'.openBus? = b.openBus?)
    (hc : c'.link.buses.length = c.link.buses.length) : Single m b' c' es where
  opened := by rw [hc, hb, h.opened]
  once := h.once
  needed := by
    rw [ho]
    exact h.needed
  sent := h.sent
  unreached := by
    rw [ho]
    exact h.unreached
  ungranted := h.ungranted

/-- From the client `b` to the client `c`, with `es` observed, all is done that a message to the
service takes: there is a connection, notifications were granted if they were asked for, and nothing
was sent to the service. -/
structure Prepared (m : Message) (b c : Client) (es : List Event) : Prop where
  single : Single m b c es
  unaddressed : Unaddressed es
  reached : b.openBus? = none → openings es ≠ []
  granted : ∀ n d, .resolved n .addMatch d ∈ es → d.isAccepted = true
  unrefused : refusals es = []

/-- The message to the service goes out. -/
theorem Prepared.exchange (h : Prepared m b c es) (hm : m.destination = serviceName) (n : Nat)
    (d : Delivery) :
    Single m b (c.withLink (c.link.nextReply n).2) (es ++ [.sent n m, .resolved n m d]) := by
  have ho : openings (es ++ [.sent n m, .resolved n m d]) = openings es := by
    rw [openings_append]
    exact List.append_nil _
  refine ⟨?_, ?_, ?_, Or.inr ?_, fun hb he => ?_, fun k d' hd ha => ?_⟩
  · rw [ho, ← h.single.opened]
    exact Link.length_nextReply ..
  · rw [ho]
    exact h.single.once
  · rw [ho]
    exact h.single.needed
  · rw [requests_append, h.unaddressed.requests, requests_exchange hm]
    rfl
  · rw [ho] at he
    exact absurd he (h.reached hb)
  · rcases List.mem_append.mp hd with hd | hd
    · rw [h.granted k d' hd] at ha
      cases ha
    · -- the message to the service is no request for notifications
      have hx : Event.resolved k .addMatch d' = .resolved n m d := by simpa using hd
      cases hx
      exact absurd hm (by decide)

end

/-! ## Forthright procedures -/

/-- A procedure goes on by itself: it changes nothing, and if it fails there is no reply behind
that. -/
def Mute {ε σ : Type} (reply : ε → Option String) (p : Procedure ε σ α) : Prop :=
  ∀ v, (p v).2 = v ∧ ∀ e, (p v).1 = .error e → reply e = none

theorem mute_pure {ε σ : Type} {reply : ε → Option String} (a : α) :
    Mute reply (pure a : Procedure ε σ α) := by
  refine fun v => ⟨rfl, fun e he => ?_⟩
  cases he

theorem mute_throw {ε σ : Type} {reply : ε → Option String} {e : ε} (h : reply e = none) :
    Mute reply (throw e : Procedure ε σ α) := by
  refine fun v => ⟨rfl, fun e' he => ?_⟩
  cases he
  exact h

/-- From the world `w` a procedure sent the message `m` once at most, and what it came to is
faithful to what came back, if error replies have lists as bodies. -/
def Forthright {ε : Type} (expected : ε → Prop) (reply : ε → Option String) (m : Message)
    (w : World Client) (x : Except ε α × World Client) : Prop :=
  ∃ c es, x.2 = w.after c es ∧ Single m w.service c es ∧
    (Listed es → Faithful expected reply es x.1)

section
variable {ε : Type} {expected : ε → Prop} {reply : ε → Option String} {w : World Client}

/-- What fails without a message. -/
theorem forthright_error {e : ε} {c : Client} {es : List Event} (he : expected e)
    (hr : reply e = none) (hl : c.link.buses.length = w.service.link.buses.length)
    (hs : deliveries es = []) (ho : openings es = []) (hu : Unaddressed es) :
    Forthright expected reply m w ((.error e, w.after c es) : Except ε α × World Client) := by
  refine ⟨c, es, rfl, single_of_unaddressed hu ?_ ?_ fun _ => ho, fun _ => ?_⟩
  · rw [ho]
    exact hl
  · rw [ho]
    exact Nat.zero_le 1
  · refine faithful_error he hr ?_
    rw [refusals, hs]
    rfl

theorem forthright_fail {e : ε} (he : expected e) (hr : reply e = none) :
    Forthright expected reply m w ((.error e, w) : Except ε α × World Client) := by
  have h : Forthright expected reply m w
      ((.error e, w.after w.service []) : Except ε α × World Client) :=
    forthright_error he hr rfl rfl rfl unaddressed_nil
  rw [World.after_nil] at h
  exact h

/-- What goes on from an answer by itself. -/
theorem Forthright.bind {p : Procedure ε (World Client) α} {f : α → Procedure ε (World Client) β}
    (h : Forthright expected reply m w (p w)) (hf : ∀ a, Mute reply (f a)) :
    Forthright expected reply m w ((p >>= f) w) := by
  obtain ⟨c, es, hv, hs, hr⟩ := h
  rw [bind_apply]
  rcases hp : p w with ⟨r, v⟩
  rw [hp] at hv hr
  cases r with
  | ok a => exact ⟨c, es, (hf a v).1.trans hv, hs, fun hl => (hr hl).goes_on (hf a v).2⟩
  | error e => exact ⟨c, es, hv, hs, fun hl => (hr hl).reword id rfl⟩

theorem Forthright.map {p : Procedure ε (World Client) α} (f : α → β)
    (h : Forthright expected reply m w (p w)) : Forthright expected reply m w ((f <$> p) w) := by
  rw [← bind_pure_comp]
  exact h.bind fun a => mute_pure (f a)

/-- A handler that puts a failure in other words. -/
theorem Forthright.rethrow {p : Procedure ε (World Client) α}
    {handler : ε → Procedure ε (World Client) α} (h : Forthright expected reply m w (p w))
    (hh : ∀ e v, ∃ e', handler e v = (.error e', v) ∧ (expected e → expected e') ∧
      reply e' = reply e) :
    Forthright expected reply m w (tryCatch p handler w) := by
  obtain ⟨c, es, hv, hs, hr⟩ := h
  rcases hp : p w with ⟨r, v⟩
  rw [hp] at hv hr
  cases r with
  | ok a =>
    rw [tryCatch_ok hp]
    exact ⟨c, es, hv, hs, hr⟩
  | error e =>
    obtain ⟨e', he, hx, hn⟩ := hh e v
    rw [tryCatch_error hp, he]
    exact ⟨c, es, hv, hs, fun hl => (hr hl).reword hx hn⟩

end

/-! ## Verdicts -/

theorem Untimely.refusals {es : List Event} (h : Untimely es) : refusals es = [] := by
  refine List.filterMap_eq_nil_iff.mpr fun d hd => ?_
  obtain ⟨e, he, hd⟩ := List.mem_filterMap.mp hd
  have ht := h e he
  cases e with
  | resolved n m d' =>
    cases hd
    cases d with
    | answered r => cases ht
    | _ => rfl
  | _ => cases hd

namespace Client

/-- The verdict on a message is faithful to its fate, if that comes last and nothing was refused
before. -/
theorem faithful_verdict {es : List Event} {d : Delivery} (context : String)
    (ha : endsAccepted es = d.isAccepted) (hr : refusals es = d.refusal?.toList)
    (hl : Listed es) : Faithful Halt.Expected Halt.reply es (verdict context d) := by
  cases d with
  | unanswered => exact faithful_error trivial rfl hr
  | belated r => exact faithful_error trivial rfl hr
  | fails f =>
    refine faithful_error ?_ ?_ hr
    · by_cases hf : f.kind = .cancelled
      · simp [Halt.Expected, Kind.isOrdinary, hf]
      · simp [Halt.Expected, Kind.isOrdinary, hf]
        exact Or.inr rfl
    · by_cases hf : f.kind = .cancelled
      · simp [Halt.reply, Kind.isOrdinary, hf, Failure.reply_of_cancelled hf]
      · simp [Halt.reply, Kind.isOrdinary, hf]
        rfl
  | answered r =>
    cases r with
    | missing => exact faithful_error (Or.inr rfl) rfl hr
    | returned body =>
      refine faithful_of_unrefused hr (fun e he => ?_) fun hn => ?_
      · cases he
      · rw [ha] at hn
        cases hn
    | refused q =>
      have hq : q.isListed = true := hl q (by rw [hr]; exact List.mem_singleton_self q)
      obtain ⟨text, ht⟩ := ErrorReply.detail_of_isListed hq
      have hv : verdict context (.answered (.refused q)) =
          .error (.failed (.refused context q.errorName text)) := by
        show Except.error (Halt.failed (q.failure context)) = _
        rw [ErrorReply.failure, ht]
      rw [hv]
      refine ⟨fun _ => ⟨_, rfl, Or.inr rfl⟩, fun name => ?_⟩
      rw [hr]
      refine ⟨?_, ?_⟩
      · rintro ⟨e, he, hn⟩
        cases he
        exact ⟨q, List.mem_singleton_self q, Option.some.inj hn⟩
      · rintro ⟨q', hq', hn⟩
        cases List.mem_singleton.mp hq'
        exact ⟨_, rfl, congrArg some hn⟩

/-! ## Calls -/

theorem openings_requestEvents (n : Nat) (d : Delivery) :
    openings (.connected n :: requestEvents n d) = [n] := by
  unfold requestEvents
  split <;> rfl

theorem deliveries_requestEvents (n : Nat) (d : Delivery) :
    deliveries (.connected n :: requestEvents n d) = [d] := by
  unfold requestEvents
  split <;> rfl

theorem unaddressed_requestEvents (n : Nat) (d : Delivery) :
    Unaddressed (.connected n :: requestEvents n d) := by
  have hm : (Message.addMatch.destination == serviceName) = false := by decide
  unfold requestEvents
  split
  · simp [Unaddressed, Event.isAddressed, hm]
  · simp [Unaddressed, Event.isAddressed, hm]

theorem single_requested {w : World Client} (down : w.service.openBus? = none) (n : Nat)
    (d : Delivery) :
    Single m w.service (w.service.connected.requested n) (.connected n :: requestEvents n d) := by
  refine single_of_unaddressed (unaddressed_requestEvents n d) ?_ ?_ fun hn => absurd down hn
  · rw [openings_requestEvents, length_requested]
    exact length_connected _
  · rw [openings_requestEvents]
    exact Nat.le_refl 1

theorem refusals_requestEvents (n : Nat) (d : Delivery) :
    refusals (.connected n :: requestEvents n d) = d.refusal?.toList := by
  rw [refusals, deliveries_requestEvents, List.filterMap_cons]
  cases d.refusal? <;> rfl

namespace Obtained

variable {w : World Client} {x : Except Halt Nat × World Client}

/-- With a connection to use all is prepared for the message. -/
theorem prepared (h : Obtained w x) {n : Nat} (hx : x.1 = .ok n) :
    ∃ c es, x.2 = w.after c es ∧ Prepared m w.service c es := by
  cases h with
  | held up =>
    refine ⟨w.service, [], (World.after_nil w).symm, ?_, unaddressed_nil, fun hn => ?_,
      fun _ _ hd => (nomatch hd), rfl⟩
    · exact single_of_unaddressed unaddressed_nil rfl (Nat.zero_le 1) fun _ => rfl
    · rw [up] at hn
      cases hn
  | @opened n down =>
    have hes : Unaddressed [.connected n] := unaddressed_singleton rfl
    refine ⟨_, _, rfl, ?_, hes, fun _ => List.cons_ne_nil _ _, fun _ _ hd => ?_, rfl⟩
    · exact single_of_unaddressed hes (length_connected _) (Nat.le_refl 1) fun hn => absurd down hn
    · cases List.mem_singleton.mp hd
  | @lapsed n down =>
    have hes : Unaddressed [.connected n, .lapsed n] := by simp [Unaddressed, Event.isAddressed]
    refine ⟨_, _, rfl, ?_, hes, fun _ => List.cons_ne_nil _ _, fun _ _ hd => ?_, rfl⟩
    · exact single_of_unaddressed hes (length_lapsed _) (Nat.le_refl 1) fun hn => absurd down hn
    · simp at hd
  | @asked n down =>
    generalize (w.service.connected.link.nextReply n).1 = d at hx
    have ha : d.isAccepted = true := by
      cases ha : d.isAccepted with
      | true => rfl
      | false =>
        obtain ⟨e, hb, -⟩ := verdict_of_not_isAccepted addMatchContext ha
        rw [hb] at hx
        cases hx
    refine ⟨_, _, rfl, single_requested down n d, unaddressed_requestEvents n d, fun _ => ?_,
      fun k d' hk => ?_, ?_⟩
    · rw [openings_requestEvents]
      exact List.cons_ne_nil _ _
    · have hd' := mem_deliveries hk
      rw [deliveries_requestEvents, List.mem_singleton] at hd'
      rw [hd']
      exact ha
    · rw [refusals_requestEvents, refusal?_of_isAccepted ha]
      rfl
  | _ => cases hx

/-- Without a connection to use the message is not sent. -/
theorem forthright (h : Obtained w x) {e : Halt} (hx : x.1 = .error e) :
    Forthright Halt.Expected Halt.reply m w ((.error e, x.2) : Except Halt α × World Client) := by
  have hl : w.service.link.nextConnect.2.buses.length = w.service.link.buses.length :=
    congrArg List.length (Link.buses_nextConnect w.service.link)
  cases h with
  | hangs down =>
    cases hx
    exact forthright_error trivial rfl hl rfl rfl unaddressed_nil
  | @strays n down =>
    cases hx
    have hes : Unaddressed [.strayed n] := unaddressed_singleton rfl
    refine ⟨_, _, rfl, ?_, fun _ => faithful_error trivial rfl rfl⟩
    exact single_of_unaddressed hes (length_strayed _) (Nat.le_refl 1) fun hn => absurd down hn
  | cancelled down kind =>
    cases hx
    exact forthright_error (Or.inl kind) (Failure.reply_of_cancelled kind) hl rfl rfl
      (unaddressed_singleton rfl)
  | unreachable cause down =>
    cases hx
    exact forthright_error (Or.inr rfl) rfl hl rfl rfl (unaddressed_singleton rfl)
  | @asked n down =>
    generalize (w.service.connected.link.nextReply n).1 = d at hx
    refine ⟨_, _, rfl, single_requested down n d, fun hl => ?_⟩
    have hends : endsAccepted (.connected n :: requestEvents n d) = d.isAccepted := by
      rw [endsAccepted, deliveries_requestEvents]
      rfl
    have hv := faithful_verdict addMatchContext hends (refusals_requestEvents n d) hl
    cases hr : verdict addMatchContext d with
    | ok body =>
      rw [hr] at hx
      cases hx
    | error e' =>
      rw [hr] at hx hv
      cases hx
      exact hv.reword id rfl
  | _ => cases hx

end Obtained

/-- The message goes out on the connection obtained, and its fate decides. -/
theorem forthright_exchange {w : World Client} {c : Client} {es : List Event}
    (h : Prepared m w.service c es) (hm : m.destination = serviceName) (n : Nat)
    (context : String) :
    Forthright Halt.Expected Halt.reply m w (exchange n m context (w.after c es)) := by
  rw [exchange_apply, World.after_after]
  refine ⟨_, _, rfl, h.exchange hm n _, fun hl => ?_⟩
  refine faithful_verdict context (endsAccepted_exchange ..) ?_ hl
  rw [refusals_append, h.unrefused, refusals_exchange]
  rfl

/-- A call sends its message once at most. -/
theorem forthright_call (hm : m.destination = serviceName) (context : String) {w : World Client}
    (hw : Steady w.service) : Forthright Halt.Expected Halt.reply m w (call m context w) := by
  have ho := obtained hw
  unfold call
  rcases hx : obtainBus w with ⟨r, v⟩
  rw [hx] at ho
  cases r with
  | error e =>
    rw [bind_error hx]
    exact ho.forthright rfl
  | ok n =>
    rw [bind_ok hx]
    obtain ⟨c, es, hv, hprepared⟩ := ho.prepared rfl
    rw [show v = w.after c es from hv]
    exact forthright_exchange hprepared hm n context

section
variable {w : World Client} {path interface member signature : String} {args : List Value}

theorem forthright_callMethod (hw : Steady w.service) (hp : ObjectPath.isValid path = true) :
    Forthright Halt.Expected Halt.reply ⟨serviceName, path, interface, member, signature, args⟩ w
      (callMethod path interface member signature args w) := by
  unfold callMethod Message.call
  rw [if_pos hp]
  exact forthright_call rfl _ hw

/-! ## Tasks -/

theorem forthright_getFlag {name : String} (hw : Steady w.service)
    (hp : ObjectPath.isValid path = true) :
    Forthright Halt.Expected Halt.reply (.read path interface name) w
      (getFlag path interface name w) := by
  refine Forthright.map Value.truth ((forthright_callMethod hw hp).bind fun body => ?_)
  cases body with
  | nil => exact mute_throw rfl
  | cons x rest => exact mute_pure _

theorem forthright_getAll (hw : Steady w.service) (hp : ObjectPath.isValid path = true) :
    Forthright Halt.Expected Halt.reply
      ⟨serviceName, path, propertiesInterface, "GetAll", "s", [.text interface]⟩ w
      (getAll path interface w) := by
  refine (forthright_callMethod hw hp).bind fun body => ?_
  cases body with
  | nil => exact mute_throw rfl
  | cons x rest =>
    cases x with
    | dict entries => exact mute_pure _
    | _ => exact mute_throw rfl

theorem forthright_listObjectsTask (hw : Steady w.service) :
    Forthright Halt.Expected Halt.reply objectsMessage w (listObjectsTask interface w) := by
  refine (forthright_callMethod hw (by decide)).bind fun body => ?_
  cases body with
  | nil => exact mute_throw rfl
  | cons x rest =>
    cases x with
    | dict objects =>
      intro v
      have hx := match_withInterface interface objects v
      refine ⟨congrArg Prod.snd hx, fun e he => ?_⟩
      have hr := (congrArg Prod.fst hx).symm.trans he
      split at hr
      · cases hr
      · cases hr
        rfl
    | _ => exact mute_throw rfl

/-- A bound of its own only changes how time running out is told. -/
theorem forthright_connectTask {timeout outer : Seconds} (hw : Steady w.service)
    (hp : ObjectPath.isValid path = true) (ht : timeout.isTellable = true) :
    Forthright Halt.Expected Halt.reply (.toDevice path "Connect") w
      (connectTask path timeout outer w) := by
  unfold connectTask
  dsimp only
  rw [Failure.telling_of_isTellable ht]
  split
  · exact forthright_fail (Or.inr rfl) rfl
  · refine ((forthright_callMethod hw hp).map _).rethrow fun halt v => ?_
    cases halt with
    | unanswered =>
      dsimp only
      split
      · exact ⟨_, rfl, id, rfl⟩
      · exact ⟨_, rfl, fun _ => Or.inr rfl, rfl⟩
    | failed f =>
      dsimp only
      split
      · next hf => exact ⟨_, rfl, fun _ => Or.inr rfl, (Failure.reply_of_elapsed hf).symm⟩
      · exact ⟨_, rfl, id, rfl⟩

end

/-! ## Calls from other threads -/

/-- A failure of the service. -/
abbrev OfService (f : Failure) : Prop := f.isA .service = true

theorem reply_telling {bound : Seconds} {f : Failure} (h : f.reply = none) :
    (Failure.telling bound f).reply = none := by
  unfold Failure.telling
  split
  · rfl
  · split
    · rfl
    · exact h

/-- What is told in place of a failure has no reply behind it. -/
theorem reply_settleFailure {f : Failure} (h : f.reply = none) (loop : String) (bound : Seconds) :
    (EventLoop.settleFailure loop (some bound) f).reply = none := by
  unfold EventLoop.settleFailure
  split
  · exact reply_telling rfl
  · split
    · rfl
    · split
      · rfl
      · exact h

theorem reply_filed {f : Failure} (h : f.isA .service = false) : f.filed.reply = none := by
  unfold Failure.filed
  split
  · rfl
  · rfl
  · split
    · rfl
    · exact Failure.reply_of_not_isA h

/-- The caller is told of the same error reply. -/
theorem reply_reported {loop : String} {bound : Seconds} (hb : bound.isWaitable = true)
    (e : Halt) : (reported loop bound e).reply = e.reply := by
  cases e with
  | unanswered =>
    rw [reported, EventLoop.untold_of_isWaitable hb]
    rfl
  | failed f =>
    rw [reported]
    cases hf : f.isA .service with
    | true =>
      rw [EventLoop.settleFailure_filed]
      · rfl
      · unfold Failure.isA at hf
        revert hf
        cases f.kind <;> decide
    | false =>
      rw [reply_settleFailure (reply_filed hf)]
      exact (Failure.reply_of_not_isA hf).symm

/-- Whoever has no time to wait opens no connection. -/
theorem steady_pace (c : Client) : Steady (c.withLink (c.link.pace true)) := by
  intro _ _ h
  change (c.link.pace true).nextConnect.1 = .opensDown at h
  unfold Link.nextConnect at h
  split at h
  · cases h
  · next o rest _ =>
    change o.hurried = .opensDown at h
    cases o <;> cases h

/-- Whether or not there is time to wait for a task, what its caller is told is faithful. -/
theorem forthright_paced {w : World Client} {bound : Seconds} {task : Task α}
    (hb : bound.isWaitable = true) (hw : Steady w.service)
    (ht : ∀ v, Steady v.service → Forthright Halt.Expected Halt.reply m v (task v))
    (hh : ∀ u, Keeps (Hurries u) task) (loop : String) :
    Forthright OfService Failure.reply m w
      (EventLoop.answer loop (some bound) false (ended? (paced bound task w).1),
        (paced bound task w).2) := by
  rcases patience_of_isWaitable hb with hp | hp
  · rw [paced_waits hp, answer_task, hp, if_pos (show Patience.waits.lasts = true from rfl)]
    obtain ⟨c, es, hv, hs, hr⟩ := ht w hw
    refine ⟨c, es, hv, hs, fun hl => ?_⟩
    have hf := hr hl
    cases htask : (task w).1 with
    | ok a =>
      rw [htask] at hf
      exact hf.goes_on fun e he => by cases he
    | error e =>
      rw [htask] at hf
      exact hf.reword (isA_reported hb) (reply_reported hb e)
  · obtain ⟨fs, hlog, hfs⟩ := untimely_hastily hh w
    obtain ⟨c, es, hv, hs, -⟩ :=
      ht (w.after (w.service.withLink (w.service.link.pace true)) []) (steady_pace _)
    rw [paced_looks hp, answer_task, hp, if_neg (show ¬ Patience.looks.lasts = true from nofun)]
    have hend : (hastily task w).2 = w.after (c.withLink (c.link.pace false)) es := by
      rw [hastily_apply]
      dsimp only
      rw [hv, World.after_after, World.after_after, List.nil_append, List.append_nil]
      rfl
    have hes : fs = es := by
      rw [hend] at hlog
      exact (List.append_cancel_left hlog).symm
    subst hes
    refine ⟨_, _, hend, hs.congr rfl rfl rfl, fun _ => ?_⟩
    exact faithful_error (isA_reported (e := .unanswered) hb trivial)
      (reply_reported hb .unanswered) hfs.refusals

theorem forthright_runTask {w : World Client} {bound : Seconds} {task : Task α}
    (hb : bound.isWaitable = true) (hw : Steady w.service)
    (ht : ∀ v, Steady v.service → Forthright Halt.Expected Halt.reply m v (task v))
    (hh : ∀ u, Keeps (Hurries u) task) :
    Forthright OfService Failure.reply m w (runTask bound task w) := by
  have hcalled : Unaddressed [.called (some bound)] := unaddressed_singleton rfl
  rw [runTask_eq]
  cases w.loop.current with
  | none => exact forthright_error rfl rfl rfl rfl rfl hcalled
  | some thread =>
    dsimp only
    split
    · exact forthright_error (isA_reported (e := .unanswered) hb trivial)
        (reply_reported hb .unanswered) rfl rfl rfl hcalled
    · obtain ⟨c, es, hv, hs, hr⟩ := forthright_paced hb
        (w := w.after w.service [.called (some bound)]) hw ht hh w.loop.name
      refine ⟨c, .called (some bound) :: es, ?_, hs.called _, fun hl => ?_⟩
      · exact hv.trans (World.after_after ..)
      · exact ⟨(hr hl).raises, (hr hl).tells⟩

theorem forthright_perform {w : World Client} {task : Task α}
    (hb : w.service.callTimeout.isWaitable = true) (hw : Steady w.service)
    (ht : ∀ v, Steady v.service → Forthright Halt.Expected Halt.reply m v (task v))
    (hh : ∀ u, Keeps (Hurries u) task) :
    Forthright OfService Failure.reply m w (perform task w) := forthright_runTask hb hw ht hh

/-! ## Requests -/

section
variable {w : World Client} {path : String} (hb : w.service.callTimeout.isWaitable = true)
  (hw : Steady w.service)

include hb hw

theorem forthright_request {interface member signature : String} {args : List Value}
    (hp : ObjectPath.isValid path = true) :
    Forthright OfService Failure.reply ⟨serviceName, path, interface, member, signature, args⟩ w
      (perform (discard (callMethod path interface member signature args)) w) :=
  forthright_perform hb hw (fun _ hv => (forthright_callMethod hv hp).map _) fun _ =>
    keeps_discard (keeps_callMethod heeds_hurries)

theorem forthright_flag {interface name : String} (hp : ObjectPath.isValid path = true) :
    Forthright OfService Failure.reply (.read path interface name) w
      (perform (getFlag path interface name) w) :=
  forthright_perform hb hw (fun _ hv => forthright_getFlag hv hp) fun _ =>
    keeps_getFlag heeds_hurries

theorem forthright_deviceProperties (hp : ObjectPath.isValid path = true) :
    Forthright OfService Failure.reply (propertiesMessage path) w (deviceProperties path w) :=
  forthright_perform hb hw (fun _ hv => forthright_getAll hv hp) fun _ =>
    keeps_getAll heeds_hurries

/-- What is read off the properties of a device. -/
theorem forthright_reading {read : Props → Action Client α}
    (hp : ObjectPath.isValid path = true) (hr : ∀ props, Mute Failure.reply (read props)) :
    Forthright OfService Failure.reply (propertiesMessage path) w
      ((deviceProperties path >>= read) w) :=
  (forthright_deviceProperties hb hw hp).bind hr

theorem forthright_getAddress (hp : ObjectPath.isValid path = true) :
    Forthright OfService Failure.reply (propertiesMessage path) w (getAddress path w) := by
  refine forthright_reading hb hw hp fun props => ?_
  split
  · exact mute_pure _
  · exact mute_throw rfl

theorem forthright_connect {timeout : Seconds} (hp : ObjectPath.isValid path = true)
    (ht : timeout.isTellable = true)
    (hs : (timeout.add w.service.callTimeout).isWaitable = true) :
    Forthright OfService Failure.reply (.toDevice path "Connect") w (connect path timeout w) := by
  unfold connect
  rw [bind_ok (current_apply w), boundWith_ok (Seconds.isTellable_of_isWaitable hb) ht,
    bind_ok (ofExcept_apply _ w)]
  exact forthright_runTask (Seconds.isWaitable_orElse hs hb) hw
    (fun _ hv => forthright_connectTask hv hp ht) fun _ => keeps_connectTask heeds_hurries _ _

end

/-- The message that an operation sends to the service, if it is a request. -/
def Command.message? : Command → Option Message
  | .getPowered path => some (.read path adapterInterface "Powered")
  | .setPowered path (.bool powered) => some (.setPowered path powered)
  | .getDiscovering path => some (.read path adapterInterface "Discovering")
  | .setDiscoveryFilter path (.dict filters) => some (.setFilter path filters)
  | .startDiscovery path => some (.toAdapter path "StartDiscovery")
  | .stopDiscovery path => some (.toAdapter path "StopDiscovery")
  | .listObjects _ => some objectsMessage
  | .deviceProperties path | .getAddress path | .getName path | .getRssi path
  | .getConnected path => some (propertiesMessage path)
  | .connect path _ => some (.toDevice path "Connect")
  | .disconnect path => some (.toDevice path "Disconnect")
  | _ => none

/-- In whatever world a request with proper arguments is made, unless a connection is opened for
subscribers and is down at once: it opens one connection at most, and only while none is up; its
message is sent once at most, and not at all if there is no connection or notifications are refused
on it; unless what comes back ends in a method return it fails with a failure of the service, and
its failure tells the name of an error reply exactly if one came. -/
theorem forthright_execute (w : World Client) (command : Command) (m : Message)
    (hb : w.service.callTimeout.isWaitable = true) (hw : Steady w.service)
    (hc : command.isProper w.service.callTimeout = true) (hm : command.message? = some m) :
    Forthright (fun f => f.isA .service = true) Failure.reply m w (execute command w) := by
  cases command with
  | getPowered path =>
    cases hm
    exact (forthright_flag hb hw hc).map _
  | setPowered path powered =>
    cases powered with
    | bool b =>
      cases hm
      exact (forthright_request hb hw hc).map _
    | _ => cases hc
  | getDiscovering path =>
    cases hm
    exact (forthright_flag hb hw hc).map _
  | setDiscoveryFilter path filters =>
    cases filters with
    | dict fs =>
      cases hm
      exact (forthright_request hb hw hc).map _
    | _ => cases hc
  | startDiscovery path =>
    cases hm
    exact (forthright_request hb hw hc).map _
  | stopDiscovery path =>
    cases hm
    exact (forthright_request hb hw hc).map _
  | listObjects interface =>
    cases hm
    exact (forthright_perform hb hw (fun _ hv => forthright_listObjectsTask hv) fun _ =>
      keeps_listObjectsTask heeds_hurries).map _
  | deviceProperties path =>
    cases hm
    exact (forthright_deviceProperties hb hw hc).map _
  | getAddress path =>
    cases hm
    exact (forthright_getAddress hb hw hc).map _
  | getName path =>
    cases hm
    exact (forthright_reading hb hw hc fun _ => mute_pure _).map _
  | getRssi path =>
    cases hm
    exact (forthright_reading hb hw hc fun _ => mute_pure _).map _
  | getConnected path =>
    cases hm
    exact (forthright_reading hb hw hc fun _ => mute_pure _).map _
  | connect path timeout =>
    cases hm
    simp only [Command.isProper, Bool.and_eq_true] at hc
    exact (forthright_connect hb hw hc.1.1 hc.1.2 hc.2).map _
  | disconnect path =>
    cases hm
    exact (forthright_request hb hw hc).map _
  | subscribe s => cases hm
  | unsubscribe handle => cases hm
  | close => cases hm

/-- Somebody is subscribed, the connection went down, and the next message to the service will be
answered with an error reply once notifications were granted anew. -/
def severed : World Client :=
  (run
    [.outlook [] [{ delivery := .answered (.returned []) }] none,
      .command (.subscribe (.callback "new" .none)), .drop 1,
      .outlook [] [{ delivery := .answered (.returned []) },
        { delivery := .answered (.refused { name := some "org.bluez.Error.NotReady" }) }] none]
    (fresh "default" (.whole 10))).2

theorem steady_severed : Steady severed.service :=
  steady_of_connects (List.isEmpty_iff.mp (by decide +kernel))

/-- The read reconnects, has notifications granted anew, and tells the error that came. -/
theorem forthright_execute_severed :
    severed.service.callTimeout.isWaitable = true ∧ Steady severed.service ∧
      Forthright (fun f => f.isA .service = true) Failure.reply
        (.read "/org/bluez/hci0" adapterInterface "Powered") severed
        (execute (.getPowered "/org/bluez/hci0") severed) ∧
      (openings severed.log).length = 1 ∧
      (openings (execute (.getPowered "/org/bluez/hci0") severed).2.log).length = 2 ∧
      replyBehind (execute (.getPowered "/org/bluez/hci0") severed).1 =
        some "org.bluez.Error.NotReady" :=
  ⟨by decide +kernel, steady_severed,
    forthright_execute severed (.getPowered "/org/bluez/hci0") _ (by decide +kernel)
      steady_severed (by decide +kernel) rfl,
    by decide +kernel, by decide +kernel, by decide +kernel⟩

/-- A client on an occupied loop whose bound is more than clocks count to. -/
def overlong : World Client :=
  { fresh "hci0" (.whole 10000000000) with
    loop := { name := "hci0", current := some { occupied := true } } }

/-- A read that nobody can wait for ends before anything came, and not in a failure of the
service. -/
theorem not_forthright_overlong :
    ¬ Forthright (fun f => f.isA .service = true) Failure.reply
      (.read "/org/bluez/hci0" adapterInterface "Powered") overlong
      (execute (.getPowered "/org/bluez/hci0") overlong) := by
  rintro ⟨c, es, hv, -, hr⟩
  have hes : [Event.called (some (.whole 10000000000))] = es := congrArg World.log hv
  subst hes
  obtain ⟨e, he, hs⟩ := (hr fun q hq => by cases hq).raises rfl
  obtain rfl : Failure.beyondClock (.whole 10000000000) = e := Except.error.inj he
  exact absurd hs (by decide)

end Client

end BluetoothControl
