import BluetoothControl.Proofs.Client.Effect

/-!
# Attaching the handler

Putting the notification handler on a connection takes a request, and the request takes a connection
to use; if that has to be opened first, the handler is put on it before.  So the handler can be
pending on several connections at once, the newest one first, and all of them are settled from there
outwards.  `Carries` says what one step has to keep of a property of worlds with the connections
that are pending, and `Carries.attach` that the whole attempt keeps it then, however many new
connections are down at once.
-/

namespace BluetoothControl.Client

open Procedure

/-- The handler is put on the connection to use. -/
def attach : Task Unit := do installHandler (← obtainBus)

/-- A property of worlds, with the connections on which the handler is pending, that each step of
putting it on one keeps. -/
structure Carries (P : List Nat → World Client → Prop) : Prop where
  /-- Pending connections were opened. -/
  opened : ∀ {ts w}, P ts w → ∀ t ∈ ts, t ≤ w.service.link.buses.length
  request : ∀ {ts w} (n : Nat), P ts w → P ts (exchange n .addMatch addMatchContext w).2
  reconnect : ∀ {ts w}, P ts w → w.service.openBus? = none → P ts (Client.reconnect w).2
  ask : ∀ {ts w n}, P ts w → w.service.bus = some n → w.service.signalBus ≠ some n → n ∉ ts →
    P (n :: ts) (asking n w)
  /-- Notifications are granted by whichever connection is held. -/
  settle : ∀ {ts w n} (c : Consent), P (n :: ts) w →
    (c = .granted → ∃ m, w.service.bus = some m ∧ Accepted w.log m) → P ts (settled n c w)

/-- With `P` on the way, a task comes to an end, and if it answers it holds the connection it
answers with. -/
def Holds (P : World Client → Prop) (x : Except Halt Nat × World Client) : Prop :=
  P x.2 ∧ ∀ n, x.1 = .ok n → x.2.service.bus = some n

/-- With `P` on the way, a task comes to an end, and if it answers its request was accepted on the
connection held. -/
def Accepts {α : Type} (P : World Client → Prop) (x : Except Halt α × World Client) : Prop :=
  P x.2 ∧ ∀ a, x.1 = .ok a → ∃ n, x.2.service.bus = some n ∧ Accepted x.2.log n

namespace Carries

variable {P : List Nat → World Client → Prop} {ts : List Nat} {w : World Client} {n : Nat}

variable (h : Carries P)

include h

/-- A request that is answered was accepted. -/
theorem accepts_request {obtain : Task Nat} (ho : Holds (P ts) (obtain w)) :
    Accepts (P ts) ((do exchange (← obtain) .addMatch addMatchContext : Task (List Value)) w) := by
  rw [bind_apply]
  rcases hx : obtain w with ⟨r, v⟩
  rw [hx] at ho
  obtain ⟨hp, hheld⟩ := ho
  cases r with
  | error e => exact ⟨hp, fun a ha => by cases ha⟩
  | ok n =>
    have hp := h.request n hp
    dsimp only
    rw [exchange_apply] at hp ⊢
    refine ⟨hp, fun body hbody => ⟨n, hheld n rfl, ?_⟩⟩
    have ha : (v.service.link.nextReply n).1.isAccepted = true := by
      rw [of_verdict_ok hbody]
      rfl
    exact ⟨.addMatch, _, List.mem_append_right _ (by simp), rfl, ha⟩

/-- On a connection held the handler is put, or it is there. -/
theorem installAsking {ask : Task (List Value)} (hw : P ts w) (hb : w.service.bus = some n)
    (hn : n ∉ ts) (hask : P (n :: ts) (asking n w) → Accepts (P (n :: ts)) (ask (asking n w))) :
    P ts (Client.installAsking ask n w).2 ∧
      ((Client.installAsking ask n w).1 = .ok () →
        ∃ m, (Client.installAsking ask n w).2.service.bus = some m) := by
  by_cases hr : w.service.signalBus = some n
  · rw [installAsking_recorded hr]
    exact ⟨hw, fun _ => ⟨n, hb⟩⟩
  · have ha := hask (h.ask hw hb hr hn)
    rw [installAsking_new hr]
    rcases hx : ask (asking n w) with ⟨r, v⟩
    rw [hx] at ha
    obtain ⟨hp, hok⟩ := ha
    cases r with
    | ok body =>
      refine ⟨h.settle .granted hp fun _ => hok body rfl, fun _ => ?_⟩
      obtain ⟨m, hm, -⟩ := hok body rfl
      exact ⟨m, hm⟩
    | error e =>
      refine ⟨h.settle _ hp fun hg => ?_, fun he => by cases he⟩
      unfold Halt.consent at hg
      split at hg <;> cases hg

/-- A new connection is the newest, so nothing is pending on it. -/
theorem fresh {ts : List Nat} (hw : P ts w) : w.service.link.buses.length + 1 ∉ ts := fun ht =>
  absurd (h.opened hw _ ht) (by omega)

/-- However many connections are down at once. -/
theorem obtainWithin (depth : Nat) {ts : List Nat} {w : World Client} (hw : P ts w) :
    Holds (P ts) (Client.obtainWithin depth w) := by
  induction depth generalizing ts w with
  | zero => exact ⟨hw, fun n hn => by cases hn⟩
  | succ depth ih =>
    cases ho : w.service.openBus? with
    | some n =>
      rw [obtainWithin_held depth ho]
      exact ⟨hw, fun m hm => by
        cases hm
        exact (Option.filter_eq_some_iff.mp ho).1⟩
    | none =>
      have hv := h.reconnect hw ho
      have hr := reconnected w
      rw [obtainWithin_down depth ho, bind_apply]
      rcases hx : Client.reconnect w with ⟨r, v⟩
      rw [hx] at hv hr
      cases r with
      | error e => exact ⟨hv, fun n hn => by cases hn⟩
      | ok n =>
        obtain ⟨hb, hn⟩ : v.service.bus = some n ∧ n ∉ ts := by
          cases hr with
          | opens number =>
            subst number
            exact ⟨rfl, h.fresh hw⟩
          | lapses number =>
            subst number
            exact ⟨rfl, h.fresh hw⟩
        dsimp only
        by_cases hs : v.service.subscriptions = []
        · rw [takeUp_idle hs]
          exact ⟨hv, fun m hm => by
            cases hm
            exact hb⟩
        · have hi := h.installAsking hv hb hn fun ha => h.accepts_request (ih ha)
          rw [takeUp_busy hs]
          rcases hy : Client.installAsking _ n v with ⟨r, u⟩
          rw [hy] at hi
          cases r with
          | error e => exact ⟨hi.1, fun m hm => by cases hm⟩
          | ok _ =>
            obtain ⟨m, hm⟩ := hi.2 rfl
            refine ⟨hi.1, fun k hk => ?_⟩
            cases hk
            dsimp only
            rw [hm]
            rfl

theorem obtainBus (hw : P ts w) : Holds (P ts) (Client.obtainBus w) := by
  unfold Client.obtainBus
  rw [bind_ok (current_apply w)]
  exact h.obtainWithin _ hw

/-- Putting the handler on the connection to use carries a property through. -/
theorem attach (hw : P [] w) : P [] (Client.attach w).2 := by
  unfold Client.attach
  rw [bind_apply]
  have ho := h.obtainBus hw
  rcases hx : Client.obtainBus w with ⟨r, v⟩
  rw [hx] at ho
  cases r with
  | error e => exact ho.1
  | ok n =>
    exact (h.installAsking ho.1 (ho.2 n rfl) List.not_mem_nil fun ha =>
      h.accepts_request (h.obtainBus ha)).1

end Carries

/-! ## Entering a subscriber -/

/-- The client with a subscriber entered. -/
def entered (c : Client) (s : Subscriber) : Client :=
  { c with nextHandle := c.nextHandle + 1, subscriptions := c.subscriptions ++ [(c.nextHandle, s)] }

/-- The client with a subscription removed. -/
def dismissed (c : Client) (handle : Nat) : Client :=
  { c with subscriptions := c.subscriptions.filter (·.1 ≠ handle) }

/-- To dismiss a subscriber just entered undoes it. -/
theorem dismissed_entered {c : Client} (h : ∀ e ∈ c.subscriptions, e.1 < c.nextHandle)
    (s : Subscriber) :
    ((c.entered s).dismissed c.nextHandle).subscriptions = c.subscriptions := by
  show (c.subscriptions ++ [(c.nextHandle, s)]).filter (·.1 ≠ c.nextHandle) = c.subscriptions
  rw [List.filter_append, List.filter_eq_self.mpr]
  · simp
  · intro e he
    exact decide_eq_true (Nat.ne_of_lt (h e he))

/-- The subscriber stays unless attaching ends in a failure of the service. -/
theorem subscribeTask_apply (s : Subscriber) (w : World Client) :
    subscribeTask s w = match attach (w.after (w.service.entered s) []) with
      | (.ok (), v) => (.ok w.service.nextHandle, v)
      | (.error e, v) =>
        (.error e, if e.isA .service then v.after (v.service.dismissed w.service.nextHandle) []
          else v) := by
  unfold subscribeTask
  rw [bind_ok (current_apply w)]
  dsimp only
  rw [bind_ok (change_apply _ w)]
  show ((tryCatch attach _) >>= _) (w.after (w.service.entered s) []) = _
  rcases ha : attach (w.after (w.service.entered s) []) with ⟨r, v⟩
  cases r with
  | ok u =>
    rw [bind_ok (tryCatch_ok ha)]
    rfl
  | error e =>
    rw [bind_apply, tryCatch_error ha]
    cases he : e.isA .service with
    | true =>
      simp only [he, if_true]
      rw [bind_apply, change_apply]
      rfl
    | false =>
      simp only [he, Bool.false_eq_true, if_false]
      rfl

end BluetoothControl.Client
