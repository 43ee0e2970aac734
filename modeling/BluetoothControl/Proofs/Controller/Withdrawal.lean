import BluetoothControl.Bus.Feedback
import BluetoothControl.Proofs.Client.Enrolment
import BluetoothControl.Proofs.Controller.Discipline
import BluetoothControl.Proofs.Controller.Discovery

/-!
# Scans leave no subscription behind

A scan that was given a handle gives it up however it ends: nobody else is subscribed or dismissed,
discovery is not stopped, and what keeps it from its wait reaches the caller (`scan_withdraws`).
-/

namespace BluetoothControl

open Procedure

/-! ## Discovery goes on -/

/-- Whether a message has an adapter discover no more. -/
def Message.stopsDiscovery (m : Message) : Bool :=
  m.interface == adapterInterface && m.member == "StopDiscovery"

/-- Since the log was `past`, no message to the service had an adapter discover no more. -/
def Spared (past : List Event) (w : World Client) : Prop :=
  ∃ es, w.log = past ++ es ∧ ∀ m ∈ requests es, m.stopsDiscovery = false

section
variable {past : List Event}

theorem spared_refl (w : World Client) : Spared w.log w :=
  ⟨[], (List.append_nil _).symm, fun _ hm => nomatch hm⟩

theorem Message.stopsDiscovery_of_isGuarded {m : Message} (h : m.isGuarded = false) :
    m.stopsDiscovery = false := by
  unfold isGuarded at h
  unfold stopsDiscovery
  simp only [Bool.or_eq_false_iff, Bool.and_eq_false_iff] at h ⊢
  rcases h.1.1 with hi | hm
  · exact Or.inl hi
  · exact Or.inr hm.2

theorem Spared.append {w : World Client} (h : Spared past w) (c : Client) {es : List Event}
    (hes : ∀ m ∈ requests es, m.stopsDiscovery = false) : Spared past (w.after c es) := by
  obtain ⟨fs, hl, hfs⟩ := h
  refine ⟨fs ++ es, ?_, fun m hm => ?_⟩
  · rw [World.after_log, hl, List.append_assoc]
  · rw [requests_append] at hm
    rcases List.mem_append.mp hm with hm | hm
    · exact hfs m hm
    · exact hes m hm

theorem spared_of_asks {α : Type} {p : Action Client α} {m : Message} {Q : α → Delivery → Prop}
    (hp : Client.Asks m Q p) (hm : m.stopsDiscovery = false) : Keeps (Spared past) p := by
  intro w h
  obtain ⟨c, es, hv, hr⟩ := hp w
  rw [hv]
  refine h.append c fun m' hm' => ?_
  rcases hr with ⟨-, hes⟩ | ⟨d, hs, -, -⟩
  · rw [hes.requests] at hm'
    cases hm'
  · rw [hs, List.mem_singleton] at hm'
    rw [hm']
    exact hm

theorem withstands_spared : Client.Withstands (fun _ => True) (Spared past) := by
  refine Client.withstands_of_observe (fun _ _ _ h => h.append _ fun _ hm => nomatch hm)
    fun _ he _ h => h.append _ fun m hm => ?_
  rw [(unaddressed_singleton he).requests] at hm
  cases hm

theorem unhurried_spared : Client.Unhurried (Spared past) :=
  fun _ _ h => h.append _ fun _ hm => nomatch hm

theorem reads_spared : Client.service.Reads (Spared past) :=
  Client.reads_of_asks fun hp hm => spared_of_asks hp (Message.stopsDiscovery_of_isGuarded hm)

end

namespace Controller

/-! ## Stages of a scan -/

section
variable {κ : Type}

/-- What a scan that has subscribed tries before its wait. -/
def setOut (c : Controller κ) (timeout : Seconds) : Action κ Unit := do
  c.startDiscovery
  World.await timeout

theorem embark_eq (c : Controller κ) (s : Scan) : c.embark s =
    tryCatch (c.setOut s.timeout) fun f => c.giveUp s.subscription >>= fun _ => throw f := rfl

/-- The world in which a scan gives up its subscription, if others left it in `v` once it had
subscribed: it did not come to wait, or its wait is over. -/
def departing (c : Controller κ) (timeout : Seconds) (meanwhile : Action κ Unit) (v : World κ) :
    World κ :=
  match c.setOut timeout v with
  | (.error _, u) => u
  | (.ok (), u) => (meanwhile u).2

variable {c : Controller κ} {timeout : Seconds} {early meanwhile : Action κ Unit}
  {w v u : World κ} {s : Scan}

/-- A scan that does not come to wait gives up its subscription and fails, with what kept it from
that unless giving up fails too. -/
theorem scan_of_error {f : Failure} (he : c.enroll timeout w = (.ok s, v))
    (hf : c.setOut s.timeout (early v).2 = (.error f, u)) :
    c.scan timeout early meanwhile w = match c.giveUp s.subscription u with
      | (.ok (), x) => (.error f, x)
      | (.error g, x) => (.error g, x) := by
  have hembark : c.embark s (early v).2 = match c.giveUp s.subscription u with
      | (.ok (), x) => (.error f, x)
      | (.error g, x) => (.error g, x) := by
    rw [embark_eq, tryCatch_error hf, bind_apply]
    rcases c.giveUp s.subscription u with ⟨r, x⟩
    cases r <;> rfl
  rcases hg : c.giveUp s.subscription u with ⟨r, x⟩
  rw [hg] at hembark
  have hb (g : Failure) (hx : c.embark s (early v).2 = (.error g, x)) :
      c.scan timeout early meanwhile w = (.error g, x) := by
    have hbegin : c.beginScan timeout early w = (.error g, x) :=
      (bind_ok he).trans ((bind_ok rfl).trans (bind_error hx))
    exact bind_error hbegin
  cases r with
  | ok y => exact hb f hembark
  | error g => exact hb g hembark

/-- A scan that waits goes on from the world in which it gives up its subscription. -/
theorem scan_of_ok (he : c.enroll timeout w = (.ok s, v))
    (hf : c.setOut s.timeout (early v).2 = (.ok (), u)) :
    c.scan timeout early meanwhile w =
      c.finishScan s (c.departing s.timeout meanwhile (early v).2) := by
  have hembark : c.embark s (early v).2 = (.ok (), u) := by
    rw [embark_eq]
    exact tryCatch_ok hf
  have hb : c.beginScan timeout early w = (.ok s, u) :=
    (bind_ok he).trans ((bind_ok rfl).trans (bind_ok hembark))
  unfold departing
  rw [hf]
  exact bind_ok hb

end

/-! ## What the stages keep -/

variable {name : String} {config : Config} {owns : Bool}
  {members : List (Nat × Subscriber)} {own : Seconds} {past : List Event}

theorem enrolled_noteKnown (k : Nat) :
    Keeps (Client.Enrolled members own) ((onBus name config owns).noteKnown k) :=
  keeps_noteKnown (c := onBus name config owns)
    (Client.reads_of_upholds Client.upholds_enrolled) fun _ _ _ _ h => ⟨h.members, h.bound⟩

theorem enrolled_startDiscovery :
    Keeps (Client.Enrolled members own) (onBus name config owns).startDiscovery := by
  have h : Client.Upholds (Client.Enrolled members own) := Client.upholds_enrolled
  refine keeps_bind (Client.keeps_perform h.called h.pace (Client.keeps_getFlag h.call))
    fun b => ?_
  split
  · exact keeps_pure _
  · exact keeps_bind
      (Client.keeps_perform h.called h.pace (Client.keeps_setDiscoveryFilterTask h.call _))
      fun _ => keeps_ignoring (Client.keeps_request h)

theorem spared_startDiscovery : Keeps (Spared past) (onBus name config owns).startDiscovery := by
  refine keeps_bind (spared_of_asks Client.asks_getFlag rfl) fun b => ?_
  split
  · exact keeps_pure _
  · exact keeps_bind (spared_of_asks Client.asks_request rfl) fun _ =>
      keeps_ignoring (spared_of_asks Client.asks_request rfl)

theorem enrolled_setOut (timeout : Seconds) :
    Keeps (Client.Enrolled members own) ((onBus name config owns).setOut timeout) :=
  keeps_bind enrolled_startDiscovery fun _ => keeps_await fun _ h => ⟨h.members, h.bound⟩

theorem spared_setOut (timeout : Seconds) :
    Keeps (Spared past) ((onBus name config owns).setOut timeout) :=
  keeps_bind spared_startDiscovery fun _ =>
    keeps_await fun _ h => h.append _ fun _ hm => nomatch hm

theorem spared_enroll (timeout : Seconds) :
    Keeps (Spared past) ((onBus name config owns).enroll timeout) := by
  rw [enroll_eq]
  exact keeps_bind (fun _ h => h) fun _ =>
    keeps_bind (keeps_noteKnown (c := onBus name config owns) reads_spared fun _ _ _ _ h => h)
      fun _ => keeps_bind
        (keeps_map _ (keeps_bind
          (Client.keeps_subscribe withstands_spared unhurried_spared trivial) fun _ =>
            keeps_pure _))
        fun _ => keeps_pure _

theorem spared_giveUp (subscription : Value) :
    Keeps (Spared past) ((onBus name config owns).giveUp subscription) :=
  keeps_ignoring (Client.keeps_unsubscribe withstands_spared unhurried_spared subscription)

section
variable {timeout : Seconds} {w v : World Client} {k n : Nat}

/-- A scan that is given a handle has noted the known devices and was entered as a subscriber. -/
theorem subscribed_of_enroll {s : Scan}
    (h : (onBus name config owns).enroll timeout w = (.ok s, v)) :
    ∃ u n, (onBus name config owns).noteKnown w.sessions.length
        (World.openSession timeout w).2 = (.ok (), u) ∧
      Client.subscribe (.session w.sessions.length name) u = (.ok n, v) ∧
      s = ⟨w.sessions.length, .int n, timeout⟩ := by
  obtain ⟨u, hn, henlist, _⟩ := of_enroll_ok h
  obtain ⟨subscription, _, hs, hpure⟩ := of_bind_ok henlist
  cases hpure
  obtain ⟨handle, hcast, rfl⟩ := of_map_ok hs
  obtain ⟨n, _, hentered, hi⟩ := of_bind_ok hcast
  cases hi
  exact ⟨u, n, hn, hentered, rfl⟩

/-- It has added one subscription. -/
theorem enrolled_of_enroll
    (h : (onBus name config owns).enroll timeout w = (.ok ⟨k, .int n, timeout⟩, v)) :
    Client.Enrolled (w.service.subscriptions ++ [(n, .session k name)]) w.service.callTimeout
      v := by
  obtain ⟨u, i, hn, hs, hh⟩ := subscribed_of_enroll h
  cases hh
  have hopen : Client.Enrolled w.service.subscriptions w.service.callTimeout
      (World.openSession timeout w).2 := ⟨rfl, rfl⟩
  have hk : Client.Enrolled w.service.subscriptions w.service.callTimeout
      ((onBus name config owns).noteKnown w.sessions.length _).2 := enrolled_noteKnown _ _ hopen
  rw [hn] at hk
  have hu := Client.of_subscribe_ok hs
  rw [hk.members, hk.bound] at hu
  exact hu.1

/-- What a scan does to give up its subscription on a loop that is free. -/
theorem enrolled_giveUp (hfree : w.loop.isFree = true) :
    Client.Enrolled (w.service.subscriptions.filter (·.1 ≠ n)) w.service.callTimeout
      ((onBus name config owns).giveUp (.int n) w).2 := by
  unfold giveUp
  rw [ignoring_state]
  exact Client.enrolled_unsubscribe hfree

theorem enrolled_finishScan (hfree : w.loop.isFree = true) :
    Client.Enrolled (w.service.subscriptions.filter (·.1 ≠ n)) w.service.callTimeout
      ((onBus name config owns).finishScan ⟨k, .int n, timeout⟩ w).2 := by
  refine keeps_rest (enrolled_giveUp hfree) fun _ => keeps_bind keeps_get fun _ =>
    keeps_bind (keeps_visible (c := onBus name config owns)
      (Client.reads_of_upholds Client.upholds_enrolled) _) fun _ =>
      keeps_bind (fun _ h => ⟨h.members, h.bound⟩) fun _ => keeps_pure _

theorem spared_finishScan (s : Scan) :
    Keeps (Spared past) ((onBus name config owns).finishScan s) :=
  keeps_bind (spared_giveUp _) fun _ => keeps_bind keeps_get fun _ =>
    keeps_bind (keeps_visible (c := onBus name config owns) reads_spared _) fun _ =>
      keeps_bind (fun _ h => h) fun _ => keeps_pure _

end

/-- Giving up fails only over what is no stop of the loop. -/
theorem giveUp_of_stopped {c : Controller Client} {subscription : Value} {u : World Client}
    (h : ∀ g, (c.service.unsubscribe subscription u).1 = .error g → g.isA .loopStopped = true) :
    (c.giveUp subscription u).1 = .ok () := by
  unfold giveUp
  rw [ignoring_apply]
  rcases hu : c.service.unsubscribe subscription u with ⟨r, x⟩
  rw [hu] at h
  cases r with
  | ok y => rfl
  | error g =>
    dsimp only
    rw [if_pos (h g rfl)]

section
variable {timeout : Seconds} {early meanwhile : Action Client Unit} {w v u : World Client}
  {k n : Nat}

/-- A scan whose wait is over leaves no subscription under its handle. -/
theorem withdraws_of_ok
    (he : (onBus name config owns).enroll timeout w = (.ok ⟨k, .int n, timeout⟩, v))
    (hf : (onBus name config owns).setOut timeout (early v).2 = (.ok (), u))
    (hfree :
      ((onBus name config owns).departing timeout meanwhile (early v).2).loop.isFree = true) :
    ((onBus name config owns).scan timeout early meanwhile w).2.service.subscriptions =
        ((onBus name config owns).departing timeout meanwhile
          (early v).2).service.subscriptions.filter (·.1 ≠ n) ∧
      Spared ((onBus name config owns).departing timeout meanwhile (early v).2).log
        ((onBus name config owns).scan timeout early meanwhile w).2 := by
  rw [scan_of_ok he hf]
  exact ⟨(enrolled_finishScan hfree).members, spared_finishScan _ _ (spared_refl _)⟩

/-- Nor does a scan that did not come to wait; it fails with what kept it from that if giving up
does not fail over anything but a stop of the loop. -/
theorem withdraws_of_error {f : Failure}
    (he : (onBus name config owns).enroll timeout w = (.ok ⟨k, .int n, timeout⟩, v))
    (hf : (onBus name config owns).setOut timeout (early v).2 = (.error f, u))
    (hfree : u.loop.isFree = true) :
    ((onBus name config owns).scan timeout early meanwhile w).2.service.subscriptions =
        u.service.subscriptions.filter (·.1 ≠ n) ∧
      Spared u.log ((onBus name config owns).scan timeout early meanwhile w).2 ∧
      ((∀ g, ((onBus name config owns).service.unsubscribe (.int n) u).1 = .error g →
        g.isA .loopStopped = true) →
          ((onBus name config owns).scan timeout early meanwhile w).1 = .error f) := by
  have hgive : Client.Enrolled _ _ ((onBus name config owns).giveUp (.int n) u).2 :=
    enrolled_giveUp (n := n) hfree
  have hspare : Spared u.log ((onBus name config owns).giveUp (.int n) u).2 :=
    spared_giveUp _ u (spared_refl u)
  have hstopped := @giveUp_of_stopped (onBus name config owns) (.int n) u
  rw [scan_of_error he hf]
  rcases hx : (onBus name config owns).giveUp (.int n) u with ⟨r, x⟩
  rw [hx] at hgive hspare hstopped
  cases r with
  | ok y => exact ⟨hgive.members, hspare, fun _ => rfl⟩
  | error g =>
    refine ⟨hgive.members, hspare, fun hu => ?_⟩
    cases hstopped hu

end

/-- Whatever happens once it has subscribed and while it waits, and however it ends, a scan that was
given a handle leaves no subscription under it and no other subscription touched, if the loop runs
and is free when it is given up; it does not stop discovery; and if discovery could not be started,
or the wait not begun, and giving up did not fail over anything but a stop of the loop, it fails
with what kept it from that. -/
theorem scan_withdraws (name : String) (config : Config) (owns : Bool) (timeout : Seconds)
    (early meanwhile : Action Client Unit) (w : World Client) (k n : Nat)
    (henrolled : ((onBus name config owns).enroll timeout w).1 = .ok ⟨k, .int n, timeout⟩)
    (hfree : ((onBus name config owns).departing timeout meanwhile
      (early ((onBus name config owns).enroll timeout w).2).2).loop.isFree = true) :
    let c := onBus name config owns
    let entered := (c.enroll timeout w).2
    let resumed := (early entered).2
    let started := c.setOut timeout resumed
    let leaving := c.departing timeout meanwhile resumed
    let ended := c.scan timeout early meanwhile w
    entered.service.subscriptions = w.service.subscriptions ++ [(n, .session k name)] ∧
      started.2.service.subscriptions = resumed.service.subscriptions ∧
      ended.2.service.subscriptions = leaving.service.subscriptions.filter (·.1 ≠ n) ∧
      Spared w.log entered ∧ Spared resumed.log started.2 ∧ Spared leaving.log ended.2 ∧
      ∀ f, started.1 = .error f →
        (∀ g, (c.service.unsubscribe (.int n) started.2).1 = .error g →
          g.isA .loopStopped = true) →
        ended.1 = .error f := by
  intro c entered resumed started leaving ended
  have he : c.enroll timeout w = (.ok ⟨k, .int n, timeout⟩, entered) := Prod.ext henrolled rfl
  have hstarted : Client.Enrolled resumed.service.subscriptions resumed.service.callTimeout
      started.2 := enrolled_setOut timeout resumed ⟨rfl, rfl⟩
  refine ⟨(enrolled_of_enroll he).members, hstarted.members, ?_⟩
  have hspared : Spared w.log entered := spared_enroll timeout w (spared_refl w)
  have hset : Spared resumed.log started.2 := spared_setOut timeout resumed (spared_refl resumed)
  rcases hs : started with ⟨r, u⟩
  rw [hs] at hset
  have hd : c.setOut timeout resumed = (r, u) := hs
  cases r with
  | ok x =>
    obtain ⟨hsubscriptions, hspare⟩ := withdraws_of_ok he hd hfree
    refine ⟨hsubscriptions, hspared, hset, hspare, fun f hf => ?_⟩
    cases hf
  | error f =>
    have hl : leaving = u := by
      show c.departing timeout meanwhile resumed = u
      unfold departing
      rw [hd]
    obtain ⟨hsubscriptions, hspare, hfails⟩ :=
      withdraws_of_error he hd (hl ▸ hfree)
    rw [hl]
    refine ⟨hsubscriptions, hspared, hset, hspare, fun f' hf hu => ?_⟩
    cases hf
    exact hfails hu

/-- Nothing is known and notifications are granted; the filter is refused, and so is the withdrawal
of the request for notifications. -/
def unfiltered : World Client :=
  .started "hci0"
    { callTimeout := .whole 10
      link :=
        { replies :=
            [{ delivery := .answered (.returned [.dict []]) },
              { delivery := .answered (.returned []) },
              { delivery := .answered (.returned [.variant "b" (.bool false)]) },
              { delivery := .answered (.refused { name := some "org.bluez.Error.NotSupported" }) },
              { delivery := .answered (.refused {}) }] } }

/-- The scan fails over the filter, and nobody is subscribed any more; its connection would have
gone down while it waits. -/
theorem scan_withdraws_unfiltered :
    let c := onBus "hci0" {} true
    let meanwhile := c.during [.drop 1] { world := unfiltered }
    let leaving := c.departing (.whole 5) meanwhile (c.enroll (.whole 5) unfiltered).2
    let ended := c.scan (.whole 5) (pure ()) meanwhile unfiltered
    (c.enroll (.whole 5) unfiltered).1 = .ok ⟨0, .int (1 : Nat), .whole 5⟩ ∧
      leaving.loop.isFree = true ∧
      ended.2.service.subscriptions = leaving.service.subscriptions.filter (·.1 ≠ 1) ∧
      ended.2.service.subscriptions.isEmpty = true ∧
      replyBehind ended.1 = some "org.bluez.Error.NotSupported" := by
  intro c meanwhile leaving ended
  have henrolled : (c.enroll (.whole 5) unfiltered).1 = .ok ⟨0, .int (1 : Nat), .whole 5⟩ := by
    have h : (c.enroll (.whole 5) unfiltered).1.toOption.map (·.subscription.int?) =
        some (some 1) := by decide +kernel
    rcases he : c.enroll (.whole 5) unfiltered with ⟨r, v⟩
    rw [he] at h
    cases r with
    | error f => cases h
    | ok s =>
      obtain ⟨u, n, -, -, rfl⟩ := subscribed_of_enroll he
      obtain rfl : n = 1 := Int.ofNat.inj (Option.some.inj (Option.some.inj h))
      rfl
  have hfree : leaving.loop.isFree = true := by decide +kernel
  have h := scan_withdraws "hci0" {} true (.whole 5) (pure ()) meanwhile unfiltered 0 1 henrolled
    hfree
  exact ⟨henrolled, hfree, h.2.2.1, by decide +kernel, by decide +kernel⟩

end Controller

end BluetoothControl
