import BluetoothControl.Proofs.Client.Enrolment
import BluetoothControl.Proofs.Client.Sound

/-!
# Whether subscribing is atomic

A subscription either counts, under a handle of its own, or it is refused without a trace, unless
something goes wrong on the way that the roll-back misses: an interruption, which keeps the
subscriber, or a grant before the failure, which keeps its handler.  `Attempted` counts the handlers
that an attempt leaves behind.
-/

namespace BluetoothControl

namespace Handling

/-- Whether asking for a connection came to anything but a denial. -/
def lasts (n : Nat) : Handling → Bool
  | asked m c => m == n && c != .denied
  | removed _ => false

/-- How often asking for a connection came to anything but a denial. -/
def lasting (hs : List Handling) (n : Nat) : Nat := hs.countP (lasts n)

theorem lasting_append (hs ks : List Handling) (n : Nat) :
    lasting (hs ++ ks) n = lasting hs n + lasting ks n := List.countP_append

/-- Nothing lasts where everything was denied. -/
theorem lasting_eq_zero {hs : List Handling} :
    (∀ n, lasting hs n = 0) ↔ ∀ n c, .asked n c ∈ hs → c = .denied := by
  constructor
  · intro h n c hc
    have hn := List.countP_eq_zero.mp (h n) _ hc
    simpa [lasts] using hn
  · intro h n
    refine List.countP_eq_zero.mpr fun k hk => ?_
    cases k with
    | asked m c =>
      rw [h m c hk]
      simp [lasts]
    | removed m => exact Bool.false_ne_true

end Handling

namespace Client

open Procedure Handling

/-! ## An attempt to attach the handler -/

/-- From `u` to `w`, the handler was put on each connection once for each time that asking for it
came to anything but a denial, and on those where it is pending. -/
def Attempted (u : World Client) (ts : List Nat) (w : World Client) : Prop :=
  ∃ es, w.log = u.log ++ es ∧
    ∀ n, w.service.link.handlersOn n =
      u.service.link.handlersOn n + lasting (handlings es) n + ts.count n

section
variable {u w : World Client} {ts : List Nat} {c : Client} {n : Nat}

theorem attempted_refl (w : World Client) : Attempted w [] w :=
  ⟨[], (List.append_nil _).symm, fun _ => rfl⟩

/-- What concerns no handler. -/
theorem Attempted.after (h : Attempted u ts w) (es : List Event)
    (hon : ∀ n, c.link.handlersOn n = w.service.link.handlersOn n) (hh : handlings es = []) :
    Attempted u ts (w.after c es) := by
  obtain ⟨fs, hl, hs⟩ := h
  refine ⟨fs ++ es, ?_, fun n => ?_⟩
  · rw [World.after_log, hl, List.append_assoc]
  · rw [handlings_append, hh, List.append_nil]
    exact (hon n).trans (hs n)

theorem Attempted.reconnect (h : Attempted u ts w) : Attempted u ts (Client.reconnect w).2 := by
  have hl := Link.buses_nextConnect w.service.link
  have hr := reconnected w
  generalize Client.reconnect w = x at hr
  cases hr with
  | opens => exact h.after _ (handlersOn_connected _) rfl
  | lapses =>
    refine h.after _ (fun n => ?_) rfl
    exact (Link.handlersOn_drop ..).trans (handlersOn_connected _ n)
  | strays => exact h.after _ (handlersOn_strayed _) rfl
  | hangs => exact h.after _ (Link.handlersOn_of_buses hl) rfl
  | cancelled => exact h.after _ (Link.handlersOn_of_buses hl) rfl
  | unreachable => exact h.after _ (Link.handlersOn_of_buses hl) rfl

/-- The handler is pending. -/
theorem Attempted.ask (h : Attempted u ts w) (hn : 0 < n ∧ n ≤ w.service.link.buses.length) :
    Attempted u (n :: ts) (asking n w) := by
  obtain ⟨fs, hl, hs⟩ := h
  refine ⟨fs ++ [.handlerAdded n], ?_, fun m => ?_⟩
  · rw [asking, World.after_log, hl, List.append_assoc]
  · refine (Link.handlersOn_addHandler hn m).trans ?_
    have hh : handlings (fs ++ [.handlerAdded n]) = handlings fs :=
      (handlings_append ..).trans (List.append_nil _)
    rw [hh, hs, count_pending, Nat.add_assoc]

/-- The handler stays unless asking for it was denied. -/
theorem Attempted.settle (h : Attempted u (n :: ts) w) (consent : Consent) :
    Attempted u ts (settled n consent w) := by
  obtain ⟨fs, hl, hs⟩ := h
  have hkept (hc : consent ≠ .denied) (es : List Event)
      (hes : handlings es = [.asked n consent]) (m : Nat) :
      w.service.link.handlersOn m =
        u.service.link.handlersOn m + lasting (handlings (fs ++ es)) m + ts.count m := by
    rw [hs, count_pending, handlings_append, lasting_append, hes]
    by_cases hm : m = n
    · subst hm
      simp [lasting, lasts, hc]
      omega
    · have hm' : ¬ n = m := fun e => hm e.symm
      simp [lasting, lasts, hm, hm']
  cases consent with
  | granted =>
    exact ⟨fs ++ [.consented n .granted], by rw [settled, World.after_log, hl, List.append_assoc],
      hkept Consent.noConfusion _ rfl⟩
  | interrupted =>
    exact ⟨fs ++ [.consented n .interrupted],
      by rw [settled, World.after_log, hl, List.append_assoc], hkept Consent.noConfusion _ rfl⟩
  | denied =>
    refine ⟨fs ++ [.consented n .denied, .handlerRemoved n],
      by rw [settled, World.after_log, hl, List.append_assoc], fun m => ?_⟩
    refine (Link.handlersOn_removeHandler ..).trans ?_
    rw [hs, count_pending, handlings_append, lasting_append]
    have hz : lasting (handlings [.consented n .denied, .handlerRemoved n]) m = 0 :=
      List.countP_eq_zero.mpr (by simp [handlings, Event.handling?, lasts])
    rw [hz]
    omega

end

/-- Each step of putting the handler on a connection is accounted for. -/
theorem carries_attempted (k : Nat) (u : World Client) :
    Carries fun ts w => Sound k ts w ∧ Attempted u ts w where
  opened h := carries_sound.opened h.1
  request n h := by
    refine ⟨carries_sound.request n h.1, ?_⟩
    rw [exchange_apply]
    exact h.2.after _ (fun m => Link.handlersOn_nextReply ..) rfl
  reconnect h ho := ⟨carries_sound.reconnect h.1 ho, h.2.reconnect⟩
  ask h hb hr hn := by
    obtain ⟨hpos, hle, -⟩ := h.1.wired.newest _ hb
    exact ⟨carries_sound.ask h.1 hb hr hn, h.2.ask ⟨hpos, hle⟩⟩
  settle c h hg := ⟨carries_sound.settle c h.1 hg, h.2.settle c⟩

/-! ## Subscribing -/

/-- Either the subscriber `s` is live, under a handle that nobody was given, besides those that were
live in `w`; or the live ones are the same, and no connection has more handlers. -/
def Atomic (given : List Int) (s : Subscriber) (w : World Client) :
    Except Failure Nat × World Client → Prop
  | (.ok handle, v) =>
    (handle : Int) ∉ given ∧
      v.service.subscriptions = w.service.subscriptions ++ [(handle, s)]
  | (.error _, v) =>
    v.service.subscriptions = w.service.subscriptions ∧
      ∀ n, v.service.link.handlersOn n ≤ w.service.link.handlersOn n

/-- The task of subscribing `s`, from `w` on, as far as it comes before its caller goes on. -/
def subscribing (s : Subscriber) (w : World Client) : Except Halt Nat × World Client :=
  paced w.service.callTimeout (subscribeTask s)
    (w.after w.service [.called (some w.service.callTimeout)])

/-- What can come of the task of subscribing. -/
inductive Subscribed (s : Subscriber) (w : World Client) : Except Halt Nat × World Client → Prop
  /-- The subscriber is entered. -/
  | entered {v : World Client} (sound : Sound (w.service.nextHandle + 1) [] v)
      (subscriptions : v.service.subscriptions = (w.service.entered s).subscriptions) :
      Subscribed s w (.ok w.service.nextHandle, v)
  /-- It is entered and dismissed again. -/
  | refused {e : Halt} {v : World Client} (kind : e.isA .service = true)
      (subscriptions : v.service.subscriptions = w.service.subscriptions)
      (attempted : Attempted w [] v) : Subscribed s w (.error e, v)
  /-- It is interrupted, and the subscriber stays. -/
  | interrupted {e : Halt} {v : World Client} (kind : e.isA .service = false)
      (subscriptions : v.service.subscriptions = (w.service.entered s).subscriptions) :
      Subscribed s w (.error e, v)

section
variable {k : Nat} {w : World Client}

/-- Between `w` and `u` nothing concerned the client or its connections. -/
structure Untroubled (w u : World Client) : Prop where
  sound : Sound w.service.nextHandle [] u
  subscriptions : u.service.subscriptions = w.service.subscriptions
  nextHandle : u.service.nextHandle = w.service.nextHandle
  attempted : Attempted w [] u

/-- The task of subscribing goes one of three ways. -/
theorem subscribeTask_ways {u : World Client} (h : Untroubled w u) (s : Subscriber) :
    Subscribed s w (subscribeTask s u) := by
  have hentered : Sound (w.service.nextHandle + 1) [] (u.after (u.service.entered s) []) := by
    refine ⟨h.sound.running, Nat.le_of_eq (congrArg (· + 1) h.nextHandle.symm), ?_⟩
    exact (h.sound.entered s).wired
  have hv := (carries_attempted _ w).attach
    ⟨hentered, h.attempted.after (c := u.service.entered s) [] (fun _ => rfl) rfl⟩
  have hsub := (enrolled_attach (u.after (u.service.entered s) []) ⟨rfl, rfl⟩).members
  have hsame : (u.service.entered s).subscriptions = (w.service.entered s).subscriptions := by
    unfold entered
    rw [h.subscriptions, h.nextHandle]
  rw [subscribeTask_apply]
  rcases hr : attach (u.after (u.service.entered s) []) with ⟨r, v⟩
  rw [hr] at hv hsub
  cases r with
  | ok _ =>
    rw [h.nextHandle]
    exact .entered hv.1 (hsub.trans hsame)
  | error e =>
    dsimp only
    cases hk : e.isA .service with
    | true =>
      rw [if_pos rfl]
      refine .refused hk ?_ (hv.2.after [] (fun _ => rfl) rfl)
      show v.service.subscriptions.filter _ = _
      rw [hsub, ← h.subscriptions]
      exact dismissed_entered h.sound.wired.fresh s
    | false =>
      rw [if_neg Bool.false_ne_true]
      exact .interrupted hk (hsub.trans hsame)

theorem Untroubled.pace {u : World Client} (h : Untroubled w u) (hasty : Bool) :
    Untroubled w (u.after (u.service.withLink (u.service.link.pace hasty)) []) :=
  ⟨upholds_sound.pace hasty u h.sound, h.subscriptions, h.nextHandle,
    h.attempted.after [] (fun _ => rfl) rfl⟩

/-- However much time the task of subscribing has. -/
theorem subscribed (h : Sound k [] w) (s : Subscriber) : Subscribed s w (subscribing s w) := by
  have hw : Untroubled w (w.after w.service [.called (some w.service.callTimeout)]) :=
    ⟨Sound.observed (w := w) ⟨h.running, Nat.le_refl _, h.wired⟩ rfl rfl, rfl, rfl,
      (attempted_refl w).after _ (fun _ => rfl) rfl⟩
  unfold subscribing paced
  cases w.service.callTimeout.patience with
  | waits => exact subscribeTask_ways hw s
  | refuses => exact subscribeTask_ways hw s
  | looks =>
    show Subscribed s w (hastily (subscribeTask s) _)
    rw [hastily_apply]
    have hx := subscribeTask_ways (hw.pace true) s
    dsimp only at hx ⊢
    generalize subscribeTask s _ = x at hx
    cases hx with
    | entered sound subscriptions =>
      exact .entered (upholds_sound.pace false _ sound) subscriptions
    | refused kind subscriptions attempted =>
      exact .refused kind subscriptions (attempted.after [] (fun _ => rfl) rfl)
    | interrupted kind subscriptions => exact .interrupted kind subscriptions

/-- Whoever subscribes is told how the task ended, if there is time for it. -/
theorem subscribe_apply (h : Sound k [] w) (s : Subscriber) :
    subscribe s w =
      (if w.service.callTimeout.patience.lasts then
          (subscribing s w).1.mapError (reported w.loop.name w.service.callTimeout)
        else .error (EventLoop.untold w.loop.name (some w.service.callTimeout)),
        (subscribing s w).2) := by
  show runTask w.service.callTimeout (subscribeTask s) w = _
  rw [runTask_apply h.running]
  exact congrArg (·, _) (answer_task ..)

theorem execute_subscribe (s : Subscriber) (w : World Client) :
    execute (.subscribe s) w =
      ((subscribe s w).1.map fun handle => .number handle, (subscribe s w).2) := by
  show ((fun handle => Answer.number handle) <$> (subscribe s >>= fun n => pure (n : Int))) w = _
  rw [map_apply, bind_apply]
  rcases subscribe s w with ⟨r, v⟩
  cases r <;> rfl

/-- The handle that a move gives out was the next one, and is not given out again. -/
theorem handle?_eq_some (h : Sound k [] w) {m : Move} {handle : Int}
    (hh : Turn.handle? ⟨m, (m.act w).1⟩ = some handle) :
    handle = w.service.nextHandle ∧ Sound (w.service.nextHandle + 1) [] (m.act w).2 := by
  cases m with
  | command c =>
    cases c with
    | subscribe s =>
      have hsub := subscribed h s
      have hx := execute_subscribe s w
      change Turn.handle? ⟨_, (execute (.subscribe s) w).1⟩ = some handle at hh
      show _ ∧ Sound _ [] (execute (.subscribe s) w).2
      rw [hx, subscribe_apply h] at hh ⊢
      generalize subscribing s w = x at hsub hh
      cases hsub with
      | entered sound subscriptions =>
        refine ⟨?_, sound⟩
        split at hh
        · exact (Option.some.inj hh).symm
        · cases hh
      | refused => split at hh <;> cases hh
      | interrupted => split at hh <;> cases hh
    | _ => cases hh
  | _ => cases hh

/-- Handles given out during a run are below the next one. -/
theorem lt_nextHandle_of_run (h : Sound k [] w) {moves : List Move} {t : Turn} {handle : Int}
    (ht : t ∈ (run moves w).1) (hh : t.handle? = some handle) :
    handle < (run moves w).2.service.nextHandle := by
  induction moves generalizing k w with
  | nil => cases ht
  | cons m rest ih =>
    have hm : Sound k [] (m.act w).2 := keeps_act m w h
    rw [run_cons] at ht
    rcases List.mem_cons.mp ht with rfl | ht
    · obtain ⟨he, hf⟩ := handle?_eq_some h hh
      have := (keeps_run hf rest).floor
      rw [run_cons, he]
      exact Int.ofNat_lt.mpr this
    · exact ih hm ht

/-- What happened from `w` to `v`. -/
def since (w v : World Client) : List Event := v.log.drop w.log.length

/-- An attempt left no handler behind exactly if each time of asking came to a denial. -/
theorem Attempted.undone_iff {v : World Client} (h : Attempted w [] v) :
    (∀ n, v.service.link.handlersOn n ≤ w.service.link.handlersOn n) ↔
      ∀ n c, .consented n c ∈ since w v → c = .denied := by
  obtain ⟨es, hl, hs⟩ := h
  have hes : since w v = es := by
    unfold since
    rw [hl, List.drop_left]
  have hmem (n : Nat) (c : Consent) : .consented n c ∈ es ↔ .asked n c ∈ handlings es := by
    unfold handlings
    rw [List.mem_filterMap]
    constructor
    · exact fun he => ⟨_, he, rfl⟩
    · rintro ⟨e, he, hc⟩
      cases e <;> cases hc
      exact he
  rw [hes]
  simp only [hmem]
  rw [← lasting_eq_zero]
  refine forall_congr' fun n => ?_
  rw [hs, List.count_nil]
  omega

end

end Client

end BluetoothControl
