import BluetoothControl.Proofs.Client.Effect
import BluetoothControl.Proofs.Procedure

/-!
# Whom a notification reaches

An incoming announcement is told to `told`: every live subscriber in turn, once for each
registration of the handler on a connection that is up (`signal_tells`).  Nobody who is told can
stop that or touch the client.
-/

namespace BluetoothControl

namespace DiscoverySession

/-- What can be wrong with a path is no cancellation. -/
theorem isOrdinary_of_hear_error {s : DiscoverySession} {adapter : String} {path props : Value}
    {f : Failure} (h : s.hear adapter path props = .error f) : f.kind.isOrdinary = true := by
  have hp : ownPath? adapter path = .error f := by
    unfold hear at h
    cases hp : ownPath? adapter path with
    | error g =>
      rw [hp] at h
      cases h
      rfl
    | ok own =>
      rw [hp] at h
      dsimp only [bind, Except.bind] at h
      split at h
      · cases h
      · cases h
  cases path with
  | text p => cases hp
  | bytes b =>
    cases hp
    rfl
  | _ =>
    cases hp
    rfl

end DiscoverySession

namespace Link

/-- The registrations on connections add up. -/
def total (bs : List Bus) : Nat := (bs.filter (·.connected)).foldl (fun n b => n + b.handlers) 0

theorem total_cons (b : Bus) (bs : List Bus) :
    total (b :: bs) = (if b.connected then b.handlers else 0) + total bs := by
  have hstart (cs : List Bus) (a : Nat) :
      cs.foldl (fun n b => n + b.handlers) a = a + cs.foldl (fun n b => n + b.handlers) 0 := by
    induction cs generalizing a with
    | nil => rfl
    | cons c cs ih =>
      rw [List.foldl_cons, List.foldl_cons, ih, ih (0 + c.handlers)]
      omega
  unfold total
  cases hb : b.connected with
  | true =>
    rw [List.filter_cons_of_pos hb, List.foldl_cons, hstart]
    simp
  | false =>
    rw [List.filter_cons_of_neg (by simp [hb])]
    simp

/-- If of the connections that are up only the one of index `k` has the handler, its registrations
are all there are. -/
theorem total_eq {bs : List Bus} {k : Nat}
    (h : ∀ j b, bs[j]? = some b → b.connected = true → j ≠ k → b.handlers = 0) :
    total bs = match bs[k]? with
      | some b => if b.connected then b.handlers else 0
      | none => 0 := by
  have hbare {b : Bus} (hb : b.connected = true → b.handlers = 0) :
      (if b.connected then b.handlers else 0) = 0 := by
    split
    · next hc => exact hb hc
    · rfl
  induction bs generalizing k with
  | nil => rfl
  | cons b rest ih =>
    rw [total_cons]
    cases k with
    | zero =>
      have hr : total rest = 0 := by
        refine (ih (k := rest.length) fun j c hj hc _ => ?_).trans ?_
        · exact h (j + 1) c hj hc (Nat.succ_ne_zero j)
        · rw [List.getElem?_eq_none (Nat.le_refl _)]
      rw [hr]
      rfl
    | succ k =>
      rw [hbare fun hc => h 0 b rfl hc (Nat.succ_ne_zero k).symm, Nat.zero_add]
      exact ih fun j c hj hc hjk => h (j + 1) c hj hc fun e => hjk (Nat.succ.inj e)

/-- If of the connections that are up only one has the handler, its registrations are all there
are. -/
theorem registrations_eq {l : Link} {n : Nat}
    (h : ∀ m, l.isConnected m = true → m ≠ n → l.handlersOn m = 0) :
    l.registrations = if l.isConnected n then l.handlersOn n else 0 := by
  have hup : ∀ j b, l.buses[j]? = some b → b.connected = true → j + 1 ≠ n → b.handlers = 0 := by
    intro j b hj hb hn
    have ho := h (j + 1) ((l.isConnected_iff (j + 1)).mpr ⟨b, hj, hb⟩) hn
    change ((l.buses[j]?).map (·.handlers)).getD 0 = 0 at ho
    rw [hj] at ho
    exact ho
  change total l.buses = _
  cases n with
  | zero =>
    rw [total_eq (k := l.buses.length) fun j b hj hb _ => hup j b hj hb (Nat.succ_ne_zero j),
      List.getElem?_eq_none (Nat.le_refl _)]
    rfl
  | succ k =>
    rw [total_eq (k := k) fun j b hj hb hk => hup j b hj hb fun e => hk (Nat.succ.inj e)]
    show _ = if ((l.buses[k]?).map (·.connected)).getD false = true then
      ((l.buses[k]?).map (·.handlers)).getD 0 else 0
    cases l.buses[k]? with
    | none => rfl
    | some b => rfl

end Link

namespace Client

open Procedure

/-- The client and the loop are those of `u`, and there was no traffic since. -/
def Still (u w : World Client) : Prop :=
  w.service = u.service ∧ w.loop = u.loop ∧ ∃ es, w.log = u.log ++ es ∧ Silent es

theorem still_refl (w : World Client) : Still w w :=
  ⟨rfl, rfl, [], (List.append_nil _).symm, silent_nil⟩

section
variable {u w : World Client}

theorem still_observe {ε : Type} {e : Event} (he : e.isTraffic = false) :
    Keeps (Still u) (World.observe e : Procedure ε (World Client) Unit) := by
  rintro w ⟨hc, hl, es, hlog, hs⟩
  refine ⟨hc, hl, es ++ [e], ?_, silent_append.mpr ⟨hs, silent_singleton he⟩⟩
  rw [World.observe_apply, World.after_log, hlog, List.append_assoc]

theorem still_reenter : Keeps (Still u) reenter :=
  keeps_bind (fun _ h => h) fun _ =>
    keeps_bind (still_observe rfl) fun _ => keeps_bind (still_observe rfl) fun _ => keeps_throw _

/-- A subscriber does nothing to the client or the loop. -/
theorem still_deliver (path : Value) (props : Props) (s : Subscriber) :
    Keeps (Still u) (deliver path props s) := by
  refine keeps_ignoring ?_
  cases s with
  | callback label reaction =>
    refine keeps_bind (still_observe rfl) fun _ => ?_
    cases reaction with
    | none => exact keeps_pure _
    | fails => exact keeps_throw _
    | reenters => exact still_reenter
  | session number adapter =>
    exact keeps_bind keeps_get fun w => keeps_bind (keeps_ofExcept _) fun _ => fun _ h => h

/-- No subscriber gets in the way of the next. -/
theorem deliver_ok (path : Value) (props : Props) (s : Subscriber) (w : World Client) :
    (deliver path props s w).1 = .ok () := by
  cases s with
  | callback label reaction => cases reaction <;> rfl
  | session number adapter =>
    show (ignoring _ (World.announceTo number adapter path (.dict props)) w).1 = _
    unfold World.announceTo
    rw [ignoring_apply, bind_ok (get_apply w), bind_apply, ofExcept_apply]
    cases hh : (w.session number).hear adapter path (.dict props) with
    | ok s => rfl
    | error f =>
      dsimp only
      rw [DiscoverySession.isOrdinary_of_hear_error hh]
      rfl

theorem still_handle (s : Signal) : Keeps (Still u) (handle s) := by
  rw [handle_eq]
  split
  · exact keeps_pure _
  · exact keeps_bind (fun _ h => h) fun _ => keeps_forEach (fun _ => still_deliver _ _ _) _
  · exact keeps_throw _

theorem require_apply (h : w.Running) :
    discard (World.onLoop EventLoop.require) w = ((.ok (), w) : Except Failure Unit × _) := by
  obtain ⟨name, hl⟩ := h
  have hr : World.onLoop EventLoop.require w =
      ((.ok {}, { w with loop := { name, current := some {} }, log := w.log ++ [] }) :
        Except Failure LoopThread × _) := by
    unfold World.onLoop
    rw [hl]
    rfl
  rw [discard_apply, hr, List.append_nil, ← hl]
  rfl

/-- Every live subscriber in turn, once for each registration of the handler. -/
def told (c : Client) : List (Nat × Subscriber) :=
  (List.replicate c.link.registrations c.subscriptions).flatten

/-- A live subscription is told of a device. -/
def tell (path : Value) (props : Props) (e : Nat × Subscriber) : Action Client Unit :=
  deliver path (Props.unwrap props) e.2

theorem handle_apply {s : Signal} {path : Value} {props : Props}
    (ha : announcement? s = some (path, .dict props)) (w : World Client) :
    handle s w = forEach (tell path props) w.service.subscriptions w := by
  rw [handle_eq, ha]
  exact bind_ok (current_apply w)

theorem forEach_tell_ok (path : Value) (props : Props) (es : List (Nat × Subscriber))
    (w : World Client) : (forEach (tell path props) es w).1 = .ok () :=
  forEach_ok (f := tell path props) (fun e => deliver_ok path (Props.unwrap props) e.2) es w

/-- One registration after the other finds the same subscriptions. -/
theorem forEach_handle {s : Signal} {path : Value} {props : Props}
    (ha : announcement? s = some (path, .dict props)) (r : Nat) (w : World Client) :
    forEach (fun _ => handle s) (List.replicate r ()) w =
      forEach (tell path props) (List.replicate r w.service.subscriptions).flatten w := by
  induction r generalizing w with
  | zero => rfl
  | succ r ih =>
    have hok := forEach_tell_ok path props w.service.subscriptions w
    have hstill : Still w _ :=
      keeps_forEach (fun e => still_deliver path (Props.unwrap props) e.2)
        w.service.subscriptions w (still_refl w)
    have hh := handle_apply ha w
    rw [List.replicate_succ, List.replicate_succ, List.flatten_cons, forEach_append]
    show (handle s >>= fun _ => forEach (fun _ => handle s) (List.replicate r ())) w = _
    rcases hv : forEach (tell path props) w.service.subscriptions w with ⟨x, v⟩
    change Still _ (forEach (tell path props) w.service.subscriptions w).2 at hstill
    rw [hv] at hok hstill hh
    cases hok
    rw [bind_ok hh, bind_ok hv, ih v, hstill.1]

/-- An announcement is told to every live subscriber, once for each registration, and nothing that
a subscriber does keeps it from the others. -/
theorem signal_tells {s : Signal} {path : Value} {props : Props} (h : w.Running)
    (ha : announcement? s = some (path, .dict props)) :
    signal s w = (.ok (), (forEach (tell path props) w.service.told w).2) := by
  unfold signal
  rw [bind_ok (require_apply h), bind_ok (current_apply w), forEach_handle ha]
  exact Prod.ext (forEach_tell_ok ..) rfl

/-- An incoming message does nothing to the client or the loop. -/
theorem still_signal (h : w.Running) (s : Signal) : Still w (signal s w).2 := by
  unfold signal
  rw [bind_ok (require_apply h), bind_ok (current_apply w)]
  exact keeps_forEach (fun _ => still_handle s) _ w (still_refl w)

end

end Client

end BluetoothControl
