import BluetoothControl.Lookup
import BluetoothControl.Proofs.Controller.Keeps

/-!
# Controllers in order

On the bus a controller stays in order, whatever happens to it: the bound on the client's calls is
the first one, devices are known by canonical addresses and have names, and the scans' subscribers
write to sessions that were begun.
-/

namespace BluetoothControl

open Procedure

/-! ## Sessions -/

namespace DiscoverySession

/-- Every device noted has a canonical address and a name. -/
def IsSound (s : DiscoverySession) : Prop :=
  ∀ e ∈ s.devices, Address.isCanonical e.1.toList = true ∧ e.2.truth = true

theorem isSound_add {s : DiscoverySession} (h : s.IsSound) {address : String}
    (ha : Address.isCanonical address.toList = true) (name : Value) :
    (s.add address name).IsSound := by
  intro e he
  change e ∈ s.devices.note address (nameOf name) at he
  unfold Roster.note at he
  split at he
  · exact h e he
  · rcases List.mem_append.mp he with he | he
    · exact h e he
    · rw [List.mem_singleton.mp he]
      exact ⟨ha, truth_nameOf name⟩

theorem isCanonical_of_announced? {props : Value} {e : String × Value}
    (h : announced? props = some e) : Address.isCanonical e.1.toList = true := by
  unfold announced? at h
  split at h
  · split at h
    · obtain ⟨a, ha, rfl⟩ := Option.map_eq_some_iff.mp h
      exact Address.isCanonical_of_normalize (eq_ok_of_toOption ha)
    · cases h
  · cases h

/-- What an announcement does to a session, if its path can be one. -/
theorem hear_eq (adapter : String) (path props : Value) (s : DiscoverySession) :
    s.hear adapter path props =
      (ownPath? adapter path).map fun own =>
        match own, announced? props with
        | some _, some e => s.add e.1 e.2
        | _, _ => s := by
  unfold hear
  cases ownPath? adapter path with
  | error f => rfl
  | ok own =>
    cases own with
    | none => rfl
    | some p =>
      cases announced? props with
      | none => rfl
      | some e => rfl

/-- A session that hears an announcement stays, or notes the device that is announced. -/
theorem eq_of_hear {s t : DiscoverySession} {adapter : String} {path props : Value}
    (h : s.hear adapter path props = .ok t) :
    t = s ∨ ∃ e, announced? props = some e ∧ t = s.add e.1 e.2 := by
  rw [hear_eq] at h
  cases ho : ownPath? adapter path with
  | error f =>
    rw [ho] at h
    cases h
  | ok own =>
    rw [ho] at h
    cases h
    dsimp only
    split
    · next he => exact Or.inr ⟨_, he, rfl⟩
    · exact Or.inl rfl

theorem isSound_hear {s t : DiscoverySession} {adapter : String} {path props : Value}
    (h : s.IsSound) (ht : s.hear adapter path props = .ok t) : t.IsSound := by
  obtain rfl | ⟨e, he, rfl⟩ := eq_of_hear ht
  · exact h
  · exact isSound_add h (isCanonical_of_announced? he) _

end DiscoverySession

theorem session_eq {w : World Client} {k : Nat} {s : DiscoverySession}
    (hs : w.sessions[k]? = some s) : w.session k = s := by
  unfold World.session
  rw [List.getD_eq_getElem?_getD, hs]
  rfl

/-! ## The loop -/

/-- What a thread that ends has to tell is no traffic. -/
theorem EventLoop.silent_ending {l : EventLoop} (h : l.log = []) (t : LoopThread) :
    Silent (l.ending t).log := by
  refine silent_append.mpr ⟨h ▸ silent_nil, ?_⟩
  intro e he
  obtain ⟨j, -, rfl⟩ := List.mem_map.mp he
  rfl

theorem EventLoop.silent_kill {l : EventLoop} (h : l.log = []) :
    Silent (EventLoop.kill l).2.log := by
  rw [EventLoop.kill_state]
  cases l.current with
  | none => exact h ▸ silent_nil
  | some t =>
    dsimp only
    split
    · exact h ▸ silent_nil
    · exact EventLoop.silent_ending (l := { l with current := none }) h t

theorem EventLoop.silent_stop (bound : Seconds) {l : EventLoop} (h : l.log = []) :
    Silent (EventLoop.stop bound l).2.log := by
  cases hc : l.current with
  | none =>
    rw [EventLoop.stop_none hc]
    exact h ▸ silent_nil
  | some t =>
    rw [EventLoop.stop_some hc]
    split
    · exact h ▸ silent_nil
    · exact EventLoop.silent_ending (l := { l with current := none }) h t

/-! ## The order -/

/-- The world of an adapter's controller is in order. -/
structure Orderly (adapter : String) (own : Seconds) (w : World Client) : Prop where
  bound : w.service.callTimeout = own
  loop : w.loop.name = adapter ∧ w.loop.log = []
  host : w.host.log = [] ∧ w.host.PrintsText
  connections : ∀ k ∈ w.connections, ∃ address, Address.isCanonical address.toList = true ∧
    k.path = ObjectPath.ofDevice address adapter
  sessions : ∀ s ∈ w.sessions, s.IsSound
  subscribers : ∀ e ∈ w.service.subscriptions, ∀ k a, e.2 = .session k a →
    k < w.sessions.length ∧ a = adapter

/-- The world is in order and a session was begun. -/
structure OrderlyWith (session : Nat) (adapter : String) (own : Seconds) (w : World Client) :
    Prop where
  orderly : Orderly adapter own w
  begun : session < w.sessions.length

variable {adapter : String} {own : Seconds} {k : Nat} {w v : World Client}

theorem Orderly.of_within (h : Orderly adapter own w) (hv : Client.Within (fun _ => False) w v) :
    Orderly adapter own v := by
  obtain ⟨c, es, rfl, ht, hs⟩ := hv
  exact { h with
    bound := ht.trans h.bound
    subscribers := fun e he => h.subscribers e ((hs e he).resolve_right id) }

/-- A session that is changed for one as sound leaves the order as it is. -/
theorem Orderly.changeSession (h : Orderly adapter own w) {f : DiscoverySession → DiscoverySession}
    (hf : ∀ s, w.sessions[k]? = some s → (f s).IsSound) :
    Orderly adapter own { w with sessions := w.sessions.modify k f } := by
  refine { h with sessions := forall_mem_modify h.sessions hf, subscribers := fun e he => ?_ }
  rw [List.length_modify]
  exact h.subscribers e he

theorem orderlyWith_add {address : String} (ha : Address.isCanonical address.toList = true)
    (j : Nat) (name : Value) :
    Keeps (OrderlyWith k adapter own) (World.changeSession j fun s => s.add address name) := by
  intro w h
  refine ⟨h.orderly.changeSession fun s hs => ?_, ?_⟩
  · exact DiscoverySession.isSound_add
      (h.orderly.sessions s (List.mem_of_getElem? hs)) ha name
  · show k < (w.sessions.modify j _).length
    rw [List.length_modify]
    exact h.begun

theorem minds_orderlyWith : Client.service.Minds (OrderlyWith k adapter own) := by
  refine Client.minds_service fun w v hv h => ⟨h.orderly.of_within hv, ?_⟩
  obtain ⟨c, es, rfl, -⟩ := hv
  exact h.begun

theorem minds_orderly : Client.service.Minds (Orderly adapter own) :=
  Client.minds_service fun _ _ hv h => h.of_within hv

theorem steady_orderly : Steady adapter (Orderly adapter own) where
  observe _ _ _ h := { h with }
  wakeAll _ h := { h with }
  handOut address timeout ha w h := by
    refine { h with connections := fun k hk => ?_ }
    rcases List.mem_append.mp hk with hk | hk
    · exact h.connections k hk
    · rw [List.mem_singleton.mp hk]
      exact ⟨address, ha, rfl⟩
  onHost _ _ hp w h := { h with host := ⟨rfl, hp w.host h.host.2⟩ }

/-- A step of the loop leaves it its name. -/
theorem orderly_onLoop {α : Type} {p : LoopAction α} (hp : ∀ l, (p l).2.name = l.name) :
    Keeps (Orderly adapter own) (World.onLoop p) := fun w h =>
  { h with loop := ⟨(hp w.loop).trans h.loop.1, rfl⟩ }

theorem orderly_announceTo (number : Nat) (a : String) (path props : Value) :
    Keeps (Orderly adapter own) (World.announceTo number a path props) := by
  intro w h
  unfold World.announceTo
  rw [bind_ok (get_apply w), bind_apply, ofExcept_apply]
  cases hh : (w.session number).hear a path props with
  | error f => exact h
  | ok t =>
    refine h.changeSession fun s hs => DiscoverySession.isSound_hear ?_ hh
    rw [session_eq hs]
    exact h.sessions s (List.mem_of_getElem? hs)

theorem orderly_signal (s : Signal) : Keeps (Orderly adapter own) (Client.signal s) :=
  Client.keeps_signal steady_orderly.observe orderly_announceTo
    (orderly_onLoop fun l => congrArg EventLoop.name l.require_loop) s

theorem calm_orderly : Calm (Orderly adapter own) where
  changeLink _ _ h := { h with }
  kill := orderly_onLoop EventLoop.name_kill

/-- The subscriber of a session that was begun. -/
theorem orderlyWith_subscribe :
    Keeps (OrderlyWith k adapter own) (Client.subscribe (.session k adapter)) := by
  intro w h
  obtain ⟨c, es, hv, ht, hs⟩ := Client.within_subscribe (A := (· = .session k adapter)) rfl w
    (Client.within_refl w)
  rw [hv]
  refine ⟨{ h.orderly with bound := ht.trans h.orderly.bound, subscribers := ?_ }, h.begun⟩
  intro e he j a hj
  rcases hs e he with he | he
  · exact h.orderly.subscribers e he j a hj
  · rw [he] at hj
    cases hj
    exact ⟨h.begun, rfl⟩

/-- The same, asked of the service. -/
theorem orderlyWith_serve :
    Keeps (OrderlyWith k adapter own) (Client.service.subscribe (.session k adapter)) :=
  keeps_map _ (keeps_bind orderlyWith_subscribe fun _ => keeps_pure _)

/-! ## Moves -/

namespace Controller

variable {name : String} {config : Config} {owns : Bool}

/-- A session is begun. -/
theorem orderly_openSession (timeout : Seconds) (h : Orderly adapter own w) :
    OrderlyWith w.sessions.length adapter own
      { w with sessions := w.sessions ++ [{ timeout }] } := by
  refine ⟨{ h with sessions := fun s hs => ?_, subscribers := fun e he j a hj => ?_ }, ?_⟩
  · rcases List.mem_append.mp hs with hs | hs
    · exact h.sessions s hs
    · rw [List.mem_singleton.mp hs]
      exact fun e he => by cases he
  · obtain ⟨hlt, ha⟩ := h.subscribers e he j a hj
    refine ⟨?_, ha⟩
    rw [List.length_append]
    exact Nat.lt_add_right _ hlt
  · simp

theorem orderlyWith_noteKnown :
    Keeps (OrderlyWith k name own) ((onBus name config owns).noteKnown k) :=
  keeps_noteKnown (c := onBus name config owns) minds_orderlyWith.reads fun _ n ha =>
    orderlyWith_add ha k n

theorem orderly_enroll (timeout : Seconds) :
    Keeps (Orderly name own) ((onBus name config owns).enroll timeout) := by
  intro w h
  rw [enroll_eq]
  change Orderly name own (((onBus name config owns).noteKnown w.sessions.length >>= fun _ => _)
    { w with sessions := w.sessions ++ [{ timeout }] }).2
  exact (keeps_bind orderlyWith_noteKnown
    (fun _ => keeps_bind orderlyWith_serve fun _ => keeps_pure _) _
    (orderly_openSession timeout h)).orderly

theorem orderly_embark (s : Scan) : Keeps (Orderly name own) ((onBus name config owns).embark s) :=
  keeps_embark (c := onBus name config owns) minds_orderly.unchecked
    (keeps_startDiscovery minds_orderly) steady_orderly s

theorem orderly_finishScan (s : Scan) :
    Keeps (Orderly name own) ((onBus name config owns).finishScan s) := by
  refine keeps_finishScan (c := onBus name config owns) minds_orderly.unchecked
    (fun j found w h => ?_) s
  exact h.changeSession fun t ht => h.sessions t (List.mem_of_getElem? ht)

theorem orderly_close : Keeps (Orderly name own) (onBus name config owns).close :=
  keeps_close (c := onBus name config owns) (checked_of_minds minds_orderly steady_orderly)
    minds_orderly.close
    (fun _ h => { h with }) fun bound => orderly_onLoop (EventLoop.name_stop bound)

theorem orderly_act {m : Move} {l : Life} (h : Orderly name own l.world) :
    Orderly name own ((onBus name config owns).act l m).world :=
  keeps_act (c := onBus name config owns) minds_orderly.unchecked
    (checked_of_minds minds_orderly steady_orderly) steady_orderly calm_orderly
    orderly_enroll orderly_finishScan orderly_close (fun s _ => orderly_signal s) h

theorem orderly_first (link : Link) : Orderly name own (Life.first name link own).world where
  bound := rfl
  loop := ⟨rfl, rfl⟩
  host := ⟨rfl, fun _ h => (nomatch h)⟩
  connections k hk := by cases hk
  sessions s hs := by cases hs
  subscribers e he := by cases he

/-- After every run a controller is in order. -/
theorem orderly_run (link : Link) (ms : List Move) :
    Orderly name own ((onBus name config owns).run ms (.first name link own)).world :=
  keeps_run orderly_act (orderly_first link) ms

end Controller

end BluetoothControl
