import BluetoothControl.Proofs.Client.Sound

/-!
# What a client's operations leave alone

Besides the log an operation of a client changes the client and nothing else: no session, no
connection handed out, not the loop.  The bound on its calls stays as it is, and nobody is
subscribed afterwards who was not before, unless the operation is to subscribe somebody.
-/

namespace BluetoothControl.Client

open Procedure

/-- From `w` to `v` the client did something, and only subscribers with `A` are new. -/
def Within (A : Subscriber → Prop) (w v : World Client) : Prop :=
  ∃ c es, v = w.after c es ∧ c.callTimeout = w.service.callTimeout ∧
    ∀ e ∈ c.subscriptions, e ∈ w.service.subscriptions ∨ A e.2

variable {α : Type} {A : Subscriber → Prop} {w : World Client}

theorem within_refl (w : World Client) : Within A w w :=
  ⟨w.service, [], by rw [World.after, List.append_nil], rfl, fun _ h => Or.inl h⟩

theorem within_observe (e : Event) {v : World Client} (h : Within A w v) :
    Within A w (v.after v.service [e]) := by
  obtain ⟨c, es, rfl, hc⟩ := h
  refine ⟨c, es ++ [e], ?_, hc⟩
  rw [World.after_service, World.after_after]

theorem within_change (f : Client → Client) (ht : ∀ c, (f c).callTimeout = c.callTimeout)
    (hs : ∀ c, ∀ e ∈ (f c).subscriptions, e ∈ c.subscriptions ∨ A e.2) {v : World Client}
    (h : Within A w v) : Within A w (v.after (f v.service) []) := by
  obtain ⟨c, es, rfl, hc, hsub⟩ := h
  refine ⟨f c, es, ?_, (ht c).trans hc, fun e he => ?_⟩
  · rw [World.after_after, List.append_nil]
    rfl
  · rcases hs c e he with he | he
    · exact hsub e he
    · exact Or.inr he

theorem withstands_within : Withstands A (Within A w) :=
  withstands_of_observe (fun f hf _ => within_change f (fun c => (hf.1 c).1) hf.2)
    fun e _ _ => within_observe e

theorem within_pace : Unhurried (Within A w) := fun hasty _ =>
  within_change (fun c => c.withLink (c.link.pace hasty)) (fun _ => rfl) fun _ _ => Or.inl

theorem within_obtainBus : Keeps (Within A w) obtainBus := keeps_obtainBus withstands_within.inert

theorem within_exchange (n : Nat) (m : Message) (context : String) :
    Keeps (Within A w) (exchange n m context) := by
  intro v h
  rw [exchange_apply]
  have hv := within_observe (.sent n m)
    (within_change (fun c => c.withLink (c.link.nextReply n).2) (fun _ => rfl)
      (fun _ _ => Or.inl) h)
  have hr := within_observe (.resolved n m (v.service.link.nextReply n).1) hv
  rw [World.after_after, World.after_after] at hr
  exact hr

theorem within_call (m : Message) (context : String) : Keeps (Within A w) (call m context) :=
  keeps_bind within_obtainBus fun n => within_exchange n m context

theorem within_unsubscribeTask (handle : Value) : Keeps (Within A w) (unsubscribeTask handle) :=
  keeps_unsubscribeTask withstands_within.retain
    (keeps_uninstallHandler withstands_within.inert) handle

/-! ## Calls from other threads -/

theorem upholds_within : Upholds (Within A w) where
  called _ _ h := within_observe _ h
  pace := within_pace
  call m context _ := within_call m context

theorem within_close : Keeps (Within A w) close := keeps_close withstands_within within_pace

theorem within_subscribe {s : Subscriber} (hs : A s) : Keeps (Within A w) (subscribe s) :=
  keeps_subscribe withstands_within within_pace hs

end BluetoothControl.Client
