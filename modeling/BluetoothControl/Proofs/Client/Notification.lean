import BluetoothControl.Proofs.Client.Sound

/-!
# Whether notifications reach everyone, once

With anyone subscribed and a connection in use, announcements reach every live subscriber exactly if
that connection is the one for which notifications were granted last.  Nobody is told twice, and no
handler is left where nobody is subscribed, exactly if interrupted requests and those in force do
not come together on one connection.
-/

namespace BluetoothControl.Client

open Procedure Handling

/-- Every announcement is told to these, in turn. -/
def Tells (w : World Client) (es : List (Nat × Subscriber)) : Prop :=
  ∀ s path props, announcement? s = some (path, .dict props) →
    signal s w = (.ok (), (forEach (tell path props) es w).2)

/-- If anyone is subscribed and a connection is in use, it is the recorded one, it carries the
handler, it accepted the request for notifications, and announcements reach every live
subscriber. -/
def Listens (w : World Client) : Prop :=
  w.service.subscriptions ≠ [] → ∀ n, w.service.openBus? = some n →
    w.service.signalBus = some n ∧ 0 < w.service.link.handlersOn n ∧
      Accepted w.log n ∧
      Tells w w.service.told ∧ ∀ e ∈ w.service.subscriptions, e ∈ w.service.told

/-- Every connection carries the handler at most once, none that is up carries it while nobody is
subscribed, and an announcement is told to no live subscription twice. -/
def Undoubled (w : World Client) : Prop :=
  (∀ n, w.service.link.handlersOn n ≤ 1) ∧
  (w.service.subscriptions = [] →
    ∀ n, w.service.link.isConnected n = true → w.service.link.handlersOn n = 0) ∧
  Tells w w.service.told ∧ (w.service.told.map (·.1)).Nodup

section
variable {k : Nat} {w : World Client} {n : Nat}

theorem Sound.tells (h : Sound k [] w) : Tells w w.service.told :=
  fun _ _ _ ha => signal_tells h.running ha

/-- Connections that nobody holds do not have the handler, so only those on the connection in use
count. -/
theorem Sound.registrations_of_openBus? (h : Sound k [] w) (hn : w.service.openBus? = some n) :
    w.service.link.registrations = w.service.link.handlersOn n := by
  obtain ⟨hb, hc⟩ := openBus?_eq_some.mp hn
  rw [Link.registrations_eq (n := n), if_pos hc]
  intro m hm hne
  refine (h.wired.bare m ((h.wired.single m hm).resolve_left fun hm' => hne ?_)).2
  exact Option.some.inj (hm'.symm.trans hb)

theorem Sound.registrations_of_down (h : Sound k [] w) (hn : w.service.openBus? = none) :
    w.service.link.registrations = 0 := by
  have hbare {m : Nat} (hm : w.service.link.isConnected m = true) :
      w.service.link.handlersOn m = 0 := (h.wired.bare m (h.wired.stray_of_up hn hm)).2
  rw [Link.registrations_eq (n := 0) fun m hm _ => hbare hm]
  split
  · next hc => exact hbare hc
  · rfl

theorem mem_told {c : Client} (h : 0 < c.link.registrations) {e : Nat × Subscriber}
    (he : e ∈ c.subscriptions) : e ∈ c.told :=
  List.mem_flatten.mpr ⟨c.subscriptions, List.mem_replicate.mpr ⟨Nat.ne_of_gt h, rfl⟩, he⟩

theorem nodup_told {c : Client} {log : List Event} (hw : Wired [] c log)
    (h : c.link.registrations ≤ 1) : (c.told.map (·.1)).Nodup := by
  unfold told
  cases hr : c.link.registrations with
  | zero => exact List.nodup_nil
  | succ r =>
    have : r = 0 := by omega
    rw [this, List.replicate_one, List.flatten_singleton]
    exact hw.distinct

/-- On each connection the handlers are those of interrupted requests and of requests in force. -/
theorem Sound.ledger (h : Sound k [] w) (n : Nat) : w.service.link.handlersOn n =
    interruptions (handlings w.log) n + inForce (handlings w.log) n := h.wired.ledger n

end

/-- After any run a client that can listen does so exactly if, with anyone subscribed, the
connection in use is the one for which notifications were granted last, and the handler was not
taken off it since. -/
theorem listens_iff (loop : String) (callTimeout : Seconds) (moves : List Move) :
    let w := (run moves (fresh loop callTimeout)).2
    Listens w ↔
      (w.service.subscriptions ≠ [] → ∀ n, w.service.openBus? = some n →
        lastGranted (handlings w.log) = some n) := by
  intro w
  have h : Sound 0 [] w := sound_run loop callTimeout moves
  constructor
  · intro hl hs n hn
    exact h.wired.recorded.symm.trans (hl hs n hn).1
  · intro hl hs n hn
    have hlast := hl hs n hn
    have hr : w.service.signalBus = some n := h.wired.recorded.trans hlast
    have hon : 0 < w.service.link.handlersOn n := by
      rw [h.ledger]
      exact Nat.add_pos_right _ (inForce_pos hlast)
    refine ⟨hr, hon, (h.wired.placed n hr).2.2.2 (openBus?_eq_some.mp hn).1, h.tells,
      fun e he => mem_told ?_ he⟩
    rw [h.registrations_of_openBus? hn]
    exact hon

/-- A connection lost, and the handler refused on the next one: the client keeps that connection and
answers on it, but no longer listens. -/
theorem not_listens_refused :
    let r := run
      [.outlook [] [{ delivery := .answered (.returned []) }] none,
        .command (.subscribe (.callback "s1" .none)),
        .drop 1,
        .outlook [] [{ delivery := .answered (.refused
          ⟨some "org.freedesktop.DBus.Error.AccessDenied", .list [.text "denied"]⟩) }] none,
        .command (.getPowered "/org/bluez/hci0"),
        .outlook [] (List.replicate 2 { delivery := .answered (.returned [.bool true]) }) none,
        .command (.getPowered "/org/bluez/hci0")]
      (fresh "test" (.whole 10))
    r.1.getLast?.any (·.outcome matches .ok (.flag true)) = true ∧
      r.2.log.getLast?.any (· matches .resolved 2 _ (.answered (.returned [.bool true]))) = true ∧
      ¬ Listens r.2 := by
  intro r
  refine ⟨by decide +kernel, by decide +kernel, fun h => ?_⟩
  have hr := (h (by decide +kernel) 2 (by decide +kernel)).1
  exact absurd hr (by decide +kernel)

end BluetoothControl.Client
