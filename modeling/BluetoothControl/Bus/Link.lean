import BluetoothControl.Bus.Message
import BluetoothControl.World

/-!
# The system bus

Connections to the system bus, numbered from one in the order in which they were opened.  How the
next connection attempts and the next replies turn out is data; an attempt without an outcome
succeeds, a message without one finds the stream at its end.
-/

namespace BluetoothControl

/-- How an attempt to connect turns out. -/
inductive ConnectOutcome
  | opens
  /-- The connection is down again by the time the attempt ends. -/
  | opensDown
  /-- The attempt ends only as whoever made it gives up, and nobody holds the connection. -/
  | strays
  | fails (failure : Failure)
  /-- The attempt never ends by itself. -/
  | hangs
  deriving Repr, Inhabited

/-- To whoever has no time to wait, an attempt ends only if it fails. -/
def ConnectOutcome.hurried : ConnectOutcome → ConnectOutcome
  | fails failure => fails failure
  | _ => hangs

/-- How a message fares, and whether its connection drops meanwhile. -/
structure ScriptedReply where
  delivery : Delivery
  drops : Bool := false
  deriving Repr, Inhabited

/-- A connection to the bus. -/
structure Bus where
  connected : Bool := true
  /-- How often the notification handler is registered on it. -/
  handlers : Nat := 0
  deriving Repr, Inhabited, DecidableEq

/-- The system bus as a client finds it. -/
structure Link where
  /-- The next attempts to connect. -/
  connects : List ConnectOutcome := []
  /-- The next replies. -/
  replies : List ScriptedReply := []
  /-- What closing a connection fails with. -/
  disconnectFailure : Option Failure := none
  /-- The connections opened so far. -/
  buses : List Bus := []
  /-- Whoever uses the bus now has no time to wait for anything. -/
  hasty : Bool := false
  deriving Repr, Inhabited

namespace Link

/-- The connection of a number. -/
def bus? (l : Link) (n : Nat) : Option Bus :=
  match n with
  | 0 => none
  | k + 1 => l.buses[k]?

/-- Whether a connection is up. -/
def isConnected (l : Link) (n : Nat) : Bool := ((l.bus? n).map (·.connected)).getD false

/-- How often the notification handler is registered on a connection. -/
def handlersOn (l : Link) (n : Nat) : Nat := ((l.bus? n).map (·.handlers)).getD 0

/-- A connection changes. -/
def change (l : Link) (n : Nat) (f : Bus → Bus) : Link :=
  match n with
  | 0 => l
  | k + 1 => { l with buses := l.buses.modify k f }

/-- The bus with time to wait for it, or without. -/
def pace (l : Link) (hasty : Bool) : Link := { l with hasty }

/-- A connection goes down. -/
def drop (l : Link) (n : Nat) : Link := l.change n fun b => { b with connected := false }

/-- The newest connection goes down. -/
def dropNewest (l : Link) : Link := if l.buses.isEmpty then l else l.drop l.buses.length

/-- The handler is registered once more. -/
def addHandler (l : Link) (n : Nat) : Link :=
  l.change n fun b => { b with handlers := b.handlers + 1 }

/-- One registration of the handler is taken back, if there is one. -/
def removeHandler (l : Link) (n : Nat) : Link :=
  l.change n fun b => { b with handlers := b.handlers - 1 }

/-- How an attempt to connect turns out for whoever makes it. -/
def paceConnect (l : Link) (c : ConnectOutcome) : ConnectOutcome := if l.hasty then c.hurried else c

/-- The next attempt to connect. -/
def nextConnect (l : Link) : ConnectOutcome × Link :=
  match l.connects with
  | [] => (l.paceConnect .opens, l)
  | c :: rest => (l.paceConnect c, { l with connects := rest })

/-- A new connection, and its number. -/
def opened (l : Link) : Nat × Link :=
  (l.buses.length + 1, { l with buses := l.buses ++ [{}] })

/-- What a message finds when no reply is left. -/
def endOfReplies : Failure := .foreign .endOfStream "no scripted reply" none

/-- How the next message on a connection fares. -/
def nextReply (l : Link) (n : Nat) : Delivery × Link :=
  match l.replies with
  | [] => (.fails endOfReplies, l)
  | r :: rest =>
    let l := { l with replies := rest }
    (if l.hasty then r.delivery.hurried else r.delivery, if r.drops then l.drop n else l)

/-- How often a notification is handled: once for each registration on a connection that is up. -/
def registrations (l : Link) : Nat :=
  (l.buses.filter (·.connected)).foldl (fun n b => n + b.handlers) 0

/-! ## Lemmas -/

theorem bus?_change (l : Link) (n m : Nat) (f : Bus → Bus) :
    (l.change n f).bus? m = if m = n then (l.bus? m).map f else l.bus? m := by
  cases n with
  | zero =>
    cases m with
    | zero => rfl
    | succ m => rfl
  | succ n =>
    cases m with
    | zero => rfl
    | succ m =>
      show (l.buses.modify n f)[m]? = _
      rw [List.getElem?_modify]
      by_cases h : m = n
      · subst h
        simp [bus?]
      · have hn : ¬ n = m := fun e => h e.symm
        simp [bus?, h, hn]

/-- What is up depends on the connections alone. -/
theorem isConnected_of_buses {l k : Link} (h : l.buses = k.buses) (n : Nat) :
    l.isConnected n = k.isConnected n := by
  unfold isConnected bus?
  rw [h]

theorem handlersOn_of_buses {l k : Link} (h : l.buses = k.buses) (n : Nat) :
    l.handlersOn n = k.handlersOn n := by
  unfold handlersOn bus?
  rw [h]

theorem length_change (l : Link) (n : Nat) (f : Bus → Bus) :
    (l.change n f).buses.length = l.buses.length := by
  cases n with
  | zero => rfl
  | succ n => exact List.length_modify ..

theorem disconnectFailure_change (l : Link) (n : Nat) (f : Bus → Bus) :
    (l.change n f).disconnectFailure = l.disconnectFailure := by
  cases n <;> rfl

/-- Connections are numbered from one to the newest. -/
theorem bounds_of_bus? {l : Link} {n : Nat} {b : Bus} (h : l.bus? n = some b) :
    0 < n ∧ n ≤ l.buses.length := by
  cases n with
  | zero => cases h
  | succ n =>
    obtain ⟨hn, -⟩ := List.getElem?_eq_some_iff.mp h
    exact ⟨by omega, by omega⟩

theorem bus?_of_bounds {l : Link} {n : Nat} (h : 0 < n ∧ n ≤ l.buses.length) :
    ∃ b, l.bus? n = some b := by
  obtain ⟨k, rfl⟩ : ∃ k, n = k + 1 := ⟨n - 1, by omega⟩
  exact ⟨_, List.getElem?_eq_getElem (Nat.lt_of_succ_le h.2)⟩

theorem isConnected_iff (l : Link) (n : Nat) :
    l.isConnected n = true ↔ ∃ b, l.bus? n = some b ∧ b.connected = true := by
  unfold isConnected
  cases h : l.bus? n with
  | none => simp
  | some b => simp

theorem hasty_change (l : Link) (n : Nat) (f : Bus → Bus) : (l.change n f).hasty = l.hasty := by
  cases n <;> rfl

theorem handlersOn_of_length_lt {l : Link} {n : Nat} (h : l.buses.length < n) :
    l.handlersOn n = 0 := by
  unfold handlersOn
  cases hb : l.bus? n with
  | none => rfl
  | some b =>
    have := bounds_of_bus? hb
    omega

theorem isConnected_drop (l : Link) (n m : Nat) :
    (l.drop n).isConnected m = (l.isConnected m && decide (m ≠ n)) := by
  unfold isConnected drop
  rw [bus?_change]
  by_cases h : m = n
  · subst h
    cases l.bus? m <;> simp
  · simp [h]

theorem isConnected_of_drop {l : Link} {n m : Nat} (h : (l.drop n).isConnected m = true) :
    l.isConnected m = true := by
  rw [isConnected_drop, Bool.and_eq_true] at h
  exact h.1

theorem handlersOn_drop (l : Link) (n m : Nat) : (l.drop n).handlersOn m = l.handlersOn m := by
  unfold handlersOn drop
  rw [bus?_change]
  split
  · cases l.bus? m <;> rfl
  · rfl

theorem isConnected_addHandler (l : Link) (n m : Nat) :
    (l.addHandler n).isConnected m = l.isConnected m := by
  unfold isConnected addHandler
  rw [bus?_change]
  split
  · cases l.bus? m <;> rfl
  · rfl

theorem handlersOn_addHandler {l : Link} {n : Nat} (h : 0 < n ∧ n ≤ l.buses.length) (m : Nat) :
    (l.addHandler n).handlersOn m = l.handlersOn m + if m = n then 1 else 0 := by
  obtain ⟨b, hb⟩ := bus?_of_bounds h
  unfold handlersOn addHandler
  rw [bus?_change]
  by_cases hm : m = n
  · subst hm
    simp [hb]
  · simp [hm]

theorem isConnected_removeHandler (l : Link) (n m : Nat) :
    (l.removeHandler n).isConnected m = l.isConnected m := by
  unfold isConnected removeHandler
  rw [bus?_change]
  split
  · cases l.bus? m <;> rfl
  · rfl

theorem handlersOn_removeHandler (l : Link) (n m : Nat) :
    (l.removeHandler n).handlersOn m = l.handlersOn m - if m = n then 1 else 0 := by
  unfold handlersOn removeHandler
  rw [bus?_change]
  by_cases hm : m = n
  · subst hm
    cases l.bus? m <;> simp
  · simp [hm]

theorem bus?_opened (l : Link) (n : Nat) :
    l.opened.2.bus? n = if n = l.opened.1 then some {} else l.bus? n := by
  unfold opened
  cases n with
  | zero => rfl
  | succ n =>
    show (l.buses ++ [({} : Bus)])[n]? = _
    by_cases h : n = l.buses.length
    · subst h
      simp
    · have hne : ¬ n + 1 = l.buses.length + 1 := by omega
      rw [if_neg hne, List.getElem?_append]
      split
      · rfl
      · have hlt : l.buses.length < n := by omega
        rw [List.getElem?_eq_none (by simp; omega)]
        exact (List.getElem?_eq_none (by omega)).symm

theorem isConnected_opened (l : Link) (n : Nat) :
    l.opened.2.isConnected n = (decide (n = l.opened.1) || l.isConnected n) := by
  unfold isConnected
  rw [bus?_opened]
  by_cases h : n = l.opened.1 <;> simp [h]

theorem handlersOn_opened (l : Link) (n : Nat) :
    l.opened.2.handlersOn n = l.handlersOn n := by
  by_cases h : n = l.opened.1
  · have hz : l.handlersOn n = 0 := handlersOn_of_length_lt (by rw [h]; exact Nat.lt_succ_self _)
    rw [hz]
    unfold handlersOn
    rw [bus?_opened, if_pos h]
    rfl
  · unfold handlersOn
    rw [bus?_opened, if_neg h]

theorem length_opened (l : Link) : l.opened.2.buses.length = l.opened.1 := by
  simp [opened]

/-- An attempt to connect by itself changes no connection. -/
theorem buses_nextConnect (l : Link) : l.nextConnect.2.buses = l.buses := by
  unfold nextConnect
  split <;> rfl

theorem length_nextReply (l : Link) (n : Nat) :
    (l.nextReply n).2.buses.length = l.buses.length := by
  unfold nextReply
  split
  · rfl
  · next r rest h =>
    cases r.drops with
    | false => rfl
    | true => exact length_change ..

theorem disconnectFailure_nextReply (l : Link) (n : Nat) :
    (l.nextReply n).2.disconnectFailure = l.disconnectFailure := by
  unfold nextReply
  split
  · rfl
  · next r rest h =>
    cases r.drops with
    | false => rfl
    | true => exact disconnectFailure_change ..

theorem hasty_nextReply (l : Link) (n : Nat) : (l.nextReply n).2.hasty = l.hasty := by
  unfold nextReply
  split
  · rfl
  · next r rest h =>
    cases r.drops with
    | false => rfl
    | true => exact hasty_change ..

theorem hasty_nextConnect (l : Link) : l.nextConnect.2.hasty = l.hasty := by
  unfold nextConnect
  split <;> rfl

theorem handlersOn_nextReply (l : Link) (n m : Nat) :
    (l.nextReply n).2.handlersOn m = l.handlersOn m := by
  unfold nextReply
  split
  · rfl
  · next r rest h =>
    cases r.drops with
    | false => rfl
    | true => exact handlersOn_drop ..

/-- A reply can take its connection down and brings none up. -/
theorem isConnected_of_nextReply {l : Link} {n m : Nat}
    (h : (l.nextReply n).2.isConnected m = true) : l.isConnected m = true := by
  unfold nextReply at h
  split at h
  · exact h
  · next r rest _ =>
    cases hd : r.drops with
    | false =>
      rw [hd] at h
      exact h
    | true =>
      rw [hd] at h
      simp only [if_true] at h
      have hl := isConnected_of_drop h
      exact hl

theorem nextReply_change (l : Link) (n m : Nat) (f : Bus → Bus) :
    ((l.change n f).nextReply m).1 = (l.nextReply m).1 := by
  cases n with
  | zero => rfl
  | succ n =>
    unfold nextReply change
    cases l.replies <;> rfl

/-- An attempt that opens a connection which is down at once was one of those to come. -/
theorem length_connects_nextConnect {l : Link} (h : l.nextConnect.1 = .opensDown) :
    l.nextConnect.2.connects.length + 1 = l.connects.length := by
  unfold nextConnect at h ⊢
  cases hc : l.connects with
  | nil =>
    rw [hc] at h
    unfold paceConnect at h
    cases hh : l.hasty <;> simp [hh, ConnectOutcome.hurried] at h
  | cons c rest => rfl

/-- The handler has no part in how messages fare. -/
theorem nextReply_addHandler (l : Link) (n m : Nat) :
    ((l.addHandler n).nextReply m).1 = (l.nextReply m).1 := nextReply_change ..

theorem nextReply_removeHandler (l : Link) (n m : Nat) :
    ((l.removeHandler n).nextReply m).1 = (l.nextReply m).1 := nextReply_change ..

end Link

end BluetoothControl
