import BluetoothControl.Client.Command
import Mathlib.Data.List.Basic
import Mathlib.Data.List.Induction

/-!
# The life of a client

A client lives through moves: operations that callers carry out one after another, and what happens
around it between them.  `run` makes a list of moves and reports what came of each.  The log keeps
all that was observed; `handlings` reads from it what became of the notification handler.
-/

namespace BluetoothControl

/-- Something that befalls the notification handler on a connection. -/
inductive Handling
  /-- With the handler on the connection, notifications were asked for, and this came of it. -/
  | asked (bus : Nat) (consent : Consent)
  /-- The handler was taken off the connection. -/
  | removed (bus : Nat)

/-- What an event tells about the notification handler. -/
def Event.handling? : Event → Option Handling
  | .consented bus consent => some (.asked bus consent)
  | .handlerRemoved bus => some (.removed bus)
  | _ => none

/-- What became of the notification handler, in order. -/
def handlings (log : List Event) : List Handling := log.filterMap Event.handling?

/-- The connections that nobody ever held. -/
def strays (log : List Event) : List Nat :=
  log.filterMap fun
    | .strayed bus => some bus
    | _ => none

/-- A request for notifications was accepted on a connection. -/
def Accepted (log : List Event) (n : Nat) : Prop :=
  ∃ m d, .resolved n m d ∈ log ∧ m.isAddMatch = true ∧ d.isAccepted = true

/-- What was accepted stays accepted. -/
theorem Accepted.append {log : List Event} {n : Nat} (h : Accepted log n) (es : List Event) :
    Accepted (log ++ es) n := by
  obtain ⟨m, d, hm, ha⟩ := h
  exact ⟨m, d, List.mem_append_left _ hm, ha⟩

namespace Handling

/-- Whether asking for this connection was interrupted. -/
def interrupts (n : Nat) : Handling → Bool
  | asked m c => m == n && c == .interrupted
  | removed _ => false

/-- How often asking for a connection was interrupted. -/
def interruptions (hs : List Handling) (n : Nat) : Nat := hs.countP (interrupts n)

/-- How many requests for a connection are in force afterwards, if `k` were before: one that is
denied is taken back at once. -/
def enforce (n k : Nat) : Handling → Nat
  | asked m c => if m = n ∧ c ≠ .interrupted then k + 1 else k
  | removed m => if m = n then k - 1 else k

/-- How many requests for a connection were granted and not taken back since. -/
def inForce (hs : List Handling) (n : Nat) : Nat := hs.foldl (enforce n) 0

/-- The connection for which notifications were granted last, if `last` was before, unless the
handler was taken off it. -/
def relate (last : Option Nat) : Handling → Option Nat
  | asked m c => if c = .granted then some m else last
  | removed m => if last = some m then none else last

/-- The connection for which notifications were granted last, unless the handler was taken off it
since. -/
def lastGranted (hs : List Handling) : Option Nat := hs.foldl relate none

/-! ## Lemmas -/

theorem interruptions_append (hs : List Handling) (h : Handling) (n : Nat) :
    interruptions (hs ++ [h]) n = interruptions hs n + if interrupts n h then 1 else 0 := by
  unfold interruptions
  rw [List.countP_append, List.countP_singleton]

theorem inForce_append (hs : List Handling) (h : Handling) (n : Nat) :
    inForce (hs ++ [h]) n = enforce n (inForce hs n) h := List.foldl_concat ..

theorem lastGranted_append (hs : List Handling) (h : Handling) :
    lastGranted (hs ++ [h]) = relate (lastGranted hs) h := List.foldl_concat ..

/-- Each time of asking counts once, as an interruption or as a request in force. -/
theorem count_asked (hs : List Handling) (n : Nat) (consent : Consent) (m : Nat) :
    interruptions (hs ++ [asked n consent]) m + inForce (hs ++ [asked n consent]) m =
      interruptions hs m + inForce hs m + if m = n then 1 else 0 := by
  rw [interruptions_append, inForce_append]
  by_cases hm : m = n
  · subst hm
    cases consent <;> simp [interrupts, enforce] <;> omega
  · have hm' : ¬ n = m := fun e => hm e.symm
    simp [interrupts, enforce, hm, hm']

/-- Taking the handler off a connection takes one request for it back. -/
theorem count_removed (hs : List Handling) (n m : Nat) :
    interruptions (hs ++ [removed n]) m + inForce (hs ++ [removed n]) m =
      interruptions hs m + (inForce hs m - if m = n then 1 else 0) := by
  rw [interruptions_append, inForce_append]
  by_cases hm : m = n
  · subst hm
    simp [interrupts, enforce]
  · have hm' : ¬ n = m := fun e => hm e.symm
    simp [interrupts, enforce, hm, hm']

/-- Where notifications were granted last, a request is in force. -/
theorem inForce_pos {hs : List Handling} {n : Nat} (h : lastGranted hs = some n) :
    0 < inForce hs n := by
  induction hs using List.reverseRecOn with
  | nil => cases h
  | append_singleton hs a ih =>
    rw [lastGranted_append] at h
    rw [inForce_append]
    cases a with
    | asked m c =>
      change (if c = .granted then some m else lastGranted hs) = some n at h
      show 0 < if m = n ∧ c ≠ .interrupted then inForce hs n + 1 else inForce hs n
      by_cases hc : c = .granted
      · rw [if_pos hc] at h
        obtain rfl := Option.some.inj h
        rw [if_pos ⟨rfl, by rw [hc]; exact Consent.noConfusion⟩]
        exact Nat.succ_pos _
      · rw [if_neg hc] at h
        split
        · exact Nat.succ_pos _
        · exact ih h
    | removed m =>
      change (if lastGranted hs = some m then none else lastGranted hs) = some n at h
      show 0 < if m = n then inForce hs n - 1 else inForce hs n
      by_cases hm : lastGranted hs = some m
      · rw [if_pos hm] at h
        cases h
      · rw [if_neg hm] at h
        rw [if_neg]
        · exact ih h
        · rintro rfl
          exact hm h

end Handling

namespace Client

/-- Something that happens to a client. -/
inductive Move
  /-- An operation is carried out. -/
  | command (command : Command)
  /-- A notification arrives. -/
  | signal (signal : Signal)
  /-- A connection goes down. -/
  | drop (bus : Nat)
  /-- It is settled anew how the next attempts to connect, messages and closings will turn out. -/
  | outlook (connects : List ConnectOutcome) (replies : List ScriptedReply)
      (disconnectFailure : Option Failure)

/-- A move is made. -/
def Move.act : Move → Action Client Answer
  | .command c => execute c
  | .signal s => do
    Client.signal s
    return .nothing
  | .drop bus => do
    changeLink fun l => l.drop bus
    return .nothing
  | .outlook connects replies disconnectFailure => do
    changeLink fun l => { l with connects, replies, disconnectFailure }
    return .nothing

/-- A move, and what came of it. -/
structure Turn where
  move : Move
  outcome : Except Failure Answer

/-- The handle that a subscriber was given. -/
def Turn.handle? : Turn → Option Int
  | ⟨.command (.subscribe _), .ok (.number handle)⟩ => some handle
  | _ => none

/-- Moves are made one after another. -/
def run : List Move → World Client → List Turn × World Client
  | [], w => ([], w)
  | m :: rest, w =>
    let (outcome, w) := m.act w
    let (turns, w) := run rest w
    (⟨m, outcome⟩ :: turns, w)

/-- A client that has done nothing yet, on a loop that was just started. -/
def fresh (loop : String) (callTimeout : Seconds) : World Client :=
  World.started loop { callTimeout }

end Client

end BluetoothControl
