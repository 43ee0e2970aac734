import BluetoothControl.Proofs.Client.Attach
import BluetoothControl.Proofs.Client.Keeps

/-!
# Who is subscribed

Requests leave the list of live subscriptions exactly as it is, whatever becomes of them.  A
subscription that is granted adds one entry at the end; one that is given up on a loop that runs and
is free takes that entry out and no other, whatever the bus says to that.
-/

namespace BluetoothControl

open Procedure

/-- The thread that calls go to is there, and nothing occupies it. -/
def EventLoop.isFree (l : EventLoop) : Bool := l.current.any fun t => !t.occupied

namespace Client

/-- These are subscribed, and the bound on the client's calls is `own`. -/
structure Enrolled (members : List (Nat × Subscriber)) (own : Seconds) (w : World Client) :
    Prop where
  members : w.service.subscriptions = members
  bound : w.service.callTimeout = own

section
variable {members : List (Nat × Subscriber)} {own : Seconds}

/-! ## Requests -/

theorem enrolled_exchange (n : Nat) (m : Message) (context : String) :
    Keeps (Enrolled members own) (exchange n m context) := by
  intro w h
  rw [exchange_apply]
  exact ⟨h.members, h.bound⟩

theorem inert_enrolled : Inert (Enrolled members own) where
  record _ hf hs _ h := ⟨(hs _).trans h.members, (hf _).1.trans h.bound⟩
  observe _ _ _ h := ⟨h.members, h.bound⟩
  exchange m n context _ := enrolled_exchange n m context

theorem enrolled_pace : Unhurried (Enrolled members own) := fun _ _ h => ⟨h.members, h.bound⟩

theorem upholds_enrolled : Upholds (Enrolled members own) where
  called := inert_enrolled.called
  pace := enrolled_pace
  call m context _ :=
    keeps_bind (keeps_obtainBus inert_enrolled) fun n => enrolled_exchange n m context

/-! ## The handler -/

theorem enrolled_attach : Keeps (Enrolled members own) attach :=
  keeps_bind (keeps_obtainBus inert_enrolled) (keeps_installHandler inert_enrolled)

end

/-! ## Entering and leaving -/

section
variable {w v : World Client} {n : Nat}

/-- A subscriber that was given a handle is entered at the end under that handle, by a client whose
calls have time. -/
theorem of_subscribe_ok {s : Subscriber} (h : subscribe s w = (.ok n, v)) :
    Enrolled (w.service.subscriptions ++ [(n, s)]) w.service.callTimeout v ∧
      w.service.callTimeout.patience = .waits := by
  obtain ⟨hbound, ht⟩ := of_runTask_ok h
  refine ⟨?_, hbound⟩
  rw [subscribeTask_apply] at ht
  generalize hu : (w.after w.service [.called (some w.service.callTimeout)]).after
    ((w.after w.service [.called (some w.service.callTimeout)]).service.entered s) [] = u at ht
  have hk : Enrolled (w.service.subscriptions ++ [(w.service.nextHandle, s)])
      w.service.callTimeout (attach u).2 := by
    refine enrolled_attach u ?_
    rw [← hu]
    exact ⟨rfl, rfl⟩
  rcases ha : attach u with ⟨r, x⟩
  rw [ha] at ht hk
  cases r with
  | ok y =>
    cases ht
    exact hk
  | error e => cases ht

/-- Whoever unsubscribes is taken out first of all. -/
theorem unsubscribeTask_leads (members : List (Nat × Subscriber)) (own : Seconds)
    (h : Enrolled members own w) :
    Enrolled (members.filter (·.1 ≠ n)) own (unsubscribeTask (.int n) w).2 := by
  have hentries : (w.service.subscriptions.filter fun e => !(Value.int n).countsAs e.1) =
      members.filter (·.1 ≠ n) := by
    rw [← h.members]
    refine List.filter_congr fun e _ => ?_
    rw [Value.countsAs_int]
    by_cases he : e.1 = n
    · simp [he]
    · have hne : ¬ (n : Int) = e.1 := by omega
      simp [he, hne]
  unfold unsubscribeTask
  rw [bind_ok (current_apply w)]
  simp only [Value.isKey, Bool.not_true, Bool.and_false, Bool.false_eq_true, if_false]
  rw [bind_ok (change_apply _ w), bind_ok (current_apply _)]
  split
  · exact keeps_uninstallHandler inert_enrolled _ ⟨hentries, h.bound⟩
  · exact ⟨hentries, h.bound⟩

/-- On a loop that is free a client takes out the subscription of a handle and no other, whatever
the bus says to that and however little time there is. -/
theorem enrolled_unsubscribe (hfree : w.loop.isFree = true) :
    Enrolled (w.service.subscriptions.filter (·.1 ≠ n)) w.service.callTimeout
      (unsubscribe (.int n) w).2 := by
  obtain ⟨thread, hc, ho⟩ := (Option.any_eq_true _ _).mp hfree
  rw [Bool.not_eq_true'] at ho
  change Enrolled _ _ (runTask w.service.callTimeout (unsubscribeTask (.int n)) w).2
  rw [runTask_eq, hc]
  dsimp only
  rw [ho]
  exact paced_leads enrolled_pace enrolled_pace
    (fun _ => unsubscribeTask_leads _ _) _ _ ⟨rfl, rfl⟩

end

end Client

end BluetoothControl
