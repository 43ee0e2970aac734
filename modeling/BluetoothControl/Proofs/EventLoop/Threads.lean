import BluetoothControl.History
import BluetoothControl.Proofs.EventLoop.Tickets
import Mathlib.Data.List.Basic
import Mathlib.Data.List.Induction

/-!
# How many threads a loop has

A stop that cannot see its thread end gives the thread up, and from then on neither stops nor starts
take notice of it.  So a loop has at most one thread at a time, and none after a stop that answered,
exactly if it is neither started nor stopped while a stop is overdue (`lone_iff`).  A thread that a
stop does not see end within its bound counts as occupied, whatever keeps it.
-/

namespace BluetoothControl

open Procedure

namespace EventLoop

/-- Whether a move starts or stops the loop. -/
def Move.isSwitch : Move → Bool
  | .start | .stop _ => true
  | _ => false

namespace Course

/-- After this move at most one thread is alive, and none if it was a stop that succeeded. -/
def Lone (c : Course) (m : Move) : Prop :=
  (c.act m).loop.alive ≤ 1 ∧
    ∀ bound, m = .stop bound → (stop bound c.loop).1 = .ok () → (c.act m).loop.alive = 0

/-- A stop failed, and its thread was not let go since. -/
def Overdue (c : Course) (ms : List Move) : Prop :=
  ∃ earlier bound since, ms = earlier ++ .stop bound :: since ∧
    (stop bound (c.run earlier).loop).1 ≠ .ok () ∧ .release ∉ since

end Course

/-! ## Threads that stay -/

/-- No thread was started, given up or ended on the way from one loop to the other. -/
def Settled (l k : EventLoop) : Prop :=
  k.isRunning = l.isRunning ∧ k.abandoned.length = l.abandoned.length

section
variable {l : EventLoop}

theorem alive_eq (l : EventLoop) : l.alive = l.isRunning.toNat + l.abandoned.length := by
  unfold alive isRunning
  cases l.current <;> rfl

theorem alive_of_settled {k : EventLoop} (h : Settled l k) : k.alive = l.alive := by
  rw [alive_eq, alive_eq, h.1, h.2]

theorem settled_refl (l : EventLoop) : Settled l l := ⟨rfl, rfl⟩

theorem settled_submit (body : Coroutine) (l : EventLoop) : Settled l (submit body l).2 := by
  cases h : l.current with
  | none =>
    rw [submit_none h]
    exact settled_refl l
  | some t =>
    rw [submit_some h]
    exact ⟨by rw [isRunning, isRunning, h]; rfl, rfl⟩

theorem settled_callSoon (args : List Value) (l : EventLoop) : Settled l (callSoon args l).2 := by
  cases h : l.current with
  | none =>
    rw [callSoon_none h]
    exact settled_refl l
  | some t =>
    rw [callSoon_some h]
    split
    · exact ⟨by rw [isRunning, isRunning, h]; rfl, rfl⟩
    · exact settled_refl _

theorem settled_block (l : EventLoop) : Settled l (block l).2 := by
  cases h : l.current with
  | none =>
    rw [block_none h]
    exact settled_refl l
  | some t =>
    rw [block_some h]
    exact ⟨by rw [isRunning, isRunning, h]; rfl, rfl⟩

theorem settled_join (ticket : Nat) (bound : Option Seconds) (l : EventLoop) :
    Settled l (join (.waiting ticket bound) l).2 := by
  rw [join_waiting]
  dsimp only
  split
  · exact ⟨Option.isSome_map, List.length_map _⟩
  · exact settled_refl l

theorem settled_sever (place : Option Nat) (l : EventLoop) : Settled l (l.sever place) := by
  cases place with
  | none => exact ⟨Option.isSome_map, rfl⟩
  | some place => exact ⟨rfl, List.length_modify ..⟩

theorem settled_turned (l : EventLoop) : Settled l l.turned := by
  cases h : l.current with
  | none =>
    rw [turned_none h]
    exact settled_refl l
  | some t =>
    have hr : l.isRunning = true := by rw [isRunning, h]; rfl
    unfold turned letRun conclusion
    rw [h]
    dsimp only
    repeat' split
    all_goals first | exact settled_refl l | exact ⟨hr.symm, rfl⟩

theorem settled_conclude (ticket : Nat) (o : Outcome) (l : EventLoop) :
    Settled l (l.conclude ticket o) := by
  unfold conclude conclusion
  cases h : l.current with
  | none => exact settled_refl l
  | some t =>
    have hr : l.isRunning = true := by rw [isRunning, h]; rfl
    dsimp only
    repeat' split
    all_goals first | exact settled_refl l | exact ⟨hr.symm, rfl⟩

end

namespace Course

variable {name : String} {c : Course}

/-- Only a start, a stop, a release and the loop's own end have a say in which threads there are. -/
theorem settled_act (c : Course) {m : Move} (hs : m.isSwitch = false) (hk : m ≠ .kill)
    (hr : m ≠ .release) : Settled c.loop (c.act m).loop := by
  cases m with
  | start => cases hs
  | stop bound => cases hs
  | kill => exact absurd rfl hk
  | release => exact absurd rfl hr
  | submit body => exact settled_submit body c.loop
  | call body bound =>
    unfold act
    dsimp only
    split <;> exact settled_submit body c.loop
  | wake number =>
    unfold act
    dsimp only
    split
    · exact settled_refl c.loop
    · split
      · exact settled_join _ _ c.loop
      · exact settled_refl c.loop
  | callSoon args => exact settled_callSoon args c.loop
  | block => exact settled_block c.loop
  | sever place => exact settled_sever place c.loop
  | turn => exact settled_turned c.loop
  | conclude ticket o => exact settled_conclude ticket o c.loop

/-! ## Threads that are given up -/

theorem abandoned_kill (l : EventLoop) : (kill l).2.abandoned = l.abandoned := by
  rw [kill_state]
  cases l.current with
  | none => rfl
  | some t =>
    dsimp only
    split <;> rfl

theorem abandoned_release (h : c.Sound name) : (c.act .release).loop.abandoned = [] := by
  obtain ⟨log, hr⟩ := release_state h.stuck
  show (release c.loop).2.abandoned = []
  rw [hr]
  rfl

/-- A stop succeeds and gives no thread up, or it fails and gives up the thread that ran. -/
theorem abandoned_stop (bound : Seconds) (l : EventLoop) :
    ((stop bound l).1 = .ok () ∧ (stop bound l).2.abandoned = l.abandoned) ∨
      ((stop bound l).1 ≠ .ok () ∧ l.isRunning = true ∧
        (stop bound l).2.abandoned.length = l.abandoned.length + 1) := by
  cases h : l.current with
  | none =>
    rw [stop_none h]
    exact Or.inl ⟨rfl, rfl⟩
  | some t =>
    rw [stop_some h]
    split
    · exact Or.inr ⟨fun he => (nomatch he), by rw [isRunning, h]; rfl, List.length_append⟩
    · exact Or.inl ⟨rfl, rfl⟩

/-- A thread that was given up is there after a move if one was there and was not let go, or if the
move is a stop that failed. -/
theorem abandoned_act (h : c.Sound name) (m : Move) : (c.act m).loop.abandoned ≠ [] ↔
    (m ≠ .release ∧ c.loop.abandoned ≠ []) ∨
      ∃ bound, m = .stop bound ∧ (stop bound c.loop).1 ≠ .ok () := by
  cases m with
  | stop bound =>
    show (stop bound c.loop).2.abandoned ≠ [] ↔ _
    rcases abandoned_stop bound c.loop with ⟨hok, ha⟩ | ⟨hno, -, ha⟩
    · simp [ha, hok]
    · have hne : (stop bound c.loop).2.abandoned ≠ [] := by
        rw [← List.length_pos_iff, ha]
        exact Nat.succ_pos _
      exact ⟨fun _ => Or.inr ⟨bound, rfl, hno⟩, fun _ => hne⟩
  | release => simp [abandoned_release h]
  | start =>
    have ha : (c.act .start).loop.abandoned = c.loop.abandoned := by
      show (start c.loop).2.abandoned = c.loop.abandoned
      unfold start
      rw [modify_apply]
      split <;> rfl
    simp [ha]
  | kill =>
    have ha : (c.act .kill).loop.abandoned = c.loop.abandoned := abandoned_kill c.loop
    simp [ha]
  | _ =>
    rw [← List.length_pos_iff, (settled_act c rfl Move.noConfusion Move.noConfusion).2,
      List.length_pos_iff]
    simp

/-- A stop is overdue after a move if one was and no thread was let go, or if the move is a failed
stop. -/
theorem overdue_concat {ms : List Move} {m : Move} : c.Overdue (ms ++ [m]) ↔
    (m ≠ .release ∧ c.Overdue ms) ∨
      ∃ bound, m = .stop bound ∧ (stop bound (c.run ms).loop).1 ≠ .ok () := by
  constructor
  · rintro ⟨earlier, bound, since, hms, hno, hsince⟩
    rcases List.eq_nil_or_concat' since with rfl | ⟨rest, last, rfl⟩
    · obtain ⟨rfl, hm⟩ := List.append_inj' hms rfl
      exact Or.inr ⟨bound, (List.cons.inj hm).1, hno⟩
    · rw [← List.cons_append, ← List.append_assoc] at hms
      obtain ⟨rfl, hm⟩ := List.append_inj' hms rfl
      obtain rfl := (List.cons.inj hm).1
      simp only [List.mem_append, List.mem_singleton, not_or] at hsince
      exact Or.inl ⟨Ne.symm hsince.2, earlier, bound, rest, rfl, hno, hsince.1⟩
  · rintro (⟨hm, earlier, bound, since, rfl, hno, hsince⟩ | ⟨bound, rfl, hno⟩)
    · refine ⟨earlier, bound, since ++ [m], by simp, hno, ?_⟩
      simp only [List.mem_append, List.mem_singleton, not_or]
      exact ⟨hsince, Ne.symm hm⟩
    · exact ⟨ms, bound, [], rfl, hno, List.not_mem_nil⟩

/-- A thread that was given up is alive exactly while a stop is overdue. -/
theorem abandoned_iff (name : String) (ms : List Move) :
    let c : Course := { loop := { name } }
    (c.run ms).loop.abandoned ≠ [] ↔ c.Overdue ms := by
  intro c
  induction ms using List.reverseRecOn with
  | nil =>
    refine ⟨fun h => absurd rfl h, ?_⟩
    rintro ⟨earlier, bound, since, h, -⟩
    simp at h
  | append_singleton ms m ih =>
    rw [run_concat, abandoned_act (next_run (sound_first name) ms).sound, overdue_concat, ih]

/-! ## Threads that are alive -/

theorem alive_start (c : Course) : (c.act .start).loop.alive = 1 + c.loop.abandoned.length := by
  show (start c.loop).2.alive = _
  unfold start
  rw [modify_apply]
  split
  · next hr => rw [alive_eq, hr]; rfl
  · rfl

/-- After a stop those threads are alive that were given up. -/
theorem alive_stop (bound : Seconds) (l : EventLoop) :
    (stop bound l).2.alive = (stop bound l).2.abandoned.length := by
  rw [alive_eq, isRunning_stop, Bool.toNat_false, Nat.zero_add]

theorem alive_kill (l : EventLoop) : (kill l).2.alive ≤ l.alive := by
  rw [alive_eq, alive_eq, abandoned_kill]
  rcases isRunning_kill l with h | h
  · exact Nat.le_of_eq (by rw [h])
  · rw [h]
    exact Nat.add_le_add_right (Nat.zero_le _) _

theorem alive_release (h : c.Sound name) : (c.act .release).loop.alive ≤ 1 := by
  rw [alive_eq, abandoned_release h]
  exact Bool.toNat_le _

/-- With at most one thread alive, a move keeps it so, and a stop that succeeds leaves none, exactly
if it is no start or stop that passes over a thread that was given up. -/
theorem lone_act (h : c.Sound name) (hone : c.loop.alive ≤ 1) (m : Move) :
    c.Lone m ↔ (c.loop.abandoned ≠ [] → m.isSwitch = false) := by
  have hother (hs : m.isSwitch = false) (hle : (c.act m).loop.alive ≤ 1) :
      c.Lone m ↔ (c.loop.abandoned ≠ [] → m.isSwitch = false) := by
    refine ⟨fun _ _ => hs, fun _ => ⟨hle, ?_⟩⟩
    rintro bound rfl
    cases hs
  cases m with
  | start =>
    have hs : (c.act .start).loop.alive ≤ 1 ↔ c.loop.abandoned = [] := by
      rw [alive_start, ← List.length_eq_zero_iff]
      omega
    constructor
    · exact fun hl ha => absurd (hs.mp hl.1) ha
    · intro ha
      refine ⟨hs.mpr ?_, fun bound hb => (nomatch hb)⟩
      by_contra hne
      cases ha hne
  | stop bound =>
    have halive : (c.act (.stop bound)).loop.alive = (stop bound c.loop).2.abandoned.length :=
      alive_stop bound c.loop
    rw [alive_eq] at hone
    rcases abandoned_stop bound c.loop with ⟨hok, ha⟩ | ⟨hno, hr, ha⟩
    · rw [ha] at halive
      constructor
      · intro hl hne
        rw [← List.length_pos_iff, ← halive, hl.2 bound rfl hok] at hne
        omega
      · intro hs
        have hnil : c.loop.abandoned = [] := by
          by_contra hne
          cases hs hne
        rw [hnil, List.length_nil] at halive
        exact ⟨by omega, fun _ _ _ => halive⟩
    · -- the thread that ran is the only one, so none was given up before
      rw [hr, Bool.toNat_true] at hone
      have hnil : c.loop.abandoned = [] := List.length_eq_zero_iff.mp (by omega)
      refine ⟨fun _ hne => absurd hnil hne, fun _ => ⟨by omega, fun b hb hok => ?_⟩⟩
      obtain rfl := Move.stop.inj hb
      exact absurd hok hno
  | kill => exact hother rfl (Nat.le_trans (alive_kill c.loop) hone)
  | release => exact hother rfl (alive_release h)
  | _ =>
    refine hother rfl ?_
    rw [alive_of_settled (settled_act c rfl Move.noConfusion Move.noConfusion)]
    exact hone

/-- If every move left at most one thread, at most one is alive in the end. -/
theorem alive_run {ms : List Move} (hc : c.loop.alive ≤ 1)
    (h : Throughout (fun before m => (c.run before).Lone m) ms) : (c.run ms).loop.alive ≤ 1 := by
  rcases List.eq_nil_or_concat' ms with rfl | ⟨rest, m, rfl⟩
  · exact hc
  · rw [run_concat]
    exact (throughout_concat.mp h).2.1

/-- Of a loop that never ran before, at most one thread is alive after each move, and none after a
stop that succeeded, exactly if it is never started or stopped while a stop is overdue. -/
theorem lone_iff (name : String) (ms : List Move) :
    let c : Course := { loop := { name } }
    Throughout (fun before m => (c.run before).Lone m) ms ↔
      Throughout (fun before m => c.Overdue before → m.isSwitch = false) ms := by
  intro c
  induction ms using List.reverseRecOn with
  | nil => exact ⟨fun _ => throughout_nil, fun _ => throughout_nil⟩
  | append_singleton ms m ih =>
    rw [throughout_concat, throughout_concat, ih]
    refine and_congr_right fun hms => ?_
    have hone : (c.run ms).loop.alive ≤ 1 := alive_run (Nat.zero_le _) (ih.mpr hms)
    have hoverdue : (c.run ms).loop.abandoned ≠ [] ↔ c.Overdue ms := abandoned_iff name ms
    rw [lone_act (next_run (sound_first name) ms).sound hone, hoverdue]

/-- A thread that is occupied while it is stopped outlives a second stop, which succeeds, and is
alive beside the thread of the next start. -/
theorem not_lone_blocked :
    let c : Course := { loop := { name := "default" } }
    let blocked : List Move := [.start, .block, .stop (.whole 1)]
    let stopped := blocked ++ [.stop (.whole 1)]
    (stop (.whole 1) (c.run blocked).loop).1 = .ok () ∧ (c.run stopped).loop.alive = 1 ∧
      (c.run (stopped ++ [.start])).loop.alive = 2 ∧
      ¬ Throughout (fun before m => (c.run before).Lone m) stopped := by
  intro c blocked stopped
  refine ⟨rfl, rfl, rfl, fun h => ?_⟩
  have hl : (c.run blocked).Lone (.stop (.whole 1)) := h blocked _ [] rfl
  have hz := hl.2 _ rfl rfl
  exact absurd hz (by decide)

end Course

end EventLoop

end BluetoothControl
