import BluetoothControl.History
import BluetoothControl.Proofs.EventLoop.Tickets
import Mathlib.Data.List.Induction

/-!
# When a loop ends

Once a thread has exited, everything that was handed to it has its outcome, unless the loop was
stopped by what occupied its thread and so never reached what was handed over meanwhile
(`none_hangs_iff`).  From the end of a loop to the next start nothing is taken in (`halted_run`).
-/

namespace BluetoothControl

open Procedure

/-! ## Losses -/

/-- A thread leaves calls without an outcome when it ends: what occupied it stopped the loop, and
besides the loop was told to end, or something waits to be let run that the loop will not come to
while it winds up, or that does not end then. -/
def LoopThread.Strands (loop : String) (t : LoopThread) : Prop :=
  t.severed = true ∧ ∃ job ∈ t.jobs, job.withdrawn = false ∧
    (t.halting = true ∨ job ∈ t.queued ∧ (t.suspended = [] ∨ job.body.outcome? loop = none))

theorem lossesOf_eq_nil {es : List (Job × Fate)} : lossesOf es = [] ↔
    ∀ e ∈ es, e.1.withdrawn = false → e.2.outcome?.isSome = true := by
  unfold lossesOf
  rw [List.filterMap_eq_nil_iff]
  refine forall₂_congr fun e _ => ?_
  cases e.1.withdrawn <;> cases e.2.outcome? <;> simp

/-- What waits on a thread is settled when the thread ends unless the loop breaks off. -/
theorem settled_suspended (t : LoopThread) (job : Job) :
    (t.fateOfSuspended job).outcome?.isSome = true ↔
      ¬ (t.severed = true ∧ t.halting = true) := by
  unfold LoopThread.fateOfSuspended
  cases t.severed <;> cases t.halting <;> simp [Fate.outcome?]

/-- What was not let run is settled when the thread ends unless the loop does not come to it. -/
theorem settled_queued (loop : String) (t : LoopThread) (job : Job) :
    (t.fateOfQueued loop job).outcome?.isSome = true ↔
      ¬ (t.severed = true ∧
        (t.halting = true ∨ t.suspended = [] ∨ job.body.outcome? loop = none)) := by
  unfold LoopThread.fateOfQueued
  cases t.severed <;> cases t.halting <;> cases job.body.outcome? loop <;>
    cases t.suspended <;> simp [Fate.outcome?]

theorem LoopThread.losses_iff (loop : String) (t : LoopThread) :
    lossesOf (t.fates loop) = [] ↔ ¬ t.Strands loop := by
  have hall : lossesOf (t.fates loop) = [] ↔
      (∀ job ∈ t.suspended, job.withdrawn = false → ¬ (t.severed = true ∧ t.halting = true)) ∧
      ∀ job ∈ t.queued, job.withdrawn = false → ¬ (t.severed = true ∧
        (t.halting = true ∨ t.suspended = [] ∨ job.body.outcome? loop = none)) := by
    rw [lossesOf_eq_nil, fates, List.forall_mem_append, List.forall_mem_map, List.forall_mem_map]
    simp only [settled_suspended, settled_queued]
  rw [hall]
  unfold Strands jobs
  constructor
  · rintro ⟨hsuspended, hqueued⟩ ⟨hsevered, job, hjob, hw, hwhy⟩
    rcases List.mem_append.mp hjob with hs | hq
    · rcases hwhy with hhalting | ⟨hq, hwhy⟩
      · exact hsuspended job hs hw ⟨hsevered, hhalting⟩
      · exact hqueued job hq hw ⟨hsevered, Or.inr hwhy⟩
    · exact hqueued job hq hw ⟨hsevered, hwhy.imp_right And.right⟩
  · refine fun hno => ⟨fun job hs hw h => ?_, fun job hq hw h => ?_⟩
    · exact hno ⟨h.1, job, List.mem_append_left _ hs, hw, Or.inl h.2⟩
    · exact hno ⟨h.1, job, List.mem_append_right _ hq, hw, h.2.imp_right fun hwhy => ⟨hq, hwhy⟩⟩

namespace EventLoop

variable {l : EventLoop}

theorem stranded_parted (l : EventLoop) (ts : List LoopThread) (log : List Event) :
    (l.parted ts log).stranded = [] ↔ l.stranded = [] ∧ ∀ t ∈ ts, ¬ t.Strands l.name := by
  unfold parted
  rw [List.append_eq_nil_iff, List.flatMap_eq_nil_iff]
  simp only [LoopThread.losses_iff]

theorem stranded_ending (l : EventLoop) (t : LoopThread) :
    (l.ending t).stranded = [] ↔ l.stranded = [] ∧ ¬ t.Strands l.name := by
  obtain ⟨log, heq⟩ := ending_eq l t
  rw [heq, stranded_parted]
  simp

theorem stranded_submit (body : Coroutine) (l : EventLoop) :
    (submit body l).2.stranded = l.stranded := by
  cases hc : l.current with
  | none => rw [submit_none hc]
  | some t => rw [submit_some hc]

theorem stranded_start (l : EventLoop) : (start l).2.stranded = l.stranded := by
  unfold start
  rw [modify_apply]
  split <;> rfl

theorem stranded_callSoon (args : List Value) (l : EventLoop) :
    (callSoon args l).2.stranded = l.stranded := by
  cases hc : l.current with
  | none => rw [callSoon_none hc]
  | some t =>
    rw [callSoon_some hc]
    split <;> rfl

theorem stranded_block (l : EventLoop) : (block l).2.stranded = l.stranded := by
  cases hc : l.current with
  | none => rw [block_none hc]
  | some t => rw [block_some hc]

/-- A caller that goes on loses no call. -/
theorem stranded_join (hnil : l.stranded = []) (ticket : Nat) (bound : Option Seconds) :
    (join (.waiting ticket bound) l).2.stranded = [] := by
  rw [join_waiting]
  dsimp only
  split
  · show l.stranded.filter _ = []
    rw [hnil]
    rfl
  · exact hnil

theorem stranded_turned (l : EventLoop) : l.turned.stranded = l.stranded := by
  unfold turned letRun conclusion
  repeat' split
  all_goals rfl

theorem stranded_conclude (ticket : Nat) (o : Outcome) (l : EventLoop) :
    (l.conclude ticket o).stranded = l.stranded := by
  unfold conclude conclusion
  repeat' split
  all_goals rfl

namespace Course

variable {name : String} {c : Course}

/-- No call is lost by a move if none was before and no thread that exits by it strands any. -/
theorem stranded_act (h : c.Sound name) (hnil : c.loop.stranded = []) (m : Move) :
    (c.act m).loop.stranded = [] ↔ ∀ t ∈ m.leaving c.loop, ¬ t.Strands name := by
  have hnone {m : Move} (hleaving : m.leaving c.loop = [])
      (heq : (c.act m).loop.stranded = c.loop.stranded) :
      (c.act m).loop.stranded = [] ↔ ∀ t ∈ m.leaving c.loop, ¬ t.Strands name := by
    rw [heq, hleaving, hnil]
    simp
  have hend {t : LoopThread} {m : Move} (hleaving : m.leaving c.loop = [t])
      (heq : (c.act m).loop = { c.loop with current := none }.ending t) :
      (c.act m).loop.stranded = [] ↔ ∀ t ∈ m.leaving c.loop, ¬ t.Strands name := by
    rw [heq, stranded_ending, hleaving, List.forall_mem_singleton, ← h.name]
    exact and_iff_right hnil
  cases m with
  | stop bound =>
    have hact : (c.act (.stop bound)).loop = (stop bound c.loop).2 := rfl
    cases hc : c.loop.current with
    | none =>
      rw [stop_none hc] at hact
      exact hnone (by simp [Move.leaving, hc]) (by rw [hact])
    | some t =>
      rw [stop_some hc] at hact
      cases ho : t.occupied with
      | true => exact hnone (by simp [Move.leaving, hc, ho]) (by rw [hact, if_pos ho])
      | false =>
        refine hend (t := t) (by simp [Move.leaving, hc, ho]) ?_
        rw [hact, ho]
        rfl
  | kill =>
    have hact : (c.act .kill).loop = (kill c.loop).2 := rfl
    rw [kill_state] at hact
    cases hc : c.loop.current with
    | none =>
      rw [hc] at hact
      exact hnone (by simp [Move.leaving, hc]) (by rw [hact])
    | some t =>
      rw [hc] at hact
      dsimp only at hact
      cases ho : t.occupied with
      | true => exact hnone (by simp [Move.leaving, hc, ho]) (by rw [hact, if_pos ho])
      | false =>
        refine hend (t := t) (by simp [Move.leaving, hc, ho]) ?_
        rw [hact, ho]
        rfl
  | release =>
    obtain ⟨log, hr⟩ := release_state h.stuck
    show (release c.loop).2.stranded = [] ↔ _
    rw [hr, stranded_parted, ← h.name]
    exact and_iff_right hnil
  | start => exact hnone rfl (stranded_start c.loop)
  | submit body => exact hnone rfl (stranded_submit body c.loop)
  | call body bound =>
    refine hnone rfl ?_
    unfold act
    dsimp only
    split <;> exact stranded_submit body c.loop
  | wake number =>
    show _ ↔ ∀ t ∈ [], _
    refine iff_of_true ?_ (List.forall_mem_nil _)
    unfold act
    dsimp only
    split
    · exact hnil
    · split
      · exact stranded_join hnil ..
      · exact hnil
  | callSoon args => exact hnone rfl (stranded_callSoon args c.loop)
  | block => exact hnone rfl (stranded_block c.loop)
  | sever place =>
    refine hnone rfl ?_
    cases place <;> rfl
  | turn => exact hnone rfl (stranded_turned c.loop)
  | conclude ticket o => exact hnone rfl (stranded_conclude ticket o c.loop)

/-! ## Outcomes -/

theorem Sound.once (h : c.Sound name) : (c.loop.finished.map (·.1)).Nodup :=
  (List.nodup_append.mp (h.ledger.nodup_iff.mpr List.nodup_range)).1

theorem Sound.outcome? (h : c.Sound name) {ticket : Nat} {o : Outcome}
    (ho : (ticket, o) ∈ c.loop.finished) : c.loop.outcome? ticket = some o :=
  lookup_of_distinct h.once ho

/-- No call is left hanging: a coroutine that was handed to a thread which has exited has an
outcome, and only one, and is open on no thread.  A caller that waits for it gets that outcome, or
the refusal of a loop that was shut down if the coroutine stayed cancelled. -/
def NoneHangs (c : Course) : Prop :=
  ∀ n, c.Exited n → ∀ ticket, c.homes[ticket]? = some n →
    ∃ o, (c.loop.finished.map (·.1)).count ticket = 1 ∧ c.loop.outcome? ticket = some o ∧
      (∀ p ∈ c.pending, p.2.ticket ≠ ticket) ∧
      ∀ bound, join (.waiting ticket bound) c.loop = (told c.loop.name bound (some o), c.loop) ∧
        (o = .error .cancelled →
          told c.loop.name bound (some o) = .error (.callCancelled c.loop.name))

/-- No call is left hanging exactly if none was lost with its thread. -/
theorem none_hangs_iff_kept (h : c.Sound name) : c.NoneHangs ↔ c.loop.stranded = [] := by
  constructor
  · intro hnone
    refine List.eq_nil_iff_forall_not_mem.mpr fun ticket hk => ?_
    have hlt : ticket < c.homes.length := by
      rw [h.homes]
      exact List.mem_range.mp (h.ledger.subset
        (List.mem_append_right _ (List.mem_append_right _ hk)))
    have hhome := List.getElem?_eq_getElem hlt
    have hexited : c.Exited c.homes[ticket] :=
      ⟨h.housed _ (List.getElem_mem hlt), fun hn => h.lost ticket hk _ hn hhome⟩
    obtain ⟨o, -, ho, -⟩ := hnone _ hexited ticket hhome
    have hnodup := h.ledger.nodup_iff.mpr List.nodup_range
    exact (List.nodup_append.mp hnodup).2.2 ticket (List.mem_map_of_mem (mem_of_lookup ho)) ticket
      (List.mem_append_right _ hk) rfl
  · intro hnil n hn ticket hk
    have hopen : ∀ p ∈ c.pending, p.2.ticket ≠ ticket := by
      rintro p hp rfl
      obtain rfl := Option.some.inj ((h.resident p hp).symm.trans hk)
      obtain ⟨e, he, hjob⟩ := List.mem_flatMap.mp hp
      obtain ⟨job, -, rfl⟩ := List.mem_map.mp hjob
      exact hn.2 (List.mem_map_of_mem he)
    have hissued : ticket ∈ List.range c.loop.issued := by
      rw [List.mem_range, ← h.homes]
      exact (List.getElem?_eq_some_iff.mp hk).1
    have hfinished : ticket ∈ c.loop.finished.map (·.1) := by
      rcases List.mem_append.mp (h.ledger.mem_iff.mpr hissued) with hf | hf
      · exact hf
      · rw [hnil, List.append_nil] at hf
        obtain ⟨p, hp, -, hticket⟩ := mem_awaited.mp hf
        exact absurd hticket (hopen p hp)
    obtain ⟨⟨k, o⟩, hmem, rfl⟩ := List.mem_map.mp hfinished
    have ho := h.outcome? hmem
    refine ⟨o, List.count_eq_one_of_mem h.once hfinished, ho, hopen, fun bound => ⟨?_, ?_⟩⟩
    · rw [join_waiting, ho]
      rfl
    · rintro rfl
      rfl

/-! ## The end -/

theorem current_of_isRunning {l : EventLoop} (h : l.isRunning = false) : l.current = none :=
  Option.not_isSome_iff_eq_none.mp (Bool.eq_false_iff.mp h)

theorem current_release (h : c.Sound name) : (c.act .release).loop.current =
    (c.loop.current.filter fun t : LoopThread => !(t.occupied && t.departs)).map
      LoopThread.released := by
  obtain ⟨log, hr⟩ := release_state h.stuck
  show (release c.loop).2.current = _
  rw [hr]
  rfl

/-- After a move that ends the loop no thread accepts work. -/
theorem halted_of_ends (h : c.Sound name) {m : Move} (hm : m.ends c.loop = true) :
    (c.act m).loop.current = none := by
  cases m with
  | stop bound => exact current_of_isRunning (isRunning_stop bound c.loop)
  | kill =>
    show (kill c.loop).2.current = none
    rw [kill_state]
    cases hc : c.loop.current with
    | none => exact hc
    | some t =>
      have ho : t.occupied = false := by simpa [Move.ends, hc] using hm
      dsimp only
      rw [if_neg (by rw [ho]; exact Bool.false_ne_true)]
      rfl
  | release =>
    rw [current_release h]
    cases hc : c.loop.current with
    | none => rfl
    | some t =>
      have hd : (t.occupied && t.departs) = true := by simpa [Move.ends, hc] using hm
      simp only [Option.filter_some, hd]
      rfl
  | _ => cases hm

/-- Only a start makes a loop accept work again. -/
theorem halted_act (h : c.Sound name) (hc : c.loop.current = none) {m : Move} (hm : m ≠ .start) :
    (c.act m).loop.current = none := by
  have hhand (body : Coroutine) : (c.hand body).loop.current = none := by
    show (submit body c.loop).2.current = none
    rw [submit_none hc]
    exact hc
  cases m with
  | start => exact absurd rfl hm
  | stop bound =>
    show (stop bound c.loop).2.current = none
    rw [stop_none hc]
    exact hc
  | submit body => exact hhand body
  | call body bound =>
    unfold act
    dsimp only
    rw [submit_none hc]
    exact hhand body
  | wake number =>
    unfold act
    dsimp only
    split
    · exact hc
    · split
      · rw [join_waiting]
        dsimp only
        split
        · show c.loop.current.map _ = none
          rw [hc]
          rfl
        · exact hc
      · exact hc
  | callSoon args =>
    show (callSoon args c.loop).2.current = none
    rw [callSoon_none hc]
    exact hc
  | block =>
    show (block c.loop).2.current = none
    rw [block_none hc]
    exact hc
  | release =>
    rw [current_release h, hc]
    rfl
  | kill =>
    show (kill c.loop).2.current = none
    rw [kill_state, hc]
    exact hc
  | sever place =>
    cases place with
    | none =>
      show (c.loop.sever none).current = none
      rw [sever_none hc]
      exact hc
    | some place => exact hc
  | turn =>
    show c.loop.turned.current = none
    rw [turned_none hc]
    exact hc
  | conclude ticket o =>
    show (c.loop.conclude ticket o).current = none
    unfold conclude
    rw [hc]
    exact hc

theorem halted_run (h : c.Sound name) (hc : c.loop.current = none) {ms : List Move}
    (hm : Move.start ∉ ms) : (c.run ms).loop.current = none := by
  induction ms generalizing c with
  | nil => exact hc
  | cons m rest ih =>
    rw [List.mem_cons, not_or] at hm
    exact ih (next_act h m).sound (halted_act h hc (Ne.symm hm.1)) hm.2

/-! ## No call is left hanging -/

/-- Of a loop that never ran before, no call is lost while no thread that exits strands any. -/
theorem kept_run (name : String) {ms : List Move} :
    let c : Course := { loop := { name } }
    Throughout (fun before m => ∀ t ∈ m.leaving (c.run before).loop, ¬ t.Strands name) ms →
      (c.run ms).loop.stranded = [] := by
  intro c
  induction ms using List.reverseRecOn with
  | nil => exact fun _ => rfl
  | append_singleton ms m ih =>
    intro hno
    obtain ⟨hms, hm⟩ := throughout_concat.mp hno
    rw [run_concat]
    exact (stranded_act (next_run (sound_first name) ms).sound (ih hms) m).mpr hm

/-- Of a loop that never ran before, no call is left hanging at any time exactly if no thread
strands one when it exits. -/
theorem none_hangs_run (name : String) (ms : List Move) :
    let c : Course := { loop := { name } }
    Throughout (fun before m => ((c.run before).act m).NoneHangs) ms ↔
      Throughout (fun before m => ∀ t ∈ m.leaving (c.run before).loop, ¬ t.Strands name) ms := by
  intro c
  induction ms using List.reverseRecOn with
  | nil => exact ⟨fun _ => throughout_nil, fun _ => throughout_nil⟩
  | append_singleton ms m ih =>
    rw [throughout_concat, throughout_concat, ih]
    refine and_congr_right fun hms => ?_
    have h := (next_run (sound_first name) ms).sound
    rw [none_hangs_iff_kept (next_act h m).sound]
    exact stranded_act h (kept_run name hms) m

end Course

end EventLoop

end BluetoothControl
