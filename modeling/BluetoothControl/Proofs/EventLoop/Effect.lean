import BluetoothControl.EventLoop.Run
import Mathlib.Data.List.Perm.Basic

/-!
# What the operations of an event loop do

With no thread that accepts work every operation leaves the loop as it is, and those that need one
are refused.  With one, what an operation does to the loop depends on whether that thread is
occupied.
-/

namespace BluetoothControl

open Procedure
open scoped List

/-! ## Fates -/

section
variable {es : List (Job × Fate)}

/-- Whoever ends by itself has that for an outcome, or none. -/
theorem Fate.outcome_of_own {fate : Fate} {o : Outcome} (h : fate.own? = some o) :
    fate.outcome? = some o.filed ∨ fate.outcome? = none := by
  cases fate with
  | cancelled _ => cases h
  | concludes _ =>
    cases h
    exact Or.inl rfl
  | lost _ => exact Or.inr rfl

/-- A call that nobody has given up has an outcome or is lost. -/
theorem settled_fates (es : List (Job × Fate)) :
    (outcomesOf es).map (·.1) ++ lossesOf es ~
      ((es.map (·.1)).filter (!·.withdrawn)).map (·.ticket) := by
  induction es with
  | nil => exact List.Perm.refl _
  | cons e rest ih =>
    obtain ⟨job, fate⟩ := e
    cases hw : job.withdrawn with
    | true => simpa [outcomesOf, lossesOf, hw] using ih
    | false =>
      cases ho : fate.outcome? with
      | none =>
        simpa [outcomesOf, lossesOf, hw, ho] using List.perm_middle.trans (ih.cons job.ticket)
      | some o => simpa [outcomesOf, lossesOf, hw, ho] using ih.cons job.ticket

/-- What ends by itself, and whose call nobody has given up, has an outcome or is lost. -/
theorem noted_fates {ticket : Nat} {o : Outcome} (h : (ticket, o) ∈ conclusionsOf es) :
    (ticket, o.filed) ∈ outcomesOf es ∨ ticket ∈ lossesOf es ∨
      ∃ job ∈ es.map (·.1), job.ticket = ticket ∧ job.withdrawn = true := by
  obtain ⟨⟨job, fate⟩, he, hown⟩ := List.mem_filterMap.mp h
  obtain ⟨p, hp, heq⟩ := Option.map_eq_some_iff.mp hown
  obtain ⟨rfl, rfl⟩ := Prod.mk.inj heq
  cases hw : job.withdrawn with
  | true => exact Or.inr (Or.inr ⟨job, List.mem_map_of_mem he, rfl, hw⟩)
  | false =>
    rcases Fate.outcome_of_own hp with ho | ho
    · exact Or.inl (List.mem_filterMap.mpr ⟨_, he, by simp [hw, ho]⟩)
    · exact Or.inr (Or.inl (List.mem_filterMap.mpr ⟨_, he, by simp [hw, ho]⟩))

theorem LoopThread.map_fates (loop : String) (t : LoopThread) :
    (t.fates loop).map (·.1) = t.jobs := by
  unfold fates jobs
  rw [List.map_append, List.map_map, List.map_map]
  exact congrArg₂ _ (List.map_id _) (List.map_id _)

/-- What is left of a thread when the threads go on, if its loop does not end. -/
def LoopThread.released (t : LoopThread) : LoopThread :=
  if t.occupied then { t with callbacks := [], occupied := false } else t

end

namespace EventLoop

variable {l : EventLoop} {t : LoopThread}

/-- A loop with threads ended, and whatever was observed of it. -/
def parted (l : EventLoop) (ts : List LoopThread) (log : List Event) : EventLoop :=
  { l with
    finished := l.finished ++ ts.flatMap fun t => outcomesOf (t.fates l.name)
    concluded := l.concluded ++ ts.flatMap fun t => conclusionsOf (t.fates l.name)
    stranded := l.stranded ++ ts.flatMap fun t => lossesOf (t.fates l.name)
    log }

theorem ending_eq (l : EventLoop) (t : LoopThread) : ∃ log, l.ending t = l.parted [t] log := by
  refine ⟨(l.ending t).log, ?_⟩
  unfold parted
  rw [List.flatMap_singleton, List.flatMap_singleton, List.flatMap_singleton]
  rfl

/-! ## Threads -/

theorem require_none (h : l.current = none) :
    require l = (.error (.loopNotRunning l.name), l) := by
  unfold require
  rw [bind_ok (get_apply l), h]
  rfl

theorem require_some (h : l.current = some t) : require l = (.ok t, l) := by
  unfold require
  rw [bind_ok (get_apply l), h]
  rfl

/-- To ask for the loop's thread changes nothing. -/
theorem require_loop (l : EventLoop) : (require l).2 = l := by
  cases h : l.current with
  | none => rw [require_none h]
  | some t => rw [require_some h]

theorem stop_none (h : l.current = none) (bound : Seconds) : stop bound l = (.ok (), l) := by
  unfold stop
  rw [bind_ok (get_apply l), h]
  rfl

theorem stop_some (h : l.current = some t) (bound : Seconds) : stop bound l =
    if t.occupied then
      (.error (.telling bound (.threadStuck l.name bound)),
        { l with current := none, abandoned := l.abandoned ++ [{ t with halting := true }] })
    else (.ok (), { l with current := none }.ending t) := by
  unfold stop
  rw [bind_ok (get_apply l), h]
  cases ho : t.occupied with
  | true => simp only [ho, if_true]; rfl
  | false => simp only [ho, Bool.false_eq_true, if_false]; rfl

theorem name_stop (bound : Seconds) (l : EventLoop) : (stop bound l).2.name = l.name := by
  cases h : l.current with
  | none => rw [stop_none h]
  | some t =>
    rw [stop_some h]
    split <;> rfl

/-- However stopping turns out, the loop runs no more. -/
theorem isRunning_stop (bound : Seconds) (l : EventLoop) : (stop bound l).2.isRunning = false := by
  cases h : l.current with
  | none =>
    rw [stop_none h, isRunning, h]
    rfl
  | some t =>
    rw [stop_some h]
    split <;> rfl

theorem kill_state (l : EventLoop) : (kill l).2 = match l.current with
    | none => l
    | some t =>
      if t.occupied then { l with current := some { t with halting := true } }
      else { l with current := none }.ending t := rfl

theorem name_kill (l : EventLoop) : (kill l).2.name = l.name := by
  rw [kill_state]
  cases l.current with
  | none => rfl
  | some t =>
    dsimp only
    split <;> rfl

/-- A loop told to end either ends or, with its thread occupied, goes on for now. -/
theorem isRunning_kill (l : EventLoop) :
    (kill l).2.isRunning = l.isRunning ∨ (kill l).2.isRunning = false := by
  rw [kill_state]
  cases hc : l.current with
  | none => exact Or.inl rfl
  | some t =>
    dsimp only
    split
    · left
      rw [isRunning, isRunning, hc]
      rfl
    · exact Or.inr rfl

/-! ## Work -/

theorem submit_none (h : l.current = none) (body : Coroutine) :
    submit body l = (.error (.loopNotRunning l.name), l) := bind_error (require_none h)

theorem submit_some (h : l.current = some t) (body : Coroutine) :
    submit body l = (.ok l.issued,
      { l with
        issued := l.issued + 1
        current := some { t with queued := t.queued ++ [{ ticket := l.issued, body }] } }) := by
  unfold submit
  rw [bind_ok (require_some h), bind_ok (get_apply l)]
  rfl

/-- A caller that goes on and gives its call up changes the loop; any other leaves it as it is. -/
theorem join_waiting (ticket : Nat) (bound : Option Seconds) (l : EventLoop) :
    join (.waiting ticket bound) l =
      (told l.name bound (l.outcome? ticket),
        if (l.outcome? ticket).isNone && (Patience.under bound).refusal?.isNone then
          l.giveUp ticket
        else l) := by
  refine (bind_ok (get_apply l)).trans ?_
  cases (l.outcome? ticket).isNone && (Patience.under bound).refusal?.isNone <;> rfl

/-- A blocking call is to hand the coroutine over, to let the loop go on where the wait lasts, and
to go on. -/
theorem run_eq (body : Coroutine) (bound : Option Seconds) :
    run body bound = (do
      let ticket ← submit body
      if (Patience.under bound).lasts then goOn
      join (.waiting ticket bound)) := by
  funext l
  unfold run begin
  rw [bind_assoc, bind_apply, attempt_apply]
  rcases hs : submit body l with ⟨r, m⟩
  cases r with
  | error f => exact (bind_error hs).symm
  | ok ticket =>
    rw [bind_ok hs]
    cases (Patience.under bound).lasts with
    | false => rfl
    | true =>
      simp only [if_true]
      rw [bind_ok (show goOn m = (.ok (), (goOn m).2) from rfl)]
      show (_ >>= join) m = _
      simp only [bind_assoc]
      rw [bind_ok (show goOn m = (.ok (), (goOn m).2) from rfl), bind_ok (get_apply _)]
      cases bound.isNone || !(goOn m).2.current.any (·.occupied) <;> rfl

theorem callSoon_none (h : l.current = none) (args : List Value) :
    callSoon args l = (.error (.loopNotRunning l.name), l) := bind_error (require_none h)

theorem callSoon_some (h : l.current = some t) (args : List Value) : (callSoon args l).2 =
    if t.occupied then { l with current := some { t with callbacks := t.callbacks ++ [args] } }
    else { l with log := l.log ++ [.callback args true] } := by
  unfold callSoon
  rw [bind_ok (require_some h)]
  rfl

theorem block_none (h : l.current = none) : (block l).2 = l := by
  unfold block
  rw [bind_error (require_none h)]

theorem block_some (h : l.current = some t) :
    (block l).2 = { l with current := some { t with occupied := true } } := by
  unfold block
  rw [bind_ok (require_some h)]
  rfl

theorem sever_none (h : l.current = none) : l.sever none = l := by
  cases l
  cases h
  rfl

theorem sever_some (h : l.current = some t) :
    l.sever none = { l with current := some t.sever } := by
  unfold sever
  rw [h]
  rfl

/-! ## Threads that go on -/

theorem turned_none (h : l.current = none) : l.turned = l := by
  unfold turned
  rw [h]

theorem turned_occupied (h : l.current = some t) (ho : t.occupied = true) : l.turned = l := by
  unfold turned
  rw [h]
  dsimp only
  rw [if_pos ho]

/-- What a loop does next that is free: what waits and was given up is cancelled, or a job is let
run, or there is nothing to do. -/
theorem turned_free (h : l.current = some t) (ho : t.occupied = false) :
    (∃ job before after, t.suspended = before ++ job :: after ∧ job.withdrawn = true ∧
      l.turned = { l with
        current := some { t with suspended := before ++ after }
        log := l.log ++ [.cancelled] }) ∨
    (∃ job rest, t.queued = job :: rest ∧ l.turned = l.letRun job { t with queued := rest }) ∨
    l.turned = l := by
  unfold turned
  rw [h]
  dsimp only
  rw [ho, if_neg Bool.false_ne_true]
  split
  · next hany =>
    obtain ⟨a, ha, hw⟩ := List.any_eq_true.mp hany
    obtain ⟨job, before, after, -, hjob, hsplit, herase⟩ := List.exists_of_eraseP ha hw
    exact Or.inl ⟨job, before, after, hsplit, hjob, by rw [herase]⟩
  · cases hq : t.queued with
    | nil => exact Or.inr (Or.inr rfl)
    | cons job rest => exact Or.inr (Or.inl ⟨job, rest, rfl, rfl⟩)

/-- A coroutine that waits ends by itself only on a thread that is free. -/
theorem conclude_cases (ticket : Nat) (o : Outcome) (l : EventLoop) :
    l.conclude ticket o = l ∨
    ∃ t job before after, l.current = some t ∧ t.occupied = false ∧
      t.suspended = before ++ job :: after ∧ job.ticket = ticket ∧
      l.conclude ticket o =
        { l with current := some { t with suspended := before ++ after } }.conclusion job o := by
  unfold conclude
  cases hc : l.current with
  | none => exact Or.inl rfl
  | some t =>
    dsimp only
    cases hf : t.suspended.find? (·.ticket == ticket) with
    | none => exact Or.inl rfl
    | some job =>
      dsimp only
      split
      · exact Or.inl rfl
      · next ho =>
        obtain ⟨hticket, before, after, hsplit, hbefore⟩ := List.find?_eq_some_iff_append.mp hf
        refine Or.inr ⟨t, job, before, after, rfl, Bool.eq_false_iff.mpr ho, hsplit,
          eq_of_beq hticket, ?_⟩
        have herase : (job :: after).eraseP (·.ticket == ticket) = after :=
          List.eraseP_cons_of_pos (p := fun j : Job => j.ticket == ticket) hticket
        rw [hsplit, List.eraseP_append_right _ fun a ha => by simpa using hbefore a ha, herase]

theorem resume_departing (l : EventLoop) (h : t.departs = true) :
    ∃ log, l.resume t = (l.parted [t] log, none) := by
  let m : EventLoop :=
    { l with log := l.log ++ t.callbacks.map fun args => Event.callback args true }
  obtain ⟨log, hlog⟩ := ending_eq m { t with callbacks := [] }
  refine ⟨log, ?_⟩
  unfold resume
  dsimp only
  rw [show ({ t with callbacks := [] } : LoopThread).departs = true from h, if_pos rfl]
  exact congrArg (·, none) hlog

/-- Threads that were told to end leave when they go on. -/
theorem resumeAll_halting {ts : List LoopThread}
    (h : ∀ t ∈ ts, t.occupied = true ∧ t.halting = true) (l : EventLoop) :
    ∃ log, resumeAll ts l = (l.parted ts log, []) := by
  induction ts generalizing l with
  | nil => exact ⟨l.log, by simp [parted, resumeAll]⟩
  | cons t rest ih =>
    obtain ⟨ho, hh⟩ := h t List.mem_cons_self
    obtain ⟨first, hfirst⟩ :=
      resume_departing (t := t) l (by rw [LoopThread.departs, hh, Bool.true_or])
    obtain ⟨log, hr⟩ := ih (fun u hu => h u (List.mem_cons_of_mem t hu)) (l.parted [t] first)
    refine ⟨log, ?_⟩
    unfold resumeAll
    rw [if_pos ho, hfirst]
    dsimp only
    rw [hr]
    simp [parted]

/-- What becomes of the thread that accepts work when the threads go on. -/
theorem resumeAll_current (l : EventLoop) (t : LoopThread) :
    ∃ log, resumeAll [t] l =
      if t.occupied && t.departs then (l.parted [t] log, [])
      else ({ l with log }, [t.released]) := by
  have happly : resumeAll [t] l =
      ((if t.occupied then l.resume t else (l, some t)).1,
        (if t.occupied then l.resume t else (l, some t)).2.toList ++ []) := rfl
  rw [happly, List.append_nil]
  unfold LoopThread.released
  cases ho : t.occupied with
  | false => exact ⟨l.log, rfl⟩
  | true =>
    cases hd : t.departs with
    | true =>
      obtain ⟨log, hlog⟩ := resume_departing (t := t) l hd
      refine ⟨log, ?_⟩
      rw [if_pos rfl, hlog]
      rfl
    | false =>
      refine ⟨l.log ++ t.callbacks.map fun args => Event.callback args true, ?_⟩
      unfold resume
      dsimp only
      rw [show ({ t with callbacks := [] } : LoopThread).departs = false from hd]
      rfl

theorem leaving_release (h : ∀ t ∈ l.abandoned, t.occupied = true ∧ t.halting = true) :
    Move.release.leaving l =
      l.abandoned ++ l.current.toList.filter fun t => t.occupied && t.departs := by
  show List.filter _ (l.abandoned ++ l.current.toList) = _
  rw [List.filter_append, List.filter_eq_self.mpr fun t ht => ?_]
  rw [LoopThread.departs, (h t ht).1, (h t ht).2]
  rfl

/-- When the threads go on, those given up end and so does the one that accepts work if its loop
does. -/
theorem release_state (h : ∀ t ∈ l.abandoned, t.occupied = true ∧ t.halting = true) :
    ∃ log, (release l).2 =
      { l with
        current := (l.current.filter fun t : LoopThread => !(t.occupied && t.departs)).map
          LoopThread.released
        abandoned := [] }.parted (Move.release.leaving l) log := by
  obtain ⟨log, ha⟩ := resumeAll_halting h l
  unfold release
  rw [modify_apply, ha, leaving_release h]
  dsimp only
  cases hc : l.current with
  | none =>
    refine ⟨log, ?_⟩
    simp [parted, resumeAll, hc]
  | some t =>
    obtain ⟨log', hr⟩ := resumeAll_current (l.parted l.abandoned log) t
    refine ⟨log', ?_⟩
    have hcurrent : (l.parted l.abandoned log).current = some t := hc
    rw [hcurrent, Option.toList_some, hr]
    cases hd : t.occupied && t.departs with
    | true => simp [parted, Option.filter_some, hd, -Bool.not_and]
    | false => simp [parted, Option.filter_some, hd, -Bool.not_and]

end EventLoop

end BluetoothControl
