import BluetoothControl.Lookup
import BluetoothControl.Proofs.EventLoop.Effect
import Mathlib.Data.List.Nodup
import Mathlib.Data.List.Perm.Subperm

/-!
# Tickets

Every operation of a loop accounts for the calls on its threads: a call that nobody has given up
gets an outcome, or is lost with its thread, or stays open on the thread it is on.  It is one of the
three, never two, and no outcome is ever withdrawn (`next_act`).
-/

namespace BluetoothControl

open Procedure
open scoped List

/-- Taking out what occurs once. -/
theorem perm_cons_without {as : List Nat} (hn : as.Nodup) {a : Nat} (ha : a ∈ as) :
    a :: as.filter (· != a) ~ as := by
  rw [← hn.erase_eq_filter]
  exact (List.perm_cons_erase ha).symm

namespace EventLoop.Course

/-- The tickets of the calls among these that nobody has given up. -/
def awaited (ps : List (Nat × Job)) : List Nat := (ps.filter (!·.2.withdrawn)).map (·.2.ticket)

/-- Every ticket given out has one outcome, or is open on one thread that is alive, the one that it
was handed to, or was lost with its thread.  Threads have numbers of their own; those that were
given up are occupied and were told to end.  Each caller waits for a ticket of its own, which it has
not given up; and if its coroutine ended by itself that was noted, or the call was lost. -/
structure Sound (name : String) (c : Course) : Prop where
  name : c.loop.name = name
  ledger : c.loop.finished.map (·.1) ++ (awaited c.pending ++ c.loop.stranded) ~
    List.range c.loop.issued
  homes : c.homes.length = c.loop.issued
  resident : ∀ p ∈ c.pending, c.homes[p.2.ticket]? = some p.1
  housed : ∀ n ∈ c.homes, 0 < n ∧ n ≤ c.started
  numbers : (c.threads.map (·.1)).Nodup
  counted : ∀ n ∈ c.threads.map (·.1), 0 < n ∧ n ≤ c.started
  callers : ∀ e ∈ c.callers, e.1 < c.loop.issued
  distinct : (c.callers.map (·.1)).Nodup
  awaiting : ∀ p ∈ c.pending, p.2.withdrawn = true → p.2.ticket ∉ c.callers.map (·.1)
  past : ∀ e ∈ c.loop.concluded, e.1 < c.loop.issued
  noted : ∀ e ∈ c.loop.concluded, (e.1, Outcome.filed e.2) ∈ c.loop.finished ∨
    e.1 ∈ c.loop.stranded ∨ e.1 ∉ c.callers.map (·.1)
  lost : ∀ k ∈ c.loop.stranded, ∀ n ∈ c.threads.map (·.1), c.homes[k]? ≠ some n
  aligned : c.givenUp.length = c.loop.abandoned.length
  stuck : ∀ t ∈ c.loop.abandoned, t.occupied = true ∧ t.halting = true

/-- From a course in order to the next: it stays in order, and outcomes are added only. -/
structure Next (name : String) (c d : Course) : Prop where
  sound : d.Sound name
  finished : c.loop.finished <+: d.loop.finished

variable {name : String} {c d : Course}

theorem next_refl (h : c.Sound name) : Next name c c := ⟨h, List.prefix_refl _⟩

theorem Next.trans {e : Course} (h : Next name c d) (h' : Next name d e) : Next name c e :=
  ⟨h'.sound, h.finished.trans h'.finished⟩

theorem Sound.issued (h : c.Sound name) {p : Nat × Job} (hp : p ∈ c.pending) :
    p.2.ticket < c.loop.issued := by
  rw [← h.homes]
  exact (List.getElem?_eq_some_iff.mp (h.resident p hp)).1

/-! ## What is open -/

theorem awaited_append (ps qs : List (Nat × Job)) :
    awaited (ps ++ qs) = awaited ps ++ awaited qs := by
  unfold awaited
  rw [List.filter_append, List.map_append]

theorem awaited_perm {ps qs : List (Nat × Job)} (h : ps ~ qs) : awaited ps ~ awaited qs :=
  (h.filter _).map _

theorem mem_awaited {ps : List (Nat × Job)} {k : Nat} :
    k ∈ awaited ps ↔ ∃ p ∈ ps, p.2.withdrawn = false ∧ p.2.ticket = k := by
  simp [awaited, and_assoc]

/-- The jobs of the thread of a number. -/
theorem awaited_numbered (n : Nat) (js : List Job) :
    awaited (js.map fun job => (n, job)) = (js.filter (!·.withdrawn)).map (·.ticket) := by
  unfold awaited
  rw [List.filter_map, List.map_map]
  rfl

theorem pending_eq (c : Course) : c.pending =
    (c.loop.current.toList.flatMap fun t => t.jobs.map fun job => (c.started, job)) ++
      (c.givenUp.zip c.loop.abandoned).flatMap fun e => e.2.jobs.map fun job => (e.1, job) := by
  unfold pending threads
  rw [List.flatMap_append, List.flatMap_map]

/-- What is open no more moves in the ledger to what is settled or lost. -/
theorem Sound.moved (h : c.Sound name) {gone rest : List (Nat × Job)} {losses : List Nat}
    {done : List (Nat × Outcome)} (hpending : c.pending ~ gone ++ rest)
    (hsettled : done.map (·.1) ++ losses ~ awaited gone) :
    (c.loop.finished ++ done).map (·.1) ++ (awaited rest ++ (c.loop.stranded ++ losses)) ~
      List.range c.loop.issued := by
  have ha : awaited c.pending ~ done.map (·.1) ++ losses ++ awaited rest := by
    refine (awaited_perm hpending).trans ?_
    rw [awaited_append]
    exact hsettled.symm.append_right _
  rw [List.map_append]
  calc c.loop.finished.map (·.1) ++ done.map (·.1) ++
        (awaited rest ++ (c.loop.stranded ++ losses))
      = c.loop.finished.map (·.1) ++ (done.map (·.1) ++
          (awaited rest ++ (c.loop.stranded ++ losses))) := List.append_assoc ..
    _ ~ c.loop.finished.map (·.1) ++ (done.map (·.1) ++
          (losses ++ (awaited rest ++ c.loop.stranded))) := by
        refine List.Perm.append_left _ (List.Perm.append_left _ ?_)
        rw [← List.append_assoc]
        exact List.perm_append_comm
    _ = c.loop.finished.map (·.1) ++ (done.map (·.1) ++ losses ++ awaited rest ++
          c.loop.stranded) := by simp only [List.append_assoc]
    _ ~ c.loop.finished.map (·.1) ++ (awaited c.pending ++ c.loop.stranded) :=
        (ha.symm.append_right _).append_left _
    _ ~ List.range c.loop.issued := h.ledger

/-- Some of what is open is open no more, each call of it settled or lost, and nothing else changes
but for what is observed. -/
theorem next_of_pending (h : c.Sound name) (gone : List (Nat × Job)) {l : EventLoop}
    {givenUp losses : List Nat} {done ends : List (Nat × Outcome)}
    (hd : d = { c with loop := l, givenUp })
    (hname : l.name = c.loop.name) (hissued : l.issued = c.loop.issued)
    (hfinished : l.finished = c.loop.finished ++ done)
    (hconcluded : l.concluded = c.loop.concluded ++ ends)
    (hstranded : l.stranded = c.loop.stranded ++ losses)
    (hpending : c.pending ~ gone ++ d.pending)
    (hsettled : done.map (·.1) ++ losses ~ awaited gone)
    (hends : ∀ e ∈ ends, (∃ p ∈ gone, p.2.ticket = e.1) ∧
      ((e.1, Outcome.filed e.2) ∈ done ∨ e.1 ∈ losses ∨
        ∃ p ∈ gone, p.2.ticket = e.1 ∧ p.2.withdrawn = true))
    (hnumbers : d.threads.map (·.1) <+~ c.threads.map (·.1))
    (hlosses : losses = [] ∨ ∀ p ∈ gone, p.1 ∉ d.threads.map (·.1))
    (haligned : givenUp.length = l.abandoned.length)
    (hstuck : ∀ t ∈ l.abandoned, t.occupied = true ∧ t.halting = true) : Next name c d := by
  have hgone {p : Nat × Job} (hp : p ∈ gone) : p ∈ c.pending :=
    hpending.mem_iff.mpr (List.mem_append_left _ hp)
  have hstay {p : Nat × Job} (hp : p ∈ d.pending) : p ∈ c.pending :=
    hpending.mem_iff.mpr (List.mem_append_right _ hp)
  have hledger : l.finished.map (·.1) ++ (awaited d.pending ++ l.stranded) ~
      List.range l.issued := by
    rw [hfinished, hstranded, hissued]
    exact h.moved hpending hsettled
  subst hd
  refine ⟨{
    name := hname.trans h.name
    ledger := hledger
    homes := h.homes.trans hissued.symm
    resident := fun p hp => h.resident p (hstay hp)
    housed := h.housed
    numbers := ?_
    counted := fun n hn => h.counted n (hnumbers.subset hn)
    callers := fun e he => ?_
    distinct := h.distinct
    awaiting := fun p hp => h.awaiting p (hstay hp)
    past := fun e he => ?_
    noted := fun e he => ?_
    lost := fun k hk n hn => ?_
    aligned := haligned
    stuck := hstuck }, ?_⟩
  · obtain ⟨numbers, hperm, hsub⟩ := hnumbers
    exact hperm.nodup_iff.mp (h.numbers.sublist hsub)
  · show e.1 < l.issued
    rw [hissued]
    exact h.callers e he
  · show e.1 < l.issued
    rw [hissued]
    change e ∈ l.concluded at he
    rw [hconcluded] at he
    rcases List.mem_append.mp he with he | he
    · exact h.past e he
    · obtain ⟨⟨p, hp, hticket⟩, -⟩ := hends e he
      rw [← hticket]
      exact h.issued (hgone hp)
  · show (e.1, Outcome.filed e.2) ∈ l.finished ∨ e.1 ∈ l.stranded ∨ _
    change e ∈ l.concluded at he
    rw [hconcluded] at he
    rw [hfinished, hstranded]
    rcases List.mem_append.mp he with he | he
    · rcases h.noted e he with hf | hs | hc
      · exact Or.inl (List.mem_append_left _ hf)
      · exact Or.inr (Or.inl (List.mem_append_left _ hs))
      · exact Or.inr (Or.inr hc)
    · rcases (hends e he).2 with hf | hs | ⟨p, hp, hticket, hw⟩
      · exact Or.inl (List.mem_append_right _ hf)
      · exact Or.inr (Or.inl (List.mem_append_right _ hs))
      · rw [← hticket]
        exact Or.inr (Or.inr (h.awaiting p (hgone hp) hw))
  · change k ∈ l.stranded at hk
    rw [hstranded] at hk
    rcases List.mem_append.mp hk with hk | hk
    · exact h.lost k hk n (hnumbers.subset hn)
    · rcases hlosses with rfl | hleft
      · cases hk
      · obtain ⟨p, hp, -, hticket⟩ := mem_awaited.mp (hsettled.subset (List.mem_append_right _ hk))
        intro hhome
        have hp' := h.resident p (hgone hp)
        rw [hticket] at hp'
        obtain rfl := Option.some.inj (hp'.symm.trans hhome)
        exact hleft p hp hn
  · show c.loop.finished <+: l.finished
    rw [hfinished]
    exact List.prefix_append ..

/-- The thread that accepts work changes: some of its jobs are open no more. -/
theorem next_current (h : c.Sound name) (gone : List Job) {current : Option LoopThread}
    {done ends : List (Nat × Outcome)} {losses : List Nat} (log : List Event)
    (hcurrent : current.isSome = true → c.loop.current.isSome = true)
    (hjobs : c.loop.current.toList.flatMap (·.jobs) ~
      gone ++ current.toList.flatMap (·.jobs))
    (hsettled : done.map (·.1) ++ losses ~ (gone.filter (!·.withdrawn)).map (·.ticket))
    (hends : ∀ e ∈ ends, (∃ job ∈ gone, job.ticket = e.1) ∧
      ((e.1, Outcome.filed e.2) ∈ done ∨ e.1 ∈ losses ∨
        ∃ job ∈ gone, job.ticket = e.1 ∧ job.withdrawn = true))
    (hlosses : losses = [] ∨ current = none) :
    Next name c { c with
      loop := { c.loop with
        current, log
        finished := c.loop.finished ++ done
        concluded := c.loop.concluded ++ ends
        stranded := c.loop.stranded ++ losses } } := by
  have hnumbered (o : Option LoopThread) :
      (o.toList.flatMap fun t => t.jobs.map fun job => (c.started, job)) =
        (o.toList.flatMap (·.jobs)).map fun job => (c.started, job) := by
    rw [List.map_flatMap]
  have hmem {job : Job} (hjob : job ∈ gone) :
      (c.started, job) ∈ gone.map fun job => (c.started, job) := List.mem_map_of_mem hjob
  refine next_of_pending h (gone.map fun job => (c.started, job)) rfl rfl rfl rfl rfl rfl
    ?_ ?_ (fun e he => ?_) ?_ ?_ h.aligned h.stuck
  · rw [pending_eq, pending_eq, hnumbered, hnumbered, ← List.append_assoc, ← List.map_append]
    exact (hjobs.map _).append_right _
  · rw [awaited_numbered]
    exact hsettled
  · obtain ⟨⟨job, hjob, hticket⟩, hnoted⟩ := hends e he
    refine ⟨⟨_, hmem hjob, hticket⟩, hnoted.imp_right (Or.imp_right ?_)⟩
    rintro ⟨a, ha, hticket, hw⟩
    exact ⟨_, hmem ha, hticket, hw⟩
  · unfold threads
    rw [List.map_append, List.map_append, List.map_map, List.map_map]
    refine List.Sublist.subperm (List.Sublist.append ?_ (List.Sublist.refl _))
    cases current with
    | none => exact List.nil_sublist _
    | some t =>
      obtain ⟨s, hs⟩ := Option.isSome_iff_exists.mp (hcurrent rfl)
      rw [hs]
      exact List.Sublist.refl _
  · refine hlosses.imp_right ?_
    rintro rfl p hp hn
    obtain ⟨job, hjob, rfl⟩ := List.mem_map.mp hp
    cases hc : c.loop.current with
    | none =>
      rw [hc] at hjobs
      have hnil := hjobs.symm.subset (List.mem_append_left _ hjob)
      cases hnil
    | some t =>
      have hdistinct := h.numbers
      unfold threads at hdistinct
      rw [hc, List.map_append] at hdistinct
      exact (List.nodup_cons.mp hdistinct).1 hn

/-! ## Moves -/

section
variable {t : LoopThread}

theorem threads_none (hc : c.loop.current = none) :
    c.threads = c.givenUp.zip c.loop.abandoned := by
  unfold threads
  rw [hc]
  rfl

theorem threads_some (hc : c.loop.current = some t) :
    c.threads = (c.started, t) :: c.givenUp.zip c.loop.abandoned := by
  unfold threads
  rw [hc]
  rfl

theorem next_start (h : c.Sound name) : Next name c (c.act .start) := by
  show Next name c { c with
    loop := if c.loop.isRunning then c.loop else { c.loop with current := some {} }
    started := if c.loop.isRunning then c.started else c.started + 1 }
  cases hc : c.loop.current with
  | some t =>
    have hr : c.loop.isRunning = true := by rw [isRunning, hc]; rfl
    rw [hr]
    exact next_refl h
  | none =>
    have hr : c.loop.isRunning = false := by rw [isRunning, hc]; rfl
    rw [hr]
    have hnumbers := h.numbers
    have hcounted := h.counted
    have hlost := h.lost
    rw [threads_none hc] at hnumbers hcounted hlost
    have hpending : c.pending = (c.givenUp.zip c.loop.abandoned).flatMap
        fun e => e.2.jobs.map fun job => (e.1, job) := by
      rw [pending_eq, hc]
      rfl
    have hl := h.ledger
    have ht := h.resident
    have hw := h.awaiting
    rw [hpending] at hl ht hw
    refine ⟨{ h with
      ledger := hl, resident := ht, awaiting := hw
      housed := fun n hn => (h.housed n hn).imp_right Nat.le_succ_of_le
      numbers := List.nodup_cons.mpr ⟨fun hm => ?_, hnumbers⟩
      counted := fun n hn => ?_
      lost := fun k hk n hn => ?_ }, List.prefix_refl _⟩
    · exact absurd (hcounted _ hm).2 (Nat.not_succ_le_self _)
    · rcases List.mem_cons.mp hn with rfl | hn
      · exact ⟨Nat.succ_pos _, Nat.le_refl _⟩
      · exact (hcounted n hn).imp_right Nat.le_succ_of_le
    · rcases List.mem_cons.mp hn with rfl | hn
      · intro hhome
        exact absurd (h.housed _ (List.mem_of_getElem? hhome)).2 (Nat.not_succ_le_self _)
      · exact hlost k hk n hn

/-- A thread that is given up keeps its number and its jobs. -/
theorem next_abandon (h : c.Sound name) (hc : c.loop.current = some t) (ho : t.occupied = true) :
    Next name c { c with
      loop := { c.loop with
        current := none, abandoned := c.loop.abandoned ++ [{ t with halting := true }] }
      givenUp := c.givenUp ++ [c.started] } := by
  have hzip : (c.givenUp ++ [c.started]).zip (c.loop.abandoned ++ [{ t with halting := true }]) =
      c.givenUp.zip c.loop.abandoned ++ [(c.started, { t with halting := true })] :=
    List.zip_append h.aligned
  refine next_of_pending h [] rfl rfl rfl
    (List.append_nil _).symm (List.append_nil _).symm (List.append_nil _).symm ?_
    (List.Perm.refl _) (fun e he => nomatch he) ?_ (Or.inl rfl) ?_ ?_
  · rw [pending_eq, pending_eq, hc]
    dsimp only
    rw [hzip, Option.toList_none, Option.toList_some, List.flatMap_nil, List.flatMap_append,
      List.flatMap_singleton, List.flatMap_singleton]
    exact List.perm_append_comm
  · unfold threads
    dsimp only
    rw [hzip, hc, List.map_append, List.map_append, List.map_append]
    exact (List.perm_append_singleton c.started _).subperm
  · show (c.givenUp ++ [c.started]).length = (c.loop.abandoned ++ [_]).length
    rw [List.length_append, List.length_append, h.aligned]
    rfl
  · intro u hu
    rcases List.mem_append.mp hu with hu | hu
    · exact h.stuck u hu
    · obtain rfl := List.mem_singleton.mp hu
      exact ⟨ho, rfl⟩

/-- A thread ends, and so does everything open on it. -/
theorem next_exit (h : c.Sound name) (hc : c.loop.current = some t) (log : List Event) :
    Next name c { c with loop := { c.loop with current := none }.parted [t] log } := by
  unfold parted
  rw [List.flatMap_singleton, List.flatMap_singleton, List.flatMap_singleton]
  have hfates := LoopThread.map_fates c.loop.name t
  refine next_current h t.jobs log Bool.noConfusion ?_ ?_ (fun e he => ?_) (Or.inr rfl)
  · rw [hc, Option.toList_some, List.flatMap_singleton, Option.toList_none, List.flatMap_nil,
      List.append_nil]
  · rw [← hfates]
    exact settled_fates _
  · obtain ⟨⟨job, fate⟩, hjob, hown⟩ := List.mem_filterMap.mp he
    obtain ⟨o, -, rfl⟩ := Option.map_eq_some_iff.mp hown
    rw [← hfates]
    exact ⟨⟨job, List.mem_map_of_mem hjob, rfl⟩, noted_fates he⟩

theorem next_ending (h : c.Sound name) (hc : c.loop.current = some t) :
    Next name c { c with loop := { c.loop with current := none }.ending t } := by
  obtain ⟨log, hlog⟩ := ending_eq { c.loop with current := none } t
  rw [hlog]
  exact next_exit h hc log

theorem next_stop (h : c.Sound name) (bound : Seconds) : Next name c (c.act (.stop bound)) := by
  show Next name c { c with
    loop := (stop bound c.loop).2
    givenUp := if c.loop.current.any (·.occupied) then c.givenUp ++ [c.started] else c.givenUp }
  cases hc : c.loop.current with
  | none =>
    rw [stop_none hc]
    exact next_refl h
  | some t =>
    rw [stop_some hc, Option.any_some]
    by_cases ho : t.occupied = true
    · rw [if_pos ho, if_pos ho]
      exact next_abandon h hc ho
    · rw [if_neg ho, if_neg ho]
      exact next_ending h hc

/-- The thread changes, but for its jobs. -/
theorem next_thread (h : c.Sound name) (hc : c.loop.current = some t) (u : LoopThread)
    (hu : u.jobs ~ t.jobs) (log : List Event) :
    Next name c { c with loop := { c.loop with current := some u, log } } := by
  have hn := @next_current name c h [] (some u) [] [] [] log (fun _ => by rw [hc]; rfl)
    (by
      rw [hc, Option.toList_some, Option.toList_some, List.flatMap_singleton,
        List.flatMap_singleton]
      exact hu.symm)
    (List.Perm.refl _) (fun e he => nomatch he) (Or.inl rfl)
  rw [List.append_nil, List.append_nil, List.append_nil] at hn
  exact hn

theorem next_kill (h : c.Sound name) : Next name c (c.act .kill) := by
  show Next name c { c with loop := (kill c.loop).2 }
  rw [kill_state]
  cases hc : c.loop.current with
  | none => exact next_refl h
  | some t =>
    dsimp only
    split
    · exact next_thread h hc { t with halting := true } (List.Perm.refl _) _
    · exact next_ending h hc

theorem next_callSoon (h : c.Sound name) (args : List Value) :
    Next name c (c.act (.callSoon args)) := by
  show Next name c { c with loop := (callSoon args c.loop).2 }
  cases hc : c.loop.current with
  | none =>
    rw [callSoon_none hc]
    exact next_refl h
  | some t =>
    rw [callSoon_some hc]
    split
    · exact next_thread h hc { t with callbacks := t.callbacks ++ [args] } (List.Perm.refl _) _
    · have hn := next_thread h hc t (List.Perm.refl _) (c.loop.log ++ [.callback args true])
      rw [← hc] at hn
      exact hn

theorem next_block (h : c.Sound name) : Next name c (c.act .block) := by
  show Next name c { c with loop := (block c.loop).2 }
  cases hc : c.loop.current with
  | none =>
    rw [block_none hc]
    exact next_refl h
  | some t =>
    rw [block_some hc]
    exact next_thread h hc { t with occupied := true } (List.Perm.refl _) _

/-- A job ends by itself. -/
theorem next_conclusion (h : c.Sound name) (hc : c.loop.current = some t) {u : LoopThread}
    {job : Job} (hu : t.jobs ~ job :: u.jobs) (o : Outcome) :
    Next name c { c with loop := { c.loop with current := some u }.conclusion job o } := by
  have hn := @next_current name c h [job] (some u)
    (if job.withdrawn then [] else [(job.ticket, o.filed)]) [(job.ticket, o)] [] c.loop.log
    (fun _ => by rw [hc]; rfl)
    (by
      rw [hc, Option.toList_some, Option.toList_some, List.flatMap_singleton,
        List.flatMap_singleton]
      exact hu)
    (by cases hw : job.withdrawn <;> simp [hw])
    (fun e he => by
      obtain rfl := List.mem_singleton.mp he
      refine ⟨⟨job, List.mem_singleton_self _, rfl⟩, ?_⟩
      cases hw : job.withdrawn with
      | false => exact Or.inl (List.mem_singleton_self _)
      | true => exact Or.inr (Or.inr ⟨job, List.mem_singleton_self _, rfl, hw⟩))
    (Or.inl rfl)
  rw [List.append_nil] at hn
  exact hn

/-- A job whose call was given up is cancelled. -/
theorem next_cancelled (h : c.Sound name) (hc : c.loop.current = some t) {u : LoopThread}
    {job : Job} (hu : t.jobs ~ job :: u.jobs) (hw : job.withdrawn = true) (log : List Event) :
    Next name c { c with loop := { c.loop with current := some u, log } } := by
  have hn := @next_current name c h [job] (some u) [] [] [] log (fun _ => by rw [hc]; rfl)
    (by
      rw [hc, Option.toList_some, Option.toList_some, List.flatMap_singleton,
        List.flatMap_singleton]
      exact hu)
    (by simp [hw]) (fun e he => nomatch he) (Or.inl rfl)
  rw [List.append_nil, List.append_nil, List.append_nil] at hn
  exact hn

theorem next_letRun (h : c.Sound name) (hc : c.loop.current = some t) {job : Job} {rest : List Job}
    (hq : t.queued = job :: rest) :
    Next name c { c with loop := c.loop.letRun job { t with queued := rest } } := by
  have hjobs : t.jobs ~ job :: ({ t with queued := rest } : LoopThread).jobs := by
    rw [LoopThread.jobs, hq]
    exact List.perm_middle
  unfold letRun
  split
  · exact next_conclusion h hc hjobs _
  · split
    · next hw => exact next_cancelled h hc hjobs hw _
    · refine next_thread h hc { t with queued := rest, suspended := t.suspended ++ [job] } ?_ _
      rw [LoopThread.jobs, LoopThread.jobs, hq]
      exact List.Perm.of_eq (List.append_assoc ..)

theorem next_turn (h : c.Sound name) : Next name c (c.act .turn) := by
  show Next name c { c with loop := c.loop.turned }
  cases hc : c.loop.current with
  | none =>
    rw [turned_none hc]
    exact next_refl h
  | some t =>
    cases ho : t.occupied with
    | true =>
      rw [turned_occupied hc ho]
      exact next_refl h
    | false =>
      rcases turned_free hc ho with
        ⟨job, before, after, hs, hw, hturned⟩ | ⟨job, rest, hq, hturned⟩ | hturned
      · rw [hturned]
        refine next_cancelled h hc ?_ hw _
        rw [LoopThread.jobs, LoopThread.jobs, hs]
        exact List.perm_middle.append_right _
      · rw [hturned]
        exact next_letRun h hc hq
      · rw [hturned]
        exact next_refl h

theorem next_conclude (h : c.Sound name) (ticket : Nat) (o : Outcome) :
    Next name c (c.act (.conclude ticket o)) := by
  show Next name c { c with loop := c.loop.conclude ticket o }
  rcases conclude_cases ticket o c.loop with heq | ⟨t, job, before, after, hc, -, hs, -, heq⟩
  · rw [heq]
    exact next_refl h
  · rw [heq]
    refine next_conclusion h hc ?_ o
    rw [LoopThread.jobs, LoopThread.jobs, hs]
    exact List.perm_middle.append_right _

theorem sever_abandoned {t : LoopThread} (h : t.occupied = true ∧ t.halting = true) :
    t.sever.occupied = true ∧ t.sever.halting = true := by
  unfold LoopThread.sever
  rw [if_pos h.1]
  exact h

/-- What occupies a thread can stop its loop; that changes nothing that is open. -/
theorem next_sever (h : c.Sound name) (place : Option Nat) :
    Next name c (c.act (.sever place)) := by
  have hjobs (t : LoopThread) : t.sever.jobs = t.jobs := by
    unfold LoopThread.sever
    split <;> rfl
  cases place with
  | none =>
    show Next name c { c with loop := c.loop.sever none }
    cases hc : c.loop.current with
    | none =>
      rw [sever_none hc]
      exact next_refl h
    | some t =>
      rw [sever_some hc]
      exact next_thread h hc t.sever (List.Perm.of_eq (hjobs t)) _
  | some place =>
    let abandoned := c.loop.abandoned.modify place (·.sever)
    show Next name c { c with loop := { c.loop with abandoned } }
    have hlength : c.givenUp.length = abandoned.length :=
      h.aligned.trans (List.length_modify ..).symm
    have hopen (ts : List LoopThread) :
        ((c.givenUp.zip ts).flatMap fun e => e.2.jobs.map fun job => (e.1, job)) =
          (c.givenUp.zip (ts.map (·.jobs))).flatMap fun e => e.2.map fun job => (e.1, job) := by
      rw [List.zip_map_right, List.flatMap_map]
      rfl
    have hsame : abandoned.map (·.jobs) = c.loop.abandoned.map (·.jobs) := by
      refine List.ext_getElem? fun i => ?_
      rw [List.getElem?_map, List.getElem?_map, List.getElem?_modify]
      split <;> cases c.loop.abandoned[i]? <;> simp [hjobs]
    refine next_of_pending h [] rfl rfl rfl
      (List.append_nil _).symm (List.append_nil _).symm (List.append_nil _).symm ?_
      (List.Perm.refl _) (fun e he => nomatch he) ?_ (Or.inl rfl) hlength fun t ht => ?_
    · rw [List.nil_append, pending_eq, pending_eq, hopen, hopen, hsame]
    · refine (List.Perm.of_eq ?_).subperm
      unfold threads
      rw [List.map_append, List.map_append, List.map_fst_zip (Nat.le_of_eq hlength),
        List.map_fst_zip (Nat.le_of_eq h.aligned)]
    · exact forall_mem_modify h.stuck
        (fun u hu => sever_abandoned (h.stuck u (List.mem_of_getElem? hu))) t ht

/-- The threads that were given up end, and so does everything open on them. -/
theorem next_leave (h : c.Sound name) (log : List Event) :
    Next name c { c with
      loop := { c.loop with abandoned := [] }.parted c.loop.abandoned log, givenUp := [] } := by
  have hzip : (c.givenUp.zip c.loop.abandoned).flatMap (fun e => e.2.jobs) =
      c.loop.abandoned.flatMap (·.jobs) := by
    rw [← List.flatMap_map Prod.snd, List.map_snd_zip (Nat.le_of_eq h.aligned.symm)]
  have hfates (ts : List LoopThread) :
      (ts.flatMap fun t => t.fates c.loop.name).map (·.1) = ts.flatMap (·.jobs) := by
    rw [List.map_flatMap]
    simp only [LoopThread.map_fates]
  let es := c.loop.abandoned.flatMap fun t => t.fates c.loop.name
  let gone := (c.givenUp.zip c.loop.abandoned).flatMap fun e => e.2.jobs.map fun job => (e.1, job)
  have hgone : gone.map (·.2) = es.map (·.1) := by
    rw [hfates, ← hzip, List.map_flatMap]
    simp only [List.map_map, Function.comp_def, List.map_id']
  have hjob {job : Job} (hj : job ∈ es.map (·.1)) : ∃ p ∈ gone, p.2 = job := by
    rw [← hgone] at hj
    exact List.mem_map.mp hj
  have hd : (c.loop.abandoned.flatMap fun t => outcomesOf (t.fates c.loop.name)) = outcomesOf es :=
    (List.filterMap_flatMap ..).symm
  have he : (c.loop.abandoned.flatMap fun t => conclusionsOf (t.fates c.loop.name)) =
    conclusionsOf es := (List.filterMap_flatMap ..).symm
  have hl : (c.loop.abandoned.flatMap fun t => lossesOf (t.fates c.loop.name)) = lossesOf es :=
    (List.filterMap_flatMap ..).symm
  unfold parted
  dsimp only
  rw [hd, he, hl]
  refine next_of_pending h gone rfl rfl rfl rfl rfl rfl ?_ ?_ (fun e hmem => ?_) ?_ ?_
    rfl (fun t ht => nomatch ht)
  · rw [pending_eq, pending_eq, List.zip_nil_left, List.flatMap_nil, List.append_nil]
    exact List.perm_append_comm
  · have ha : awaited gone = ((gone.map (·.2)).filter (!·.withdrawn)).map (·.ticket) := by
      unfold awaited
      rw [List.filter_map, List.map_map]
      rfl
    rw [ha, hgone]
    exact settled_fates es
  · obtain ⟨⟨job, fate⟩, hjf, hown⟩ := List.mem_filterMap.mp hmem
    obtain ⟨o, -, rfl⟩ := Option.map_eq_some_iff.mp hown
    obtain ⟨p, hp, hpj⟩ := hjob (List.mem_map_of_mem hjf)
    refine ⟨⟨p, hp, by rw [hpj]⟩, (noted_fates hmem).imp_right (Or.imp_right ?_)⟩
    rintro ⟨j, hj, hticket, hw⟩
    obtain ⟨q, hq, rfl⟩ := hjob hj
    exact ⟨q, hq, hticket, hw⟩
  · refine List.Sublist.subperm ?_
    unfold threads
    rw [List.zip_nil_left, List.append_nil, List.map_append]
    exact List.sublist_append_left ..
  · refine Or.inr fun p hp hn => ?_
    obtain ⟨e, hez, hpe⟩ := List.mem_flatMap.mp hp
    obtain ⟨job, -, rfl⟩ := List.mem_map.mp hpe
    unfold threads at hn
    rw [List.zip_nil_left, List.append_nil] at hn
    have hnumbers := h.numbers
    unfold threads at hnumbers
    rw [List.map_append] at hnumbers
    exact (List.nodup_append.mp hnumbers).2.2 _ hn _ (List.mem_map_of_mem hez) rfl

theorem next_release (h : c.Sound name) : Next name c (c.act .release) := by
  obtain ⟨log, hr⟩ := release_state h.stuck
  show Next name c { c with loop := (release c.loop).2, givenUp := [] }
  have hleave := next_leave h log
  rw [hr, leaving_release h.stuck]
  cases hc : c.loop.current with
  | none =>
    rw [Option.toList_none, List.filter_nil, List.append_nil, Option.filter_none, Option.map_none,
      ← hc]
    exact hleave
  | some t =>
    have hsplit (ts : List LoopThread) (current : Option LoopThread) :
        { c.loop with current, abandoned := [] }.parted (c.loop.abandoned ++ ts) log =
          { { c.loop with abandoned := [] }.parted c.loop.abandoned log with current }.parted ts
            log := by
      simp [parted]
    rw [hsplit]
    refine hleave.trans ?_
    cases hd : t.occupied && t.departs with
    | true =>
      have hexit := next_exit (t := t) hleave.sound hc log
      simpa [Option.filter_some, hd, -Bool.not_and] using hexit
    | false =>
      have hstay := next_thread (t := t) hleave.sound hc t.released
        (by unfold LoopThread.released; split <;> exact List.Perm.refl _) log
      simpa [Option.filter_some, hd, parted, -Bool.not_and] using hstay

/-- What is open after a call was given up. -/
theorem pending_giveUp (c : Course) (ticket : Nat) :
    ({ c with loop := c.loop.giveUp ticket } : Course).pending =
      c.pending.map fun p => (p.1, p.2.withdraw ticket) := by
  have hjobs (n : Nat) (t : LoopThread) :
      ((t.withdraw ticket).jobs.map fun job => (n, job)) =
        (t.jobs.map fun job => (n, job)).map fun p => (p.1, p.2.withdraw ticket) := by
    simp [LoopThread.withdraw, LoopThread.jobs, Function.comp_def]
  rw [pending_eq, pending_eq]
  unfold giveUp
  rw [List.map_append, List.map_flatMap, List.map_flatMap, List.zip_map_right, List.flatMap_map]
  congr 1
  · cases c.loop.current with
    | none => rfl
    | some t => simp [hjobs]
  · simp only [← hjobs]
    rfl

/-! ## Callers -/

/-- A caller that goes on is one of those that waited, each for a ticket of its own. -/
theorem Sound.leaves (h : c.Sound name) {number ticket : Nat} {bound : Option Seconds}
    (he : c.callers[number]? = some (ticket, bound)) :
    (c.callers.eraseIdx number).map (·.1) <+ c.callers.map (·.1) ∧
      ticket ∉ (c.callers.eraseIdx number).map (·.1) := by
  refine ⟨(List.eraseIdx_sublist c.callers number).map _, ?_⟩
  obtain ⟨hlt, hget⟩ := List.getElem?_eq_some_iff.mp he
  have hperm := (List.getElem_cons_eraseIdx_perm hlt).map (·.1)
  rw [hget] at hperm
  exact (List.nodup_cons.mp (hperm.nodup_iff.mpr h.distinct)).1

/-- A caller goes on that has learnt what it waited for. -/
theorem next_goesOn (h : c.Sound name) (number : Nat) :
    Next name c { c with callers := c.callers.eraseIdx number } := by
  have hsub := (List.eraseIdx_sublist c.callers number).map (·.1)
  exact ⟨{ h with
    callers := fun e he => h.callers e (List.mem_of_mem_eraseIdx he)
    distinct := h.distinct.sublist hsub
    awaiting := fun p hp hw hm => h.awaiting p hp hw (hsub.subset hm)
    noted := fun e he => (h.noted e he).imp_right (Or.imp_right fun hc hm => hc (hsub.subset hm)) },
    List.prefix_refl _⟩

theorem withdraw_ticket (ticket : Nat) (job : Job) : (job.withdraw ticket).ticket = job.ticket := by
  unfold Job.withdraw
  split <;> rfl

theorem withdrawn_withdraw {ticket : Nat} {job : Job} :
    (job.withdraw ticket).withdrawn = true ↔ job.withdrawn = true ∨ job.ticket = ticket := by
  unfold Job.withdraw
  split <;> simp [*]

/-- What is awaited after a call was given up. -/
theorem awaited_withdraw (ticket : Nat) (ps : List (Nat × Job)) :
    awaited (ps.map fun p => (p.1, p.2.withdraw ticket)) = (awaited ps).filter (· != ticket) := by
  induction ps with
  | nil => rfl
  | cons p rest ih =>
    obtain ⟨n, job⟩ := p
    unfold awaited at ih ⊢
    by_cases hk : job.ticket = ticket <;> cases hw : job.withdrawn <;>
      simp [Job.withdraw, hk, hw] at ih ⊢ <;> exact ih

/-- A call that is given up moves in the ledger to what is settled. -/
theorem Sound.withdrawn (h : c.Sound name) {ticket : Nat} (hissued : ticket < c.loop.issued)
    (hopen : c.loop.outcome? ticket = none) :
    (c.loop.giveUp ticket).finished.map (·.1) ++
      ((awaited c.pending).filter (· != ticket) ++ (c.loop.giveUp ticket).stranded) ~
        List.range c.loop.issued := by
  have hunsettled : ticket ∉ c.loop.finished.map (·.1) := by
    intro hm
    obtain ⟨e, hmem, rfl⟩ := List.mem_map.mp hm
    exact absurd (List.lookup_eq_none_iff.mp hopen _ hmem) (by simp)
  have hnodup : (awaited c.pending ++ c.loop.stranded).Nodup :=
    (List.nodup_append.mp (h.ledger.nodup_iff.mpr List.nodup_range)).2.1
  have hmem : ticket ∈ awaited c.pending ++ c.loop.stranded :=
    (List.mem_append.mp (h.ledger.mem_iff.mpr (List.mem_range.mpr hissued))).resolve_left hunsettled
  unfold giveUp
  dsimp only
  rw [List.map_append, ← List.filter_append, List.append_assoc]
  exact ((perm_cons_without hnodup hmem).append_left _).trans h.ledger

/-- A caller goes on and gives its call up. -/
theorem next_giveUp (h : c.Sound name) {number ticket : Nat} {bound : Option Seconds}
    (he : c.callers[number]? = some (ticket, bound)) (hopen : c.loop.outcome? ticket = none) :
    Next name c { c with
      loop := c.loop.giveUp ticket, callers := c.callers.eraseIdx number } := by
  obtain ⟨hsub, hgone⟩ := h.leaves he
  have hstay {k : Nat} (hk : k ∉ c.callers.map (·.1)) :
      k ∉ (c.callers.eraseIdx number).map (·.1) := fun hm => hk (hsub.subset hm)
  let d : Course :=
    { c with loop := c.loop.giveUp ticket, callers := c.callers.eraseIdx number }
  have hpending : d.pending = c.pending.map fun p => (p.1, p.2.withdraw ticket) :=
    pending_giveUp c ticket
  have hthreads : d.threads.map (·.1) = c.threads.map (·.1) := by
    have haligned := h.aligned
    unfold threads d giveUp
    cases c.loop.current <;>
      simp [List.map_fst_zip, haligned]
  show Next name c d
  refine ⟨{
    name := h.name
    ledger := ?_
    homes := h.homes
    resident := fun p hp => ?_
    housed := h.housed
    numbers := ?_
    counted := ?_
    callers := fun e he => h.callers e (List.mem_of_mem_eraseIdx he)
    distinct := h.distinct.sublist hsub
    awaiting := fun p hp hw => ?_
    past := h.past
    noted := fun e hmem => ?_
    lost := fun k hk n hn => ?_
    aligned := ?_
    stuck := fun t ht => ?_ }, List.prefix_append ..⟩
  · show _ ++ (awaited d.pending ++ _) ~ _
    rw [hpending, awaited_withdraw]
    exact h.withdrawn (h.callers _ (List.mem_of_getElem? he)) hopen
  · rw [hpending] at hp
    obtain ⟨q, hq, rfl⟩ := List.mem_map.mp hp
    dsimp only
    rw [withdraw_ticket]
    exact h.resident q hq
  · rw [hthreads]
    exact h.numbers
  · rw [hthreads]
    exact h.counted
  · rw [hpending] at hp
    obtain ⟨q, hq, rfl⟩ := List.mem_map.mp hp
    dsimp only at hw ⊢
    rw [withdraw_ticket]
    rcases withdrawn_withdraw.mp hw with hw | hw
    · exact hstay (h.awaiting q hq hw)
    · rw [hw]
      exact hgone
  · rcases h.noted e hmem with hf | hs | hc
    · exact Or.inl (List.mem_append_left _ hf)
    · by_cases hk : e.1 = ticket
      · rw [hk]
        exact Or.inr (Or.inr hgone)
      · exact Or.inr (Or.inl (List.mem_filter.mpr ⟨hs, bne_iff_ne.mpr hk⟩))
    · exact Or.inr (Or.inr (hstay hc))
  · rw [hthreads] at hn
    exact h.lost k (List.mem_filter.mp hk).1 n hn
  · exact h.aligned.trans (List.length_map _).symm
  · obtain ⟨u, hu, rfl⟩ := List.mem_map.mp ht
    exact h.stuck u hu

theorem next_wake (h : c.Sound name) (number : Nat) : Next name c (c.act (.wake number)) := by
  unfold act
  dsimp only
  split
  · exact next_refl h
  · next ticket bound he =>
    split
    · rw [join_waiting]
      dsimp only
      split
      · next hopen =>
        exact next_giveUp h he (Option.isNone_iff_eq_none.mp (Bool.and_eq_true_iff.mp hopen).1)
      · exact next_goesOn h number
    · exact next_refl h

/-- A coroutine that is handed over is open on the thread that takes it in. -/
theorem pending_hand (hc : c.loop.current = some t) (body : Coroutine) :
    (c.hand body).pending ~ (c.started, { ticket := c.loop.issued, body }) :: c.pending := by
  unfold hand
  rw [submit_some hc, pending_eq, pending_eq, hc]
  simp only [Option.toList_some, List.flatMap_singleton, LoopThread.jobs, List.map_append,
    List.map_cons, List.map_nil, List.append_assoc, List.singleton_append]
  rw [← List.append_assoc, ← List.append_assoc]
  exact List.perm_middle

/-- The next ticket enters the ledger. -/
theorem Sound.entered (h : c.Sound name) {ps : List (Nat × Job)}
    (ha : awaited ps ~ c.loop.issued :: awaited c.pending) :
    c.loop.finished.map (·.1) ++ (awaited ps ++ c.loop.stranded) ~
      List.range (c.loop.issued + 1) :=
  calc c.loop.finished.map (·.1) ++ (awaited ps ++ c.loop.stranded)
      ~ c.loop.finished.map (·.1) ++ (c.loop.issued :: awaited c.pending ++ c.loop.stranded) :=
        (ha.append_right _).append_left _
    _ ~ c.loop.issued :: (c.loop.finished.map (·.1) ++ (awaited c.pending ++ c.loop.stranded)) :=
        List.perm_middle
    _ ~ c.loop.issued :: List.range c.loop.issued := h.ledger.cons _
    _ ~ List.range c.loop.issued ++ [c.loop.issued] := (List.perm_append_singleton ..).symm
    _ = List.range (c.loop.issued + 1) := List.range_succ.symm

/-- A coroutine that is handed over gets the next ticket, on the thread that takes it in. -/
theorem next_hand (h : c.Sound name) (body : Coroutine) : Next name c (c.hand body) := by
  unfold hand
  cases hc : c.loop.current with
  | none =>
    rw [submit_none hc, isRunning, hc]
    exact next_refl h
  | some t =>
    rw [submit_some hc, isRunning, hc]
    let job : Job := { ticket := c.loop.issued, body }
    let d : Course := { c with
      loop := { c.loop with
        issued := c.loop.issued + 1
        current := some { t with queued := t.queued ++ [job] } }
      homes := c.homes ++ [c.started] }
    have hpending : d.pending ~ (c.started, job) :: c.pending := by
      have hhand := pending_hand hc body
      unfold hand at hhand
      rw [submit_some hc, isRunning, hc] at hhand
      exact hhand
    have hthreads : d.threads.map (·.1) = c.threads.map (·.1) := by
      rw [threads_some hc]
      rfl
    have hold {p : Nat × Job} (hp : p ∈ c.pending) :
        (c.homes ++ [c.started])[p.2.ticket]? = some p.1 := by
      have hk := h.resident p hp
      rw [List.getElem?_append_left (List.getElem?_eq_some_iff.mp hk).1]
      exact hk
    have hfresh {k : Nat} (hk : k ∈ c.loop.stranded) : k < c.homes.length := by
      rw [h.homes]
      exact List.mem_range.mp (h.ledger.subset
        (List.mem_append_right _ (List.mem_append_right _ hk)))
    show Next name c d
    refine ⟨{
      name := h.name
      ledger := ?_
      homes := ?_
      resident := fun p hp => ?_
      housed := fun n hn => ?_
      numbers := by rw [hthreads]; exact h.numbers
      counted := by rw [hthreads]; exact h.counted
      callers := fun e he => Nat.lt_succ_of_lt (h.callers e he)
      distinct := h.distinct
      awaiting := fun p hp hw => ?_
      past := fun e he => Nat.lt_succ_of_lt (h.past e he)
      noted := h.noted
      lost := fun k hk n hn => ?_
      aligned := h.aligned
      stuck := h.stuck }, List.prefix_refl _⟩
    · exact h.entered (awaited_perm hpending)
    · show (c.homes ++ [c.started]).length = c.loop.issued + 1
      rw [List.length_append, h.homes]
      rfl
    · rcases List.mem_cons.mp (hpending.subset hp) with rfl | hp
      · show (c.homes ++ [c.started])[c.loop.issued]? = some c.started
        rw [← h.homes]
        exact List.getElem?_concat_length
      · exact hold hp
    · rcases List.mem_append.mp hn with hn | hn
      · exact h.housed n hn
      · obtain rfl := List.mem_singleton.mp hn
        refine h.counted _ ?_
        rw [threads_some hc]
        exact List.mem_cons_self
    · rcases List.mem_cons.mp (hpending.subset hp) with rfl | hp
      · cases hw
      · exact h.awaiting p hp hw
    · rw [hthreads] at hn
      show (c.homes ++ [c.started])[k]? ≠ some n
      rw [List.getElem?_append_left (hfresh hk)]
      exact h.lost k hk n hn

theorem next_call (h : c.Sound name) (body : Coroutine) (bound : Option Seconds) :
    Next name c (c.act (.call body bound)) := by
  have hhand := next_hand h body
  unfold act
  dsimp only
  cases hc : c.loop.current with
  | none =>
    rw [submit_none hc]
    exact hhand
  | some t =>
    rw [submit_some hc]
    dsimp only
    have hloop : (c.hand body).loop = (submit body c.loop).2 := rfl
    rw [submit_some hc] at hloop
    have hold {k : Nat} (hk : k ∉ c.callers.map (·.1)) (hne : k ≠ c.loop.issued) :
        k ∉ (c.callers ++ [(c.loop.issued, bound)]).map (·.1) := by
      rw [List.map_append, List.mem_append, not_or]
      exact ⟨hk, by simpa using hne⟩
    refine ⟨{ hhand.sound with
      callers := fun e he => ?_
      distinct := ?_
      awaiting := fun p hp hw => ?_
      noted := fun e he => ?_ }, hhand.finished⟩
    · show e.1 < (c.hand body).loop.issued
      rcases List.mem_append.mp he with he | he
      · exact hhand.sound.callers e he
      · obtain rfl := List.mem_singleton.mp he
        rw [hloop]
        exact Nat.lt_succ_self _
    · rw [List.map_append]
      refine List.nodup_append.mpr ⟨h.distinct, List.nodup_singleton _, fun k hk m hm => ?_⟩
      obtain ⟨e, he, rfl⟩ := List.mem_map.mp hk
      obtain rfl := List.mem_singleton.mp hm
      exact Nat.ne_of_lt (h.callers e he)
    · rcases List.mem_cons.mp ((pending_hand hc body).subset hp) with rfl | hp
      · cases hw
      · exact hold (h.awaiting p hp hw) (Nat.ne_of_lt (h.issued hp))
    · have hpast : e.1 < c.loop.issued := by
        change e ∈ (c.hand body).loop.concluded at he
        rw [hloop] at he
        exact h.past e he
      exact (hhand.sound.noted e he).imp_right
        (Or.imp_right fun hn => hold hn (Nat.ne_of_lt hpast))

theorem next_act (h : c.Sound name) (m : Move) : Next name c (c.act m) := by
  cases m with
  | start => exact next_start h
  | stop bound => exact next_stop h bound
  | submit body => exact next_hand h body
  | call body bound => exact next_call h body bound
  | wake number => exact next_wake h number
  | callSoon args => exact next_callSoon h args
  | block => exact next_block h
  | release => exact next_release h
  | kill => exact next_kill h
  | sever place => exact next_sever h place
  | turn => exact next_turn h
  | conclude ticket o => exact next_conclude h ticket o

/-- What was handed over stays where it was. -/
theorem homes_act (c : Course) (m : Move) : c.homes <+: (c.act m).homes := by
  have hhand (body : Coroutine) : c.homes <+: (c.hand body).homes := by
    unfold hand
    dsimp only
    split
    · exact List.prefix_append ..
    · exact List.prefix_refl _
  cases m with
  | submit body => exact hhand body
  | call body bound =>
    unfold act
    dsimp only
    split <;> exact hhand body
  | wake number =>
    unfold act
    dsimp only
    repeat' split
    all_goals exact List.prefix_refl _
  | _ => exact List.prefix_refl _

theorem homes_run (c : Course) (ms : List Move) : c.homes <+: (c.run ms).homes := by
  induction ms generalizing c with
  | nil => exact List.prefix_refl _
  | cons m rest ih => exact (homes_act c m).trans (ih (c.act m))

theorem run_concat (c : Course) (ms : List Move) (m : Move) :
    c.run (ms ++ [m]) = (c.run ms).act m := List.foldl_concat ..

/-- After moves the course is in order, and no outcome was withdrawn. -/
theorem next_run (h : c.Sound name) (ms : List Move) : Next name c (c.run ms) := by
  induction ms generalizing c with
  | nil => exact next_refl h
  | cons m rest ih => exact (next_act h m).trans (ih (next_act h m).sound)

end

theorem sound_first (name : String) : Sound name { loop := { name } } where
  name := rfl
  ledger := List.Perm.refl _
  homes := rfl
  resident p hp := by cases hp
  housed n hn := by cases hn
  numbers := List.nodup_nil
  counted n hn := by cases hn
  callers e he := by cases he
  distinct := List.nodup_nil
  awaiting p hp := by cases hp
  past e he := by cases he
  noted e he := by cases he
  lost k hk := by cases hk
  aligned := rfl
  stuck t ht := by cases ht

end EventLoop.Course

end BluetoothControl
