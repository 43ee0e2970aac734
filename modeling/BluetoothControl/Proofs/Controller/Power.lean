import BluetoothControl.Controller
import BluetoothControl.Proofs.Procedure
import BluetoothControl.Simulation

/-!
# Power transitions

Whatever a management service answers, a transition is made of reads of the power state, at most one
switch and pauses, and what comes of it follows from what was read (`Transition`): that the adapter
follows is never taken for granted, and no more is read than the budget allows.  Only where nobody
can pause for the delay of the configuration does a transition end before that (`power_observed`).
-/

namespace BluetoothControl

open Procedure

/-! ## Steps -/

/-- A step of a power transition. -/
inductive PowerStep
  /-- The power state is read. -/
  | read (answer : Except Failure Value)
  /-- The adapter is switched. -/
  | switch (answer : Except Failure Unit)
  /-- Nothing happens for the delay of the configuration. -/
  | pause
  /-- Nobody can pause for so long. -/
  | stall (failure : Failure)

/-- How many steps were made of each kind. -/
structure PowerTally where
  reads : Nat := 0
  switches : Nat := 0
  pauses : Nat := 0
  deriving Repr, DecidableEq

namespace PowerTally

/-- One step more. -/
def count (t : PowerTally) : PowerStep → PowerTally
  | .read _ => { t with reads := t.reads + 1 }
  | .switch _ => { t with switches := t.switches + 1 }
  | .pause => { t with pauses := t.pauses + 1 }
  | .stall _ => t

/-- The steps of a list. -/
def ofSteps (steps : List PowerStep) : PowerTally := steps.foldl count {}

theorem foldl_count (steps : List PowerStep) (t : PowerTally) :
    steps.foldl count t =
      { reads := t.reads + (ofSteps steps).reads
        switches := t.switches + (ofSteps steps).switches
        pauses := t.pauses + (ofSteps steps).pauses } := by
  unfold ofSteps
  induction steps generalizing t with
  | nil => rfl
  | cons step rest ih =>
    rw [List.foldl_cons, List.foldl_cons, ih, ih (count {} step)]
    cases step <;> simp only [count, Nat.zero_add, Nat.add_assoc]

theorem ofSteps_cons (step : PowerStep) (rest : List PowerStep) :
    ofSteps (step :: rest) = (ofSteps rest).count step := by
  unfold ofSteps
  rw [List.foldl_cons, foldl_count]
  cases step <;> simp [count, ofSteps, Nat.add_comm]

end PowerTally

/-- Reads with these answers, with pauses between. -/
def polls (answers : List (Except Failure Value)) : List PowerStep :=
  (answers.map .read).intersperse .pause

theorem polls_cons (answer : Except Failure Value) {rest : List (Except Failure Value)}
    (h : rest ≠ []) : polls (answer :: rest) = .read answer :: .pause :: polls rest := by
  cases rest with
  | nil => exact absurd rfl h
  | cons next rest => rfl

/-- The stall that polling ends in, if it does. -/
def stalls (stall : Option Failure) : List PowerStep := (stall.map .stall).toList

theorem tally_polls (answers : List (Except Failure Value)) (stall : Option Failure) :
    PowerTally.ofSteps (polls answers ++ stalls stall) =
      { reads := answers.length, pauses := answers.length - 1 } := by
  induction answers with
  | nil => cases stall <;> rfl
  | cons answer rest ih =>
    by_cases h : rest = []
    · subst h
      cases stall <;> rfl
    · have hpos : 0 < rest.length := List.length_pos_iff.mpr h
      rw [polls_cons answer h, List.cons_append, List.cons_append, PowerTally.ofSteps_cons,
        PowerTally.ofSteps_cons, ih]
      simp only [PowerTally.count, List.length_cons, PowerTally.mk.injEq, true_and]
      omega

/-! ## Outcomes -/

/-- What comes of polling with a budget of `n` reads and such a delay between them: `others` are the
values read that do not equal what is wanted, and what settles it comes right after them. -/
inductive Polled (name : String) (delay : Seconds) (wanted : Bool) (n : Nat) :
    List (Except Failure Value) → Option Failure → Except Failure Unit → Prop
  /-- The last read is the first that shows what is wanted. -/
  | seen {others : List Value} {last : Value} (hothers : ∀ o ∈ others, o.agrees wanted = false)
      (hlast : last.agrees wanted = true) (hn : others.length + 1 ≤ n) :
      Polled name delay wanted n (others.map .ok ++ [.ok last]) none (.ok ())
  /-- The last read fails. -/
  | lost {others : List Value} {f : Failure} (hothers : ∀ o ∈ others, o.agrees wanted = false)
      (hn : others.length + 1 ≤ n) :
      Polled name delay wanted n (others.map .ok ++ [.error f]) none (.error f)
  /-- All the reads of the budget were made, and none of them shows what is wanted. -/
  | spent {others : List Value} (hothers : ∀ o ∈ others, o.agrees wanted = false)
      (hn : others.length = n) :
      Polled name delay wanted n (others.map .ok) none (.error (.powerUnchanged name))
  /-- There is budget left, but nobody can pause for the delay. -/
  | stalled {others : List Value} {f : Failure} (hothers : ∀ o ∈ others, o.agrees wanted = false)
      (hsome : others ≠ []) (hn : others.length < n) (hf : delay.pauseRefusal? = some f) :
      Polled name delay wanted n (others.map .ok) (some f) (.error f)

/-- What comes of a power transition with a budget of `n` polls, by its steps and how many there are
of each kind; below zero a budget counts as zero.  The first read decides by its truth, the polls by
equality, which is the same for truth values. -/
inductive Transition (name : String) (delay : Seconds) (wanted : Bool) (n : Int) :
    List PowerStep → PowerTally → Except Failure Unit → Prop
  /-- The power state cannot be read. -/
  | unread {f : Failure} :
      Transition name delay wanted n [.read (.error f)] { reads := 1 } (.error f)
  /-- The adapter is as wanted, and nothing is switched. -/
  | already {v : Value} (hv : v.truth = wanted) :
      Transition name delay wanted n [.read (.ok v)] { reads := 1 } (.ok ())
  /-- The adapter cannot be switched. -/
  | refused {v : Value} {f : Failure} (hv : v.truth = !wanted) :
      Transition name delay wanted n [.read (.ok v), .switch (.error f)]
        { reads := 1, switches := 1 } (.error f)
  /-- The adapter is switched once and then polled. -/
  | polled {v : Value} {answers : List (Except Failure Value)} {stall : Option Failure}
      {r : Except Failure Unit} (hv : v.truth = !wanted)
      (hp : Polled name delay wanted n.toNat answers stall r) :
      Transition name delay wanted n
        (.read (.ok v) :: .switch (.ok ()) :: (polls answers ++ stalls stall))
        { reads := 1 + answers.length, switches := 1, pauses := answers.length - 1 } r

variable {name : String} {delay : Seconds} {wanted : Bool} {n : Nat}
  {answers : List (Except Failure Value)} {stall : Option Failure} {r : Except Failure Unit}

/-- A read that does not show what is wanted leaves the rest of the budget. -/
theorem Polled.again {o : Value} (ho : o.agrees wanted = false)
    (h : Polled name delay wanted n answers stall r) :
    Polled name delay wanted (n + 1) (.ok o :: answers) stall r := by
  have hcons {others : List Value} (hothers : ∀ o ∈ others, o.agrees wanted = false) :
      ∀ x ∈ o :: others, x.agrees wanted = false := List.forall_mem_cons.mpr ⟨ho, hothers⟩
  cases h with
  | seen hothers hlast hn => exact .seen (hcons hothers) hlast (Nat.succ_le_succ hn)
  | lost hothers hn => exact .lost (hcons hothers) (Nat.succ_le_succ hn)
  | spent hothers hn => exact .spent (hcons hothers) (congrArg (· + 1) hn)
  | stalled hothers _ hn hf =>
    exact .stalled (hcons hothers) nofun (Nat.succ_lt_succ hn) hf

/-- With a budget at least one read is made. -/
theorem Polled.ne_nil (h : Polled name delay wanted (n + 1) answers stall r) : answers ≠ [] := by
  cases h with
  | seen => simp
  | lost => simp
  | stalled _ hsome => simpa using hsome
  | spent _ hn =>
    rw [← List.length_pos_iff, List.length_map, hn]
    exact Nat.succ_pos n

namespace Controller

variable {κ : Type} {c : Controller κ} {w v : World κ} {steps : List PowerStep}

/-! ## Making steps -/

/-- A controller makes these steps one after another. -/
inductive Takes (c : Controller κ) (wanted : Bool) : List PowerStep → World κ → World κ → Prop
  | done {w : World κ} : Takes c wanted [] w w
  | read {w u v : World κ} {answer : Except Failure Value} {rest : List PowerStep}
      (h : c.isUp w = (answer, u)) (hrest : Takes c wanted rest u v) :
      Takes c wanted (.read answer :: rest) w v
  | switch {w u v : World κ} {answer : Except Failure Unit} {rest : List PowerStep}
      (h : c.service.setPowered c.path wanted w = (answer, u)) (hrest : Takes c wanted rest u v) :
      Takes c wanted (.switch answer :: rest) w v
  | stall {w : World κ} {f : Failure} (h : w.clock.pauseRefusal? c.config.powerDelay = some f) :
      Takes c wanted [.stall f] w w
  | pause {w v : World κ} {rest : List PowerStep}
      (h : w.clock.pauseRefusal? c.config.powerDelay = none)
      (hrest : Takes c wanted rest (w.seeing (.slept c.config.powerDelay)) v) :
      Takes c wanted (.pause :: rest) w v

/-- A meter that every step moves by itself. -/
structure Metered (c : Controller κ) (wanted : Bool) (meter : World κ → PowerTally) : Prop where
  read : ∀ w, meter (c.isUp w).2 = (meter w).count (.read (c.isUp w).1)
  switch : ∀ w, meter (c.service.setPowered c.path wanted w).2 =
    (meter w).count (.switch (c.service.setPowered c.path wanted w).1)
  pause : ∀ w, meter (w.seeing (.slept c.config.powerDelay)) = (meter w).count .pause

/-- What a meter shows in the end is what the steps come to. -/
theorem Metered.takes {meter : World κ → PowerTally} (hm : c.Metered wanted meter)
    (h : c.Takes wanted steps w v) : meter v = steps.foldl PowerTally.count (meter w) := by
  induction h with
  | done => rfl
  | stall => rfl
  | @read w u _ _ _ h _ ih =>
    have hread := hm.read w
    rw [h] at hread
    rw [ih, hread, List.foldl_cons]
  | @switch w u _ _ _ h _ ih =>
    have hswitch := hm.switch w
    rw [h] at hswitch
    rw [ih, hswitch, List.foldl_cons]
  | @pause w _ _ _ _ ih => rw [ih, hm.pause w, List.foldl_cons]

/-- From `w` on a transition is made, and this comes of it. -/
def Transits (c : Controller κ) (wanted : Bool) (n : Int) (w : World κ)
    (result : Except Failure Unit × World κ) : Prop :=
  ∃ steps, c.Takes wanted steps w result.2 ∧
    Transition c.name c.config.powerDelay wanted n steps (PowerTally.ofSteps steps) result.1

/-- By any meter a transition moves as far as its outcome says. -/
theorem Transits.metered {meter : World κ → PowerTally} {n : Int}
    {result : Except Failure Unit × World κ} (h : c.Transits wanted n w result)
    (hm : c.Metered wanted meter) :
    ∃ steps tally, Transition c.name c.config.powerDelay wanted n steps tally result.1 ∧
      meter result.2 =
        { reads := (meter w).reads + tally.reads
          switches := (meter w).switches + tally.switches
          pauses := (meter w).pauses + tally.pauses } := by
  obtain ⟨steps, htakes, htransition⟩ := h
  refine ⟨steps, _, htransition, ?_⟩
  rw [hm.takes htakes, PowerTally.foldl_count]

/-- The requests about power in the log of a simulation, and the pauses. -/
def logTally (w : World Simulation) : PowerTally where
  reads := w.log.countP fun | .asked .getPowered _ => true | _ => false
  switches := w.log.countP fun | .asked .setPowered _ => true | _ => false
  pauses := w.log.countP fun | .slept _ => true | _ => false

/-- With a simulation every step can be found in the log. -/
theorem metered_logTally {c : Controller Simulation} (hs : c.service = Simulation.service) :
    c.Metered wanted logTally where
  read w := by
    unfold isUp
    rw [hs]
    show logTally (Simulation.request _ _ _ _ w).2 = _
    unfold logTally
    rw [Simulation.request_log _ _ _ fun _ => rfl]
    simp [PowerTally.count]
  switch w := by
    rw [hs]
    show logTally (Simulation.request _ _ _ _ w).2 = _
    unfold logTally
    rw [Simulation.request_log _ _ _ fun _ => rfl]
    simp [PowerTally.count]
  pause w := by
    unfold logTally
    simp [World.seeing, PowerTally.count]

/-! ## Polling -/

/-- Polling makes reads with pauses between, until one of them settles it or a pause cannot be
made. -/
theorem awaitPower_polled (c : Controller κ) (wanted : Bool) (n : Nat) (w : World κ) :
    ∃ answers stall, c.Takes wanted (polls answers ++ stalls stall) w (c.awaitPower wanted n w).2 ∧
      Polled c.name c.config.powerDelay wanted n answers stall (c.awaitPower wanted n w).1 := by
  have hnone : ∀ o ∈ ([] : List Value), o.agrees wanted = false := fun _ h => nomatch h
  induction n generalizing w with
  | zero => exact ⟨[], none, .done, .spent hnone rfl⟩
  | succ n ih =>
    unfold awaitPower
    rcases hread : c.isUp w with ⟨answer, u⟩
    cases answer with
    | error f =>
      rw [bind_error hread]
      exact ⟨[.error f], none, .read hread .done, .lost hnone (Nat.succ_pos n)⟩
    | ok powered =>
      rw [bind_ok hread]
      cases hagrees : powered.agrees wanted with
      | true =>
        exact ⟨[.ok powered], none, .read hread .done, .seen hnone hagrees (Nat.succ_pos n)⟩
      | false =>
        cases n with
        | zero =>
          -- the budget is spent, and there is no pause after the last read
          exact ⟨[.ok powered], none, .read hread .done, .again hagrees (.spent hnone rfl)⟩
        | succ n =>
          show ∃ answers stall, c.Takes wanted (polls answers ++ stalls stall) w
              ((World.pause c.config.powerDelay >>= fun _ => c.awaitPower wanted (n + 1)) u).2 ∧
            Polled c.name c.config.powerDelay wanted (n + 1 + 1) answers stall
              ((World.pause c.config.powerDelay >>= fun _ => c.awaitPower wanted (n + 1)) u).1
          have hpause := World.pause_apply c.config.powerDelay u
          cases hclock : u.clock.pauseRefusal? c.config.powerDelay with
          | some f =>
            rw [hclock] at hpause
            rw [bind_error hpause]
            have hothers : ∀ o ∈ [powered], o.agrees wanted = false :=
              List.forall_mem_singleton.mpr hagrees
            exact ⟨[powered].map .ok, some f, .read hread (.stall hclock),
              .stalled hothers nofun (Nat.succ_lt_succ (Nat.succ_pos n))
                (Clock.refusal_of_pauseRefusal? hclock)⟩
          | none =>
            rw [hclock] at hpause
            rw [bind_ok hpause]
            obtain ⟨answers, stall, htakes, hpolled⟩ := ih (u.seeing (.slept c.config.powerDelay))
            refine ⟨.ok powered :: answers, stall, ?_, hpolled.again hagrees⟩
            rw [polls_cons _ hpolled.ne_nil]
            exact .read hread (.pause hclock htakes)

/-- Switching reads, switches if that is called for, and polls. -/
theorem switchPower_transits {n : Int} (hn : c.config.powerAttempts.int? = some n) (wanted : Bool)
    (w : World κ) : c.Transits wanted n w (c.switchPower wanted w) := by
  unfold switchPower
  rcases hread : c.isUp w with ⟨answer, u⟩
  cases answer with
  | error f =>
    rw [bind_error hread]
    exact ⟨_, .read hread .done, .unread⟩
  | ok powered =>
    rw [bind_ok hread]
    by_cases hv : powered.truth = wanted
    · rw [if_pos (beq_iff_eq.mpr hv)]
      exact ⟨_, .read hread .done, .already hv⟩
    · have hnot : powered.truth = !wanted := by
        cases hp : powered.truth <;> cases wanted <;> simp_all
      rw [if_neg fun h => hv (beq_iff_eq.mp h)]
      rcases hswitch : c.service.setPowered c.path wanted u with ⟨answer, x⟩
      cases answer with
      | error f =>
        rw [bind_error hswitch]
        exact ⟨_, .read hread (.switch hswitch .done), .refused hnot⟩
      | ok _ =>
        rw [bind_ok hswitch]
        have hattempts : ofExcept c.attempts x = (.ok n.toNat, x) := by
          unfold attempts
          rw [hn, ofExcept_apply]
        rw [bind_ok hattempts]
        obtain ⟨answers, stall, htakes, hpolled⟩ := c.awaitPower_polled wanted n.toNat x
        refine ⟨_, .read hread (.switch hswitch htakes), ?_⟩
        rw [PowerTally.ofSteps_cons, PowerTally.ofSteps_cons, tally_polls]
        have h := Transition.polled (n := n) hnot hpolled
        rwa [Nat.add_comm] at h

/-! ## Up, down and both -/

/-- Whatever the service answers, `up` and `down` believe only what they read, and read no more than
the budget allows.  Before it, `up` tries to start discovery; that the service refuses is no
obstacle.  A reset that does not get down does not go up. -/
theorem power_observed (c : Controller κ) {n : Int} (hn : c.config.powerAttempts.int? = some n)
    (w : World κ) :
    (match c.startDiscovery w with
      | (.ok (), v) => c.Transits true n v (c.up w)
      | (.error f, v) =>
        if f.isA .service then c.Transits true n v (c.up w) else c.up w = (.error f, v)) ∧
    c.Transits false n { w with wakes := w.wakes + 1 } (c.down w) ∧
    c.reset w = match c.down w with
      | (.ok _, v) => c.up v
      | (.error f, v) => (.error f, v) := by
  refine ⟨?_, ?_, ?_⟩
  · unfold up
    rw [bind_apply, ignoring_apply]
    rcases c.startDiscovery w with ⟨a, v⟩
    cases a with
    | ok _ => exact switchPower_transits hn true v
    | error f =>
      dsimp only
      split
      · exact switchPower_transits hn true v
      · rfl
  · exact switchPower_transits hn false _
  · unfold reset
    rw [bind_apply]
    rcases c.down w with ⟨a, v⟩
    cases a <;> rfl

/-- The adapter reports that it is off, and twice more after it was switched on, and then that it is
on: three polls of the five allowed, with two pauses. -/
theorem power_observed_third :
    let c : Controller Simulation := ⟨"hci0", { powerDelay := .whole 1 }, Simulation.service, false⟩
    let off := Turn.answers (.bool false)
    let w := World.started "hci0" { script := [(.getPowered, [off, off, off, .usual])] }
    (c.up w).1 = .ok () ∧ logTally (c.up w).2 = { reads := 4, switches := 1, pauses := 2 } ∧
      c.Transits true 5 (c.startDiscovery w).2 (c.up w) := by
  intro c off w
  have hn : c.config.powerAttempts.int? = some 5 := rfl
  have hd : c.startDiscovery w = (.ok (), (c.startDiscovery w).2) := rfl
  have hup := (power_observed c hn w).1
  rw [hd] at hup
  exact ⟨rfl, rfl, hup⟩

/-- With a delay of less than no time the first poll is the last, whatever the budget: the adapter
reports that it is off all along, and its caller is not told that it did not change. -/
theorem not_observed_negative :
    let c : Controller Simulation :=
      ⟨"hci0", { powerDelay := .whole (-1) }, Simulation.service, false⟩
    let w := World.started "hci0" { powerFollows := false }
    (c.up w).1 = .error .negativePause ∧
      logTally (c.up w).2 = { reads := 2, switches := 1, pauses := 0 } ∧
      ¬ ((c.up w).1 = .error (.powerUnchanged "hci0") ∧
        logTally (c.up w).2 = { reads := 6, switches := 1, pauses := 4 }) := by
  intro c w
  exact ⟨rfl, rfl, fun h => by cases h.1⟩

end Controller

end BluetoothControl
