import BluetoothControl.Proofs.EventLoop.Answer
import BluetoothControl.Proofs.EventLoop.Ending

/-!
# How a call is reported

Whoever hands a running loop a coroutine and waits for it is to be told what became of it: how it
ended by itself, or that its bound was up first, or that it was cancelled.  The three are told apart
by the kind of a failure alone, so a coroutine that fails with some kinds of its own is mistaken for
one that did not complete or was cancelled.  And a call that is given up is settled at once, while
its coroutine may still come to its end.  In these cases the caller is misled, and in no other
(`faithful_iff`).
-/

namespace BluetoothControl

open Procedure

/-! ## Kinds of outcomes -/

namespace Outcome

/-- The coroutine was cancelled. -/
def isCancelled : Outcome → Bool
  | .error f => f.kind = .cancelled
  | .ok _ => false

/-- The coroutine failed with a kind of elapsed time. -/
def isElapsed : Outcome → Bool
  | .error f => f.isA .elapsed
  | .ok _ => false

/-- The coroutine failed with a kind that does not reach the caller: an elapsed time is taken for
the bound's, a withdrawal for the loop's, and an outcome out of turn becomes a task's. -/
def isMistaken : Outcome → Bool
  | .error f => f.isA .elapsed || f.isA .withdrawn || f.kind = .outOfTurn
  | .ok _ => false

end Outcome

namespace EventLoop

/-- A failure of a mistaken kind reaches the caller as one of another kind. -/
theorem kind_settle_of_isMistaken {f : Failure} (h : Outcome.isMistaken (.error f) = true)
    (loop : String) (bound : Option Seconds) :
    (settleFailure loop bound f.filed).kind ≠ f.kind := by
  have hother {k : Kind} (hf : f.kind = k) (hc : k ≠ .cancelled) (hw : k ≠ .withdrawn)
      (ho : k ≠ .outOfTurn) : f.filed = f := by
    subst hf
    exact Failure.filed_of_kind hc hw ho
  change (f.kind.isA .elapsed || f.kind.isA .withdrawn || f.kind = .outOfTurn) = true at h
  cases hk : f.kind
  case powerTimeout | elapsed =>
    have he : f.isA .elapsed = true := by
      rw [Failure.isA, hk]
      rfl
    rw [hother hk (by decide) (by decide) (by decide), settleFailure_of_isElapsed he]
    intro heq
    have hu := (kind_unfinished loop bound).1
    rw [heq] at hu
    exact absurd hu (by decide)
  case withdrawnOtherwise =>
    have he : f.isA .elapsed = false := by
      rw [Failure.isA, hk]
      rfl
    have hw : f.isA .withdrawn = true := by
      rw [Failure.isA, hk]
      rfl
    rw [hother hk (by decide) (by decide) (by decide), settleFailure_of_isWithdrawn he hw]
    exact Kind.noConfusion
  case withdrawn =>
    obtain ⟨text, reply, rfl⟩ := Failure.eq_foreign (Or.inl rfl) hk
    rw [show (Failure.foreign .withdrawn text reply).filed =
        .foreign .cancelled text reply from rfl,
      settleFailure_of_neither rfl rfl Failure.noConfusion]
    exact Kind.noConfusion
  case outOfTurn =>
    obtain ⟨text, reply, rfl⟩ := Failure.eq_foreign (Or.inr rfl) hk
    rw [show (Failure.foreign .outOfTurn text reply).filed = .foreign .taskOutOfTurn text reply
      from rfl, settleFailure_of_neither rfl rfl Failure.noConfusion]
    exact Kind.noConfusion
  all_goals
    rw [hk] at h
    exact absurd h (by decide)

/-- A coroutine that ended by itself, without having been cancelled, is reported just as it ended
exactly if it did not fail with a mistaken kind. -/
theorem told_filed_iff {o : Outcome} (hc : Outcome.isCancelled o = false) (loop : String)
    (bound : Option Seconds) :
    told loop bound (some o.filed) = o ↔ Outcome.isMistaken o = false := by
  cases o with
  | ok y => exact iff_of_true rfl rfl
  | error f =>
    have hkind : f.kind ≠ .cancelled := of_decide_eq_false hc
    cases hm : Outcome.isMistaken (.error f) with
    | true =>
      refine iff_of_false (fun heq => ?_) Bool.noConfusion
      exact kind_settle_of_isMistaken hm loop bound (congrArg Failure.kind (Except.error.inj heq))
    | false =>
      refine iff_of_true (congrArg Except.error ?_) rfl
      unfold Outcome.isMistaken at hm
      simp only [Bool.or_eq_false_iff, decide_eq_false_iff_not] at hm
      obtain ⟨⟨he, hw⟩, ho⟩ := hm
      have hne : f.kind ≠ .withdrawn := by
        intro hk
        rw [Failure.isA, hk] at hw
        exact absurd hw (by decide)
      rw [Failure.filed_of_kind hkind hne ho]
      refine settleFailure_of_neither he hw ?_ loop bound
      rintro rfl
      exact hkind rfl

/-! ## Calls -/

namespace Course

/-- The course after a call and the moves that follow it. -/
def following (c : Course) (body : Coroutine) (bound : Option Seconds) (before : List Move) :
    Course := (c.act (.call body bound)).run before

/-- What the caller is told if it goes on then, and the loop it leaves. -/
def told (c : Course) (body : Coroutine) (bound : Option Seconds) (before : List Move) :
    Outcome × EventLoop := join (.waiting c.loop.issued bound) (c.following body bound before).loop

/-- The course after the caller, of this number among those that wait, went on, and the moves that
follow that. -/
def aftermath (c : Course) (body : Coroutine) (bound : Option Seconds) (before : List Move)
    (number : Nat) (after : List Move) : Course :=
  ((c.following body bound before).act (.wake number)).run after

/-- The thread that the next coroutine is handed to is alive. -/
def Lives (c d : Course) : Prop := c.started ∈ d.threads.map (·.1)

/-- What the caller is told is faithful to its coroutine. -/
structure Faithful (c : Course) (body : Coroutine) (bound : Option Seconds) (before : List Move)
    (number : Nat) (after : List Move) : Prop where
  /-- If the coroutine has ended by itself, without having been cancelled, and its thread is alive,
  the caller is told just how. -/
  own : ∀ o, (c.loop.issued, o) ∈ (c.following body bound before).loop.concluded →
    c.Lives (c.following body bound before) → Outcome.isCancelled o = false →
      (c.told body bound before).1 = o
  /-- So it is if the bound is never up, and the coroutine ends by itself at any later time. -/
  ever : (Patience.under bound).refusal?.isSome = true →
    (c.following body bound before).loop.outcome? c.loop.issued = none →
    ∀ o, (c.loop.issued, o) ∈ (c.aftermath body bound before number after).loop.concluded →
      c.Lives (c.aftermath body bound before number after) → Outcome.isCancelled o = false →
        (c.told body bound before).1 = o
  /-- If the caller is told that the bound was up, and that is not what came of the coroutine, there
  was no outcome, the call is cancelled now, and the coroutine never ends by itself. -/
  elapsed : ∀ b, bound = some b →
    (c.told body bound before).1 = .error (.callUnfinished c.loop.name b) →
    (c.following body bound before).loop.outcome? c.loop.issued =
        some (c.told body bound before).1 ∨
      (c.following body bound before).loop.outcome? c.loop.issued = none ∧
      (c.aftermath body bound before number after).loop.outcome? c.loop.issued =
        some (.error .cancelled) ∧
      ∀ o, (c.loop.issued, o) ∉ (c.aftermath body bound before number after).loop.concluded
  /-- If the caller is told that the loop stopped while the thread is alive, and that is not what
  came of the coroutine, the coroutine was cancelled or at least did not end by itself. -/
  stopped : ∀ f, (c.told body bound before).1 = .error f → f.kind = .loopStopped →
    c.Lives (c.following body bound before) →
    (c.following body bound before).loop.outcome? c.loop.issued = some (.error f) ∨
    (c.following body bound before).loop.outcome? c.loop.issued = some (.error .cancelled) ∨
    ∀ o, (c.loop.issued, o) ∉ (c.following body bound before).loop.concluded

/-- The coroutine failed with a kind that the caller mistakes: it ended so by itself, or it ended
with an elapsed time when it was cancelled and the caller has a bound to take that for. -/
def Misread (c : Course) (body : Coroutine) (bound : Option Seconds) (before : List Move) : Prop :=
  (∃ o, (c.loop.issued, o) ∈ (c.following body bound before).loop.concluded ∧
    c.Lives (c.following body bound before) ∧ Outcome.isCancelled o = false ∧
    Outcome.isMistaken o = true) ∨
  ∃ o b, (c.following body bound before).loop.outcome? c.loop.issued = some o ∧
    Outcome.isElapsed o = true ∧ bound = some b ∧ b.isTellable = true

/-- The caller goes on without an outcome, and yet the coroutine ends by itself: it was not
cancelled, or its caller did not wait for a bound that is never up. -/
def Outrun (c : Course) (body : Coroutine) (bound : Option Seconds) (before : List Move)
    (number : Nat) (after : List Move) : Prop :=
  (c.following body bound before).loop.outcome? c.loop.issued = none ∧
  ∃ o, (c.loop.issued, o) ∈ (c.aftermath body bound before number after).loop.concluded ∧
    ((∃ b, bound = some b ∧ b.isTellable = true ∧ b.patience.refusal?.isNone = true) ∨
      (Patience.under bound).refusal?.isSome = true ∧
        c.Lives (c.aftermath body bound before number after) ∧ Outcome.isCancelled o = false ∧
        (c.told body bound before).1 ≠ o)

variable {name : String} {c : Course} {body : Coroutine} {bound : Option Seconds}
  {before after : List Move} {number : Nat} {o : Outcome} {t : LoopThread}

theorem told_of_outcome
    (h : (c.following body bound before).loop.outcome? c.loop.issued = some o) :
    (c.told body bound before).1 =
      EventLoop.told (c.following body bound before).loop.name bound (some o) := by
  unfold told
  rw [join_waiting, h]

theorem told_of_none
    (h : (c.following body bound before).loop.outcome? c.loop.issued = none) :
    (c.told body bound before).1 = .error ((Patience.under bound).refusal?.getD
      (unfinished (c.following body bound before).loop.name bound)) := by
  unfold told
  rw [join_waiting, h]
  rfl

theorem sound_following (h : c.Sound name) (body : Coroutine) (bound : Option Seconds)
    (before : List Move) : (c.following body bound before).Sound name :=
  (next_run (next_act h _).sound before).sound

theorem name_following (h : c.Sound name) (body : Coroutine) (bound : Option Seconds)
    (before : List Move) : (c.following body bound before).loop.name = c.loop.name :=
  (sound_following h body bound before).name.trans h.name.symm

/-- A caller that waits for a coroutine which ended by itself finds that outcome, if the thread is
alive. -/
theorem outcome_of_concluded (h : c.Sound name) (hc : c.loop.current = some t)
    (hwaits : (c.following body bound before).callers[number]? = some (c.loop.issued, bound))
    (hlives : c.Lives (c.following body bound before))
    (ho : (c.loop.issued, o) ∈ (c.following body bound before).loop.concluded) :
    (c.following body bound before).loop.outcome? c.loop.issued = some o.filed := by
  have hd := sound_following h body bound before
  have hhome : (c.following body bound before).homes[c.loop.issued]? = some c.started := by
    have hact : (c.act (.call body bound)).homes = c.homes ++ [c.started] := by
      unfold act
      dsimp only
      rw [submit_some hc]
      show (if c.loop.isRunning then _ else _) = _
      rw [isRunning, hc]
      rfl
    have hfirst : (c.act (.call body bound)).homes[c.loop.issued]? = some c.started := by
      rw [hact, ← h.homes]
      exact List.getElem?_concat_length
    obtain ⟨others, hothers⟩ := homes_run (c.act (.call body bound)) before
    show ((c.act (.call body bound)).run before).homes[c.loop.issued]? = _
    rw [← hothers, List.getElem?_append_left (List.getElem?_eq_some_iff.mp hfirst).1]
    exact hfirst
  rcases hd.noted _ ho with hf | hs | hn
  · exact hd.outcome? hf
  · exact absurd hhome (hd.lost _ hs _ hlives)
  · exact absurd (List.mem_map_of_mem (List.mem_of_getElem? hwaits)) hn

/-- A caller that gives its call up finds it cancelled from then on. -/
theorem outcome_aftermath (h : c.Sound name)
    (hwaits : (c.following body bound before).callers[number]? = some (c.loop.issued, bound))
    (ho : (c.following body bound before).loop.outcome? c.loop.issued = none)
    (hb : bound.isSome = true) (hlasts : (Patience.under bound).refusal?.isNone = true) :
    (c.aftermath body bound before number after).loop.outcome? c.loop.issued =
      some (.error .cancelled) := by
  have hd := sound_following h body bound before
  have hwake := next_wake hd number
  have hloop : ((c.following body bound before).act (.wake number)).loop =
      (c.following body bound before).loop.giveUp c.loop.issued := by
    unfold act
    dsimp only
    rw [hwaits]
    dsimp only
    rw [hb, Bool.or_true, if_pos rfl, join_waiting, ho, hlasts]
    rfl
  have hafter := next_run hwake.sound after
  refine hafter.sound.outcome? (hafter.finished.subset ?_)
  rw [hloop]
  exact List.mem_append_right _ (List.mem_singleton_self _)

theorem told_of_isElapsed {b : Seconds} (h : Outcome.isElapsed o = true) (loop : String) :
    EventLoop.told loop (some b) (some o) = .error (.telling b (.callUnfinished loop b)) := by
  cases o with
  | ok y => cases h
  | error f => exact congrArg Except.error (settleFailure_of_isElapsed h loop (some b))

theorem telling_callUnfinished {b : Seconds} {loop : String} :
    Failure.telling b (.callUnfinished loop b) = .callUnfinished loop b ↔ b.isTellable = true :=
  Failure.telling_iff Failure.noConfusion Failure.noConfusion

/-- Whoever is told that its bound was up was told how its coroutine failed, or the coroutine failed
with an elapsed time. -/
theorem eq_of_told_unfinished {b : Seconds} {loop : String}
    (h : EventLoop.told loop (some b) (some o) = .error (.callUnfinished loop b)) :
    o = .error (.callUnfinished loop b) ∨ Outcome.isElapsed o = true ∧ b.isTellable = true := by
  cases o with
  | ok y => cases h
  | error f =>
    have heq : settleFailure loop (some b) f = .callUnfinished loop b := Except.error.inj h
    cases he : f.isA .elapsed with
    | true =>
      rw [settleFailure_of_isElapsed he] at heq
      exact Or.inr ⟨he, telling_callUnfinished.mp heq⟩
    | false =>
      unfold settleFailure at heq
      rw [he, if_neg Bool.false_ne_true] at heq
      split at heq
      · cases heq
      · split at heq
        · cases heq
        · exact Or.inl (congrArg Except.error heq)

/-- Whoever is told that the loop stopped was told how its coroutine failed, or the coroutine was
cancelled or failed as if it was. -/
theorem eq_of_told_stopped {f : Failure} {loop : String}
    (h : EventLoop.told loop bound (some o) = .error f) (hk : f.kind = .loopStopped) :
    o = .error f ∨ o = .error .cancelled ∨ ∃ g, o = .error g ∧ g.isA .withdrawn = true := by
  cases o with
  | ok y => cases h
  | error g =>
    have heq : settleFailure loop bound g = f := Except.error.inj h
    cases he : g.isA .elapsed with
    | true =>
      rw [settleFailure_of_isElapsed he] at heq
      rw [← heq] at hk
      exact absurd hk (kind_unfinished loop bound).2
    | false =>
      unfold settleFailure at heq
      rw [he, if_neg Bool.false_ne_true] at heq
      split at heq
      · exact Or.inr (Or.inl rfl)
      · split at heq
        · next hw => exact Or.inr (Or.inr ⟨g, rfl, hw⟩)
        · exact Or.inl (congrArg Except.error heq)

/-- What the failure of a call is that is a withdrawal, the coroutine failed with. -/
theorem eq_of_filed_withdrawn {g : Failure} (hw : g.isA .withdrawn = true)
    (h : o.filed = .error g) : Outcome.isCancelled o = false ∧ Outcome.isMistaken o = true := by
  cases o with
  | ok y => cases h
  | error f =>
    have heq : f.filed = g := Except.error.inj h
    unfold Failure.filed at heq
    split at heq
    · exact ⟨rfl, rfl⟩
    · exact ⟨rfl, rfl⟩
    · split at heq
      · rw [← heq] at hw
        cases hw
      · next hc =>
        subst heq
        refine ⟨decide_eq_false hc, ?_⟩
        show (_ || f.isA .withdrawn || _) = true
        rw [hw, Bool.or_true, Bool.true_or]

/-- Nobody who is refused is told that its bound was up, or that the loop stopped. -/
theorem kind_of_none (h : (c.following body bound before).loop.outcome? c.loop.issued = none)
    {f : Failure} (ht : (c.told body bound before).1 = .error f) :
    f.kind ≠ .loopStopped ∧
      ∀ b, bound = some b → f = .callUnfinished c.loop.name b →
        (Patience.under bound).refusal?.isNone = true := by
  rw [told_of_none h] at ht
  obtain rfl := Except.error.inj ht
  cases hr : (Patience.under bound).refusal? with
  | none => exact ⟨(kind_unfinished _ _).2, fun _ _ _ => rfl⟩
  | some r =>
    rw [Option.getD_some]
    rcases refusal_cases hr with hk | hk
    all_goals
      rw [hk]
      refine ⟨Kind.noConfusion, ?_⟩
      rintro b - rfl
      cases hk

/-- A coroutine that failed with a mistaken kind is not reported faithfully. -/
theorem not_faithful_of_misread (number : Nat) (h : c.Sound name)
    (hc : c.loop.current = some t)
    (hwaits : (c.following body bound before).callers[number]? = some (c.loop.issued, bound))
    (hm : c.Misread body bound before) : ¬ c.Faithful body bound before number after := by
  intro hf
  rcases hm with ⟨o, ho, hlives, hcancelled, hmistaken⟩ | ⟨o, b, ho, helapsed, rfl, hb⟩
  · have htold := hf.own o ho hlives hcancelled
    rw [told_of_outcome (outcome_of_concluded h hc hwaits hlives ho),
      told_filed_iff hcancelled, hmistaken] at htold
    cases htold
  · have htold := told_of_outcome ho
    rw [told_of_isElapsed helapsed, name_following h, telling_callUnfinished.mpr hb] at htold
    rcases hf.elapsed b rfl htold with hown | ⟨hnone, -⟩
    · rw [ho, htold] at hown
      rw [Option.some.inj hown] at helapsed
      cases helapsed
    · rw [ho] at hnone
      cases hnone

/-- A coroutine that ends by itself behind the back of its caller is not reported faithfully. -/
theorem not_faithful_of_outrun (h : c.Sound name)
    (hm : c.Outrun body bound before number after) :
    ¬ c.Faithful body bound before number after := by
  rintro hf
  obtain ⟨hnone, o, ho, ⟨b, rfl, hb, hlasts⟩ | ⟨hrefused, hlives, hcancelled, hne⟩⟩ := hm
  · have htold := told_of_none hnone
    rw [show (Patience.under (some b)).refusal? = none from Option.isNone_iff_eq_none.mp hlasts,
      Option.getD_none, name_following h] at htold
    rw [show unfinished c.loop.name (some b) = .callUnfinished c.loop.name b from
      telling_callUnfinished.mpr hb] at htold
    rcases hf.elapsed b rfl htold with hown | ⟨-, -, hnever⟩
    · rw [hnone] at hown
      cases hown
    · exact hnever o ho
  · exact hne (hf.ever hrefused hnone o ho hlives hcancelled)

/-- A coroutine that neither fails with a mistaken kind nor ends behind its caller's back is
reported faithfully. -/
theorem faithful_of_neither (h : c.Sound name) (hc : c.loop.current = some t)
    (hwaits : (c.following body bound before).callers[number]? = some (c.loop.issued, bound))
    (hm : ¬ c.Misread body bound before) (ho : ¬ c.Outrun body bound before number after) :
    c.Faithful body bound before number after where
  own o hconcluded hlives hcancelled := by
    rw [told_of_outcome (outcome_of_concluded h hc hwaits hlives hconcluded),
      told_filed_iff hcancelled]
    exact Bool.eq_false_iff.mpr fun hmistaken =>
      hm (Or.inl ⟨o, hconcluded, hlives, hcancelled, hmistaken⟩)
  ever hrefused hnone o hconcluded hlives hcancelled := by
    by_contra hne
    exact ho ⟨hnone, o, hconcluded, Or.inr ⟨hrefused, hlives, hcancelled, hne⟩⟩
  elapsed b hb htold := by
    subst hb
    cases hout : (c.following body (some b) before).loop.outcome? c.loop.issued with
    | none =>
      have hlasts := (kind_of_none hout htold).2 b rfl rfl
      have htellable : b.isTellable = true := by
        rw [told_of_none hout, Option.isNone_iff_eq_none.mp hlasts, Option.getD_none,
          name_following h] at htold
        exact telling_callUnfinished.mp (Except.error.inj htold)
      refine Or.inr ⟨rfl, outcome_aftermath h hwaits hout rfl hlasts, fun o hconcluded => ?_⟩
      exact ho ⟨hout, o, hconcluded, Or.inl ⟨b, rfl, htellable, hlasts⟩⟩
    | some o =>
      have hsettled := told_of_outcome hout
      rw [name_following h] at hsettled
      rcases eq_of_told_unfinished (hsettled.symm.trans htold) with rfl | ⟨helapsed, htellable⟩
      · exact Or.inl (congrArg some htold.symm)
      · exact absurd (Or.inr ⟨o, b, hout, helapsed, rfl, htellable⟩) hm
  stopped f htold hk hlives := by
    cases hout : (c.following body bound before).loop.outcome? c.loop.issued with
    | none => exact absurd hk (kind_of_none hout htold).1
    | some o =>
      rcases eq_of_told_stopped ((told_of_outcome hout).symm.trans htold) hk with
        rfl | rfl | ⟨g, rfl, hw⟩
      · exact Or.inl rfl
      · exact Or.inr (Or.inl rfl)
      · refine Or.inr (Or.inr fun o hconcluded => hm (Or.inl ⟨o, hconcluded, hlives, ?_⟩))
        have hfiled := outcome_of_concluded h hc hwaits hlives hconcluded
        exact eq_of_filed_withdrawn hw (Option.some.inj (hfiled.symm.trans hout))

theorem run_turns (c : Course) (n : Nat) :
    (c.run (List.replicate n .turn)).loop = Nat.repeat turned n c.loop := by
  induction n with
  | zero => rfl
  | succ n ih =>
    rw [List.replicate_succ', run_concat]
    exact congrArg turned ih

/-- What a caller is told who hands a coroutine to the loop, in every state that moves can bring
about and whatever moves follow.  If the loop does not run the caller is refused.  If it runs, a
blocking call answers what `told` says after some turns of the loop; and at whatever moment a caller
goes on, what it is told is faithful to the coroutine, whatever happens later, exactly unless the
coroutine failed with a mistaken kind or ends behind its caller's back. -/
theorem faithful_iff (name : String) (ms : List Move) (body : Coroutine) (bound : Option Seconds)
    (before : List Move) (number : Nat) (after : List Move) :
    let c := run { loop := { name } } ms
    (c.loop.current = none →
      EventLoop.run body bound c.loop = (.error (.loopNotRunning name), c.loop)) ∧
    ∀ t, c.loop.current = some t →
      (∃ n, EventLoop.run body bound c.loop = c.told body bound (List.replicate n .turn)) ∧
      ((c.following body bound before).callers[number]? = some (c.loop.issued, bound) →
        (c.Faithful body bound before number after ↔
          ¬ (c.Misread body bound before ∨ c.Outrun body bound before number after))) := by
  intro c
  have h : c.Sound name := (next_run (sound_first name) ms).sound
  clear_value c
  refine ⟨fun hc => ?_, fun t hc => ⟨?_, fun hwaits => ⟨?_, fun hno => ?_⟩⟩⟩
  · rw [run_eq, ← h.name]
    exact bind_error (submit_none hc body)
  · have hloop : (c.act (.call body bound)).loop = (submit body c.loop).2 := by
      unfold act
      dsimp only
      split <;> rfl
    rw [submit_some hc] at hloop
    rw [run_eq, bind_ok (submit_some hc body)]
    unfold told following
    simp only [run_turns, hloop]
    cases (Patience.under bound).lasts with
    | false => exact ⟨0, rfl⟩
    | true => exact ⟨_, rfl⟩
  · rintro hf (hm | ho)
    · exact not_faithful_of_misread _ h hc hwaits hm hf
    · exact not_faithful_of_outrun h ho hf
  · exact faithful_of_neither h hc hwaits (fun hm => hno (Or.inl hm)) fun ho => hno (Or.inr ho)

/-- A coroutine waits, then ends with a number while its caller waits. -/
theorem faithful_iff_concluded :
    let c := run { loop := { name := "hci0" } } [.start]
    let body : Coroutine := .hangs (.error .cancelled)
    let before : List Move := [.turn, .conclude 0 (.ok (.value (.int 42)))]
    c.Faithful body (some (.whole 5)) before 0 [] ∧
      (c.told body (some (.whole 5)) before).1 = .ok (.value (.int 42)) := by
  intro c body before
  obtain ⟨-, hiff⟩ := (faithful_iff "hci0" [.start] body (some (.whole 5)) before 0 []).2 {} rfl
  have hf : c.Faithful body (some (.whole 5)) before 0 [] := by
    refine (hiff rfl).mpr ?_
    rintro ((⟨o, ho, -, -, hmistaken⟩ | ⟨o, b, ho, helapsed, -⟩) | ⟨hnone, -⟩)
    · obtain rfl := (Prod.mk.inj (List.mem_singleton.mp ho)).2
      cases hmistaken
    · obtain rfl : Except.ok (.value (.int 42)) = o := Option.some.inj ho
      cases helapsed
    · cases hnone
  exact ⟨hf, hf.own (.ok (.value (.int 42))) (List.mem_singleton_self _) List.mem_cons_self rfl⟩

/-- A coroutine that fails with the library's own kind of elapsed time, at once. -/
theorem not_faithful_powerTimeout :
    ¬ (run { loop := { name := "default" } } [.start]).Faithful
      (.raises (.foreign .powerTimeout "boom" none)) (some (.whole 5)) [.turn] 0 [] := by
  have h := (next_run (sound_first "default") [.start]).sound
  exact not_faithful_of_misread 0 h rfl rfl
    (Or.inl ⟨_, List.mem_singleton_self _, List.mem_cons_self, rfl, rfl⟩)

end Course

end EventLoop

end BluetoothControl
