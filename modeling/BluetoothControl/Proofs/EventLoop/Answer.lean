import BluetoothControl.EventLoop

/-!
# What a caller is told

A failure of a coroutine reaches the caller under three conditions: it is filed as the outcome of
the call, settled by its kind, and told if the wait lasted.  Each of the three leaves most kinds as
they are.
-/

namespace BluetoothControl

namespace Failure

/-- Telling a bound changes the kind of a failure only where the bound cannot be told. -/
theorem kind_telling (bound : Seconds) (f : Failure) :
    (telling bound f).kind = .wrongType ∨ (telling bound f).kind = .overflow ∨
      (telling bound f).kind = f.kind := by
  unfold telling
  split
  · exact Or.inl rfl
  · split
    · exact Or.inr (Or.inl rfl)
    · exact Or.inr (Or.inr rfl)

/-- A bound that can be told is. -/
theorem telling_of_isTellable {bound : Seconds} (h : bound.isTellable = true)
    (f : Failure) : telling bound f = f := by
  unfold Seconds.isTellable at h
  rw [Bool.and_eq_true] at h
  unfold telling
  rw [h.1, h.2]
  rfl

/-- Other bounds are not told. -/
theorem telling_iff {bound : Seconds} {f : Failure} (hw : f ≠ .wrongType) (ht : f ≠ .tooLarge) :
    telling bound f = f ↔ bound.isTellable = true := by
  unfold telling Seconds.isTellable
  cases bound.isNumber <;> cases bound.isRepresentable <;> simp [hw.symm, ht.symm]

theorem filed_of_kind {f : Failure} (hc : f.kind ≠ .cancelled) (hw : f.kind ≠ .withdrawn)
    (ho : f.kind ≠ .outOfTurn) : f.filed = f := by
  unfold filed
  split
  · exact absurd rfl hw
  · exact absurd rfl ho
  · rw [if_neg hc]

/-- Some kinds come from elsewhere only. -/
theorem eq_foreign {f : Failure} {k : Kind} (hk : k = .withdrawn ∨ k = .outOfTurn)
    (hf : f.kind = k) : ∃ text reply, f = .foreign k text reply := by
  cases f with
  | foreign j text reply =>
    obtain rfl : j = k := hf
    exact ⟨text, reply, rfl⟩
  | system number text =>
    change Kind.ofErrorNumber number = k at hf
    unfold Kind.ofErrorNumber at hf
    split at hf
    · rcases hk with rfl | rfl <;> cases hf
    · split at hf <;> rcases hk with rfl | rfl <;> cases hf
  | _ => rcases hk with rfl | rfl <;> cases hf

end Failure

namespace EventLoop

/-- A caller is told that its bound is up, or fails over telling it. -/
theorem unfinished_cases (loop : String) (bound : Option Seconds) :
    (unfinished loop bound).kind = .wrongType ∨ (unfinished loop bound).kind = .overflow ∨
      (unfinished loop bound).kind = .service := by
  cases bound with
  | none => exact Or.inl rfl
  | some b => exact Failure.kind_telling b _

/-- What a caller is told whose bound is up is neither an elapsed time itself nor a stopped loop. -/
theorem kind_unfinished (loop : String) (bound : Option Seconds) :
    (unfinished loop bound).kind.isA .elapsed = false ∧
      (unfinished loop bound).kind ≠ .loopStopped := by
  rcases unfinished_cases loop bound with hk | hk | hk <;>
    · rw [hk]
      decide

theorem settleFailure_of_isElapsed {f : Failure} (h : f.isA .elapsed = true) (loop : String)
    (bound : Option Seconds) : settleFailure loop bound f = unfinished loop bound := by
  unfold settleFailure
  rw [if_pos h]

theorem settleFailure_of_isWithdrawn {f : Failure} (he : f.isA .elapsed = false)
    (h : f.isA .withdrawn = true) (loop : String) (bound : Option Seconds) :
    settleFailure loop bound f = .callCancelled loop := by
  unfold settleFailure
  rw [he, if_neg Bool.false_ne_true]
  split
  · rfl
  · rw [if_pos h]

/-- All other kinds reach the caller. -/
theorem settleFailure_of_neither {f : Failure} (he : f.isA .elapsed = false)
    (hw : f.isA .withdrawn = false) (hc : f ≠ .cancelled) (loop : String) (bound : Option Seconds) :
    settleFailure loop bound f = f := by
  unfold settleFailure
  rw [he, if_neg Bool.false_ne_true]
  split
  · exact absurd rfl hc
  · rw [hw, if_neg Bool.false_ne_true]

/-- Of a bound that can be waited for and told, callers are told when it is up. -/
theorem untold_of_isWaitable {bound : Seconds} (h : bound.isWaitable = true) (loop : String) :
    untold loop (some bound) = .callUnfinished loop bound := by
  have hr : bound.patience.refusal? = none :=
    Option.isNone_iff_eq_none.mp (Bool.and_eq_true _ _ ▸ h).2
  show (bound.patience.refusal?).getD (unfinished loop (some bound)) = _
  rw [hr]
  exact Failure.telling_of_isTellable (Seconds.isTellable_of_isWaitable h) _

/-- A cancellation reaches the caller as the loop's. -/
theorem settleFailure_of_cancelled {f : Failure} (h : f.kind = .cancelled) (loop : String)
    (bound : Option Seconds) : settleFailure loop bound f.filed = .callCancelled loop := by
  have hf : f.filed = .cancelled := by
    unfold Failure.filed
    split
    · cases h
    · cases h
    · rw [if_pos h]
  rw [hf]
  rfl

/-- Most failures reach the caller as they are. -/
theorem settleFailure_filed {f : Failure}
    (h : f.kind ∉ [Kind.cancelled, .elapsed, .powerTimeout, .withdrawn, .withdrawnOtherwise,
      .outOfTurn]) (loop : String) (bound : Option Seconds) :
    settleFailure loop bound f.filed = f := by
  have hkinds : f.kind ≠ .cancelled ∧ f.kind ≠ .withdrawn ∧ f.kind ≠ .outOfTurn ∧
      f.kind.isA .elapsed = false ∧ f.kind.isA .withdrawn = false := by
    revert h
    cases f.kind <;> decide
  obtain ⟨hc, hw, ho, he, ha⟩ := hkinds
  rw [Failure.filed_of_kind hc hw ho]
  refine settleFailure_of_neither he ha ?_ loop bound
  rintro rfl
  exact hc rfl

/-- A bound is refused as a value of the wrong type, or as too large. -/
theorem refusal_cases {bound : Option Seconds} {f : Failure}
    (h : (Patience.under bound).refusal? = some f) : f.kind = .wrongType ∨ f.kind = .overflow := by
  unfold Patience.under at h
  split at h
  · cases h
  · unfold Seconds.patience at h
    repeat' split at h
    all_goals first | cases h; done | obtain rfl := Option.some.inj h; simp [Failure.kind]

/-- Whoever goes on without an outcome is told of no cancellation. -/
theorem isOrdinary_untold (loop : String) (bound : Option Seconds) :
    (untold loop bound).kind.isOrdinary = true := by
  unfold untold
  cases hr : (Patience.under bound).refusal? with
  | some f =>
    show f.kind.isOrdinary = true
    rcases refusal_cases hr with hk | hk <;> rw [hk] <;> rfl
  | none =>
    show (unfinished loop bound).kind.isOrdinary = true
    rcases unfinished_cases loop bound with hk | hk | hk <;> rw [hk] <;> rfl

/-- No caller is told of a cancellation unless a coroutine failed with a withdrawal. -/
theorem isOrdinary_settleFailure {f : Failure} (h : f.isA .withdrawn = false) (loop : String)
    (bound : Option Seconds) : (settleFailure loop bound f.filed).kind.isOrdinary = true := by
  by_cases hc : f.kind = .cancelled
  · rw [settleFailure_of_cancelled hc]
    rfl
  cases he : f.isA .elapsed with
  | true =>
    have hkinds : f.kind ≠ .withdrawn ∧ f.kind ≠ .outOfTurn := by
      unfold Failure.isA at he
      revert he
      cases f.kind <;> decide
    rw [Failure.filed_of_kind hc hkinds.1 hkinds.2, settleFailure_of_isElapsed he]
    rcases unfinished_cases loop bound with hk | hk | hk <;> rw [hk] <;> rfl
  | false =>
    by_cases ho : f.kind = .outOfTurn
    · obtain ⟨text, reply, rfl⟩ := Failure.eq_foreign (Or.inr rfl) ho
      rfl
    · rw [settleFailure_filed]
      · simpa [Kind.isOrdinary] using hc
      · unfold Failure.isA at h he
        revert h he hc ho
        cases f.kind <;> decide

end EventLoop

end BluetoothControl
