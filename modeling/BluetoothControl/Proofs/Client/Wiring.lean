import BluetoothControl.Proofs.Client.Attach

/-!
# How a client is wired to the bus

The connection held, the connection recorded for notifications, the live subscriptions and the
handlers on every connection ever opened stay in step, also while the handler is pending on some of
them.  `Wired` relates the client `c` to what was observed so far; here is what single changes do
to it.
-/

namespace BluetoothControl.Client

open Handling

/-! ## The invariant -/

/-- The client and the bus agree, with the handler pending on the connections `ts`. -/
structure Wired (ts : List Nat) (c : Client) (log : List Event) : Prop where
  /-- Whatever was opened after the connection held, nobody holds. -/
  newest : ∀ n, c.bus = some n → 0 < n ∧ n ≤ c.link.buses.length ∧ n ∉ strays log ∧
    ∀ m, n < m → m ≤ c.link.buses.length → m ∈ strays log
  /-- No connection is up but the one held and those that nobody holds. -/
  single : ∀ n, c.link.isConnected n = true → c.bus = some n ∨ n ∈ strays log
  /-- Connections that nobody holds do not have the handler. -/
  bare : ∀ n ∈ strays log, n ≤ c.link.buses.length ∧ c.link.handlersOn n = 0
  /-- The handler is pending on connections that were held, once on each. -/
  pending : ts.Nodup ∧ ∀ n ∈ ts, n ≤ c.link.buses.length ∧ n ∉ strays log
  /-- The recorded connection is the one for which notifications were granted last. -/
  recorded : c.signalBus = lastGranted (handlings log)
  /-- The recorded connection was held, and accepted the request if it still is. -/
  placed : ∀ n, c.signalBus = some n → n ≤ c.link.buses.length ∧ n ∉ strays log ∧ n ∉ ts ∧
    (c.bus = some n → Accepted log n)
  /-- The handler is on a connection once for each time asking was interrupted, once for each
  request in force, and once if it is pending. -/
  ledger : ∀ n, c.link.handlersOn n =
    interruptions (handlings log) n + inForce (handlings log) n + ts.count n
  /-- Every live handle was given out. -/
  fresh : ∀ e ∈ c.subscriptions, e.1 < c.nextHandle
  /-- No two live subscriptions share a handle. -/
  distinct : (c.subscriptions.map (·.1)).Nodup

section
variable {ts : List Nat} {c : Client} {log es : List Event} {n : Nat}

theorem openBus?_eq_some : c.openBus? = some n ↔ c.bus = some n ∧ c.link.isConnected n = true :=
  Option.filter_eq_some_iff

theorem strays_append (es fs : List Event) : strays (es ++ fs) = strays es ++ strays fs :=
  List.filterMap_append

/-- The handler is pending on one connection more. -/
theorem count_pending (n : Nat) (ts : List Nat) (m : Nat) :
    (n :: ts).count m = ts.count m + if m = n then 1 else 0 := by
  rw [List.count_cons]
  by_cases hm : m = n
  · simp [hm]
  · have hm' : ¬ n = m := fun e => hm e.symm
    simp [hm, hm']

namespace Wired

/-! ### Connections -/

/-- Connections may go down, as long as the handler stays where it is. -/
theorem relink (h : Wired ts c log) {l : Link} (hlen : l.buses.length = c.link.buses.length)
    (hup : ∀ m, l.isConnected m = true → c.link.isConnected m = true)
    (hon : ∀ m, l.handlersOn m = c.link.handlersOn m) (hh : handlings es = [])
    (hs : strays es = []) : Wired ts (c.withLink l) (log ++ es) := by
  have hh' : handlings (log ++ es) = handlings log := by
    rw [handlings_append, hh, List.append_nil]
  have hs' : strays (log ++ es) = strays log := by rw [strays_append, hs, List.append_nil]
  refine ⟨?_, ?_, ?_, ?_, ?_, ?_, ?_, h.fresh, h.distinct⟩
  · rw [hs']
    show ∀ n, c.bus = some n → 0 < n ∧ n ≤ l.buses.length ∧ _ ∧ ∀ m, n < m → m ≤ l.buses.length → _
    rw [hlen]
    exact h.newest
  · rw [hs']
    exact fun m hm => h.single m (hup m hm)
  · rw [hs']
    show ∀ n ∈ _, n ≤ l.buses.length ∧ l.handlersOn n = 0
    simp only [hlen, hon]
    exact h.bare
  · rw [hs']
    show _ ∧ ∀ n ∈ ts, n ≤ l.buses.length ∧ _
    rw [hlen]
    exact h.pending
  · rw [hh']
    exact h.recorded
  · rw [hs']
    show ∀ n, c.signalBus = some n → n ≤ l.buses.length ∧ _
    rw [hlen]
    exact fun n hn =>
      ⟨(h.placed n hn).1, (h.placed n hn).2.1, (h.placed n hn).2.2.1, fun hb =>
        ((h.placed n hn).2.2.2 hb).append es⟩
  · rw [hh']
    exact fun m => (hon m).trans (h.ledger m)

theorem of_buses (h : Wired ts c log) {l : Link} (hl : l.buses = c.link.buses)
    (hh : handlings es = []) (hs : strays es = []) : Wired ts (c.withLink l) (log ++ es) := by
  refine h.relink (congrArg _ hl) (fun m hm => ?_) (Link.handlersOn_of_buses hl) hh hs
  rw [← Link.isConnected_of_buses hl]
  exact hm

/-- To observe what is about neither the handler nor connections changes nothing. -/
theorem observed (h : Wired ts c log) (hh : handlings es = []) (hs : strays es = []) :
    Wired ts c (log ++ es) := h.of_buses rfl hh hs

theorem nextReply (h : Wired ts c log) (n : Nat) (es : List Event) (hh : handlings es = [])
    (hs : strays es = []) :
    Wired ts (c.withLink (c.link.nextReply n).2) (log ++ es) :=
  h.relink (Link.length_nextReply ..) (fun _ => Link.isConnected_of_nextReply)
    (fun _ => Link.handlersOn_nextReply ..) hh hs

theorem drop (h : Wired ts c log) (n : Nat) (es : List Event) (hh : handlings es = [])
    (hs : strays es = []) :
    Wired ts (c.withLink (c.link.drop n)) (log ++ es) :=
  h.relink (Link.length_change ..) (fun _ => Link.isConnected_of_drop)
    (fun _ => Link.handlersOn_drop ..) hh hs

/-- While none is in use, only connections that nobody holds are up. -/
theorem stray_of_up (h : Wired ts c log) (hn : c.openBus? = none)
    (hm : c.link.isConnected n = true) : n ∈ strays log := by
  refine (h.single n hm).resolve_left fun hb => ?_
  rw [openBus?_eq_some.mpr ⟨hb, hm⟩] at hn
  cases hn

/-- A connection that is down may be given up. -/
theorem release (h : Wired ts c log) (hn : c.openBus? = none) :
    Wired ts { c with bus := none } log where
  newest n hb := by cases hb
  single n hm := Or.inr (h.stray_of_up hn hm)
  bare := h.bare
  pending := h.pending
  recorded := h.recorded
  placed n hr := ⟨(h.placed n hr).1, (h.placed n hr).2.1, (h.placed n hr).2.2.1,
    fun hb => by cases hb⟩
  ledger := h.ledger
  fresh := h.fresh
  distinct := h.distinct

/-- While none is in use, a new one may be held. -/
theorem connected (h : Wired ts c log) (hn : c.openBus? = none) :
    Wired ts c.connected (log ++ [.connected (c.link.buses.length + 1)]) := by
  have hh : handlings (log ++ [.connected (c.link.buses.length + 1)]) = handlings log :=
    (handlings_append ..).trans (List.append_nil _)
  have hs : strays (log ++ [.connected (c.link.buses.length + 1)]) = strays log :=
    (strays_append ..).trans (List.append_nil _)
  have hlen := length_connected c
  have hnew : c.link.buses.length + 1 ∉ strays log := fun hm => absurd (h.bare _ hm).1 (by omega)
  refine ⟨?_, ?_, ?_, ?_, ?_, ?_, ?_, h.fresh, h.distinct⟩
  · rw [hs, hlen]
    rintro n hb
    obtain rfl := Option.some.inj hb
    exact ⟨by omega, Nat.le_refl _, hnew, fun m hlt hle => absurd hle (by omega)⟩
  · rw [hs]
    intro n hm
    rw [isConnected_connected, Bool.or_eq_true, decide_eq_true_iff] at hm
    rcases hm with rfl | hm
    · exact Or.inl rfl
    · exact Or.inr (h.stray_of_up hn hm)
  · rw [hs, hlen]
    simp only [handlersOn_connected]
    exact fun n hm => ⟨Nat.le_succ_of_le (h.bare n hm).1, (h.bare n hm).2⟩
  · rw [hs, hlen]
    exact ⟨h.pending.1, fun n hm => ⟨Nat.le_succ_of_le (h.pending.2 n hm).1, (h.pending.2 n hm).2⟩⟩
  · rw [hh]
    exact h.recorded
  · rw [hs, hlen]
    intro n hr
    obtain ⟨hle, hst, hp, -⟩ := h.placed n hr
    refine ⟨Nat.le_succ_of_le hle, hst, hp, fun hb => ?_⟩
    obtain rfl := Option.some.inj hb
    exact absurd hle (by omega)
  · rw [hh]
    exact fun m => (handlersOn_connected c m).trans (h.ledger m)

/-- A new connection that nobody holds makes no difference to the one that is held. -/
theorem strayed (h : Wired ts c log) :
    Wired ts c.strayed (log ++ [.strayed (c.link.buses.length + 1)]) := by
  have hh : handlings (log ++ [.strayed (c.link.buses.length + 1)]) = handlings log :=
    (handlings_append ..).trans (List.append_nil _)
  have hs : strays (log ++ [.strayed (c.link.buses.length + 1)]) =
      strays log ++ [c.link.buses.length + 1] := strays_append ..
  have hlen := length_strayed c
  have hold {n : Nat} (hle : n ≤ c.link.buses.length) (hn : n ∉ strays log) :
      n ∉ strays log ++ [c.link.buses.length + 1] := by
    rw [List.mem_append, List.mem_singleton]
    rintro (hm | rfl)
    · exact hn hm
    · omega
  refine ⟨?_, ?_, ?_, ?_, ?_, ?_, ?_, h.fresh, h.distinct⟩
  · rw [hs, hlen]
    intro n hb
    obtain ⟨hpos, hle, hst, hlater⟩ := h.newest n hb
    refine ⟨hpos, Nat.le_succ_of_le hle, hold hle hst, fun m hlt hm => ?_⟩
    rcases Nat.lt_or_eq_of_le hm with hm | rfl
    · exact List.mem_append_left _ (hlater m hlt (Nat.le_of_lt_succ hm))
    · exact List.mem_append_right _ (List.mem_singleton_self _)
  · rw [hs]
    intro n hm
    rw [isConnected_strayed, Bool.or_eq_true, decide_eq_true_iff] at hm
    rcases hm with rfl | hm
    · exact Or.inr (List.mem_append_right _ (List.mem_singleton_self _))
    · exact (h.single n hm).imp_right (List.mem_append_left _)
  · rw [hs, hlen]
    simp only [handlersOn_strayed]
    intro n hm
    rcases List.mem_append.mp hm with hm | hm
    · exact ⟨Nat.le_succ_of_le (h.bare n hm).1, (h.bare n hm).2⟩
    · obtain rfl := List.mem_singleton.mp hm
      exact ⟨Nat.le_refl _, Link.handlersOn_of_length_lt (Nat.lt_succ_self _)⟩
  · rw [hs, hlen]
    exact ⟨h.pending.1, fun n hm => ⟨Nat.le_succ_of_le (h.pending.2 n hm).1,
      hold (h.pending.2 n hm).1 (h.pending.2 n hm).2⟩⟩
  · rw [hh]
    exact h.recorded
  · rw [hs, hlen]
    intro n hr
    obtain ⟨hle, hst, hp, ha⟩ := h.placed n hr
    exact ⟨Nat.le_succ_of_le hle, hold hle hst, hp, fun hb => (ha hb).append _⟩
  · rw [hh]
    exact fun m => (handlersOn_strayed c m).trans (h.ledger m)

/-! ### The handler -/

/-- The handler is put on the connection held. -/
theorem asking (h : Wired ts c log) (hb : c.bus = some n) (hr : c.signalBus ≠ some n)
    (hn : n ∉ ts) :
    Wired (n :: ts) (c.withLink (c.link.addHandler n)) (log ++ [.handlerAdded n]) := by
  obtain ⟨hpos, hle, hst, hlater⟩ := h.newest n hb
  have hh : handlings (log ++ [.handlerAdded n]) = handlings log :=
    (handlings_append ..).trans (List.append_nil _)
  have hs : strays (log ++ [.handlerAdded n]) = strays log :=
    (strays_append ..).trans (List.append_nil _)
  have hlen : (c.link.addHandler n).buses.length = c.link.buses.length := Link.length_change ..
  have hon := Link.handlersOn_addHandler ⟨hpos, hle⟩
  refine ⟨?_, ?_, ?_, ?_, ?_, ?_, ?_, h.fresh, h.distinct⟩
  · rw [hs, withLink, hlen]
    exact h.newest
  · rw [hs]
    intro m hm
    rw [withLink, Link.isConnected_addHandler] at hm
    exact h.single m hm
  · rw [hs, withLink, hlen]
    intro m hm
    refine ⟨(h.bare m hm).1, (hon m).trans ?_⟩
    rw [(h.bare m hm).2, if_neg]
    rintro rfl
    exact hst hm
  · rw [hs, withLink, hlen]
    refine ⟨List.nodup_cons.mpr ⟨hn, h.pending.1⟩, fun m hm => ?_⟩
    rcases List.mem_cons.mp hm with rfl | hm
    · exact ⟨hle, hst⟩
    · exact h.pending.2 m hm
  · rw [hh]
    exact h.recorded
  · rw [hs, withLink, hlen]
    intro m hm
    obtain ⟨hle, hst, hp, ha⟩ := h.placed m hm
    refine ⟨hle, hst, ?_, fun hb => (ha hb).append _⟩
    rw [List.mem_cons]
    rintro (rfl | hm')
    · exact hr hm
    · exact hp hm'
  · rw [hh]
    intro m
    refine (hon m).trans ?_
    rw [h.ledger, count_pending, Nat.add_assoc]

/-- Asking for notifications for a pending connection comes to an end, and with it the pending; the
record and the handlers on that connection change accordingly. -/
theorem settle (h : Wired (n :: ts) c log) {l : Link} {r : Option Nat}
    (hbuses : l.buses.length = c.link.buses.length)
    (hup : ∀ m, l.isConnected m = true → c.link.isConnected m = true) (hs : strays es = [])
    (hr : r = lastGranted (handlings (log ++ es)))
    (hplaced : r = c.signalBus ∨ r = some n ∧ (c.bus = some n → Accepted log n))
    (hle : ∀ m, l.handlersOn m ≤ c.link.handlersOn m)
    (hon : ∀ m, l.handlersOn m =
      interruptions (handlings (log ++ es)) m + inForce (handlings (log ++ es)) m + ts.count m) :
    Wired ts { c.withLink l with signalBus := r } (log ++ es) := by
  have hs' : strays (log ++ es) = strays log := by rw [strays_append, hs, List.append_nil]
  obtain ⟨hnodup, hpending⟩ := h.pending
  obtain ⟨hn, hnodup⟩ := List.nodup_cons.mp hnodup
  refine ⟨?_, ?_, ?_, ?_, hr, ?_, hon, h.fresh, h.distinct⟩
  · rw [hs', withLink, hbuses]
    exact h.newest
  · rw [hs']
    exact fun m hm => h.single m (hup m hm)
  · rw [hs', withLink, hbuses]
    exact fun m hm => ⟨(h.bare m hm).1, Nat.le_zero.mp ((h.bare m hm).2 ▸ hle m)⟩
  · rw [hs', withLink, hbuses]
    exact ⟨hnodup, fun m hm => hpending m (List.mem_cons_of_mem _ hm)⟩
  · rw [hs', withLink, hbuses]
    intro m hm
    rcases hplaced with rfl | ⟨rfl, ha⟩
    · obtain ⟨hle, hst, hp, ha⟩ := h.placed m hm
      exact ⟨hle, hst, fun hm' => hp (List.mem_cons_of_mem _ hm'), fun hb => (ha hb).append es⟩
    · obtain rfl := Option.some.inj hm
      obtain ⟨hle, hst⟩ := hpending n List.mem_cons_self
      exact ⟨hle, hst, hn, fun hb => (ha hb).append es⟩

/-- Whatever asking for notifications came to, the handler is accounted for. -/
theorem settled {w : World Client} (h : Wired (n :: ts) w.service w.log) (consent : Consent)
    (hg : consent = .granted → ∃ m, w.service.bus = some m ∧ Accepted w.log m) :
    Wired ts (Client.settled n consent w).service (Client.settled n consent w).log := by
  have hunrecorded : lastGranted (handlings w.log) ≠ some n := by
    rw [← h.recorded]
    exact fun hr => (h.placed n hr).2.2.1 List.mem_cons_self
  -- asking counts once, whatever came of it, and then the handler is no longer pending
  have hasked : ∀ m, interruptions (handlings w.log ++ [.asked n consent]) m +
      inForce (handlings w.log ++ [.asked n consent]) m + ts.count m =
        w.service.link.handlersOn m := by
    intro m
    rw [count_asked, h.ledger, count_pending]
    omega
  cases consent with
  | granted =>
    refine h.settle rfl (fun _ hm => hm) rfl ?_ (Or.inr ⟨rfl, fun hb => ?_⟩)
      (fun _ => Nat.le_refl _) fun m => ?_
    · rw [handlings_append]
      exact (lastGranted_append _ (.asked n .granted)).symm
    · obtain ⟨m, hm, ha⟩ := hg rfl
      rw [hb] at hm
      rwa [← Option.some.inj hm] at ha
    · rw [handlings_append]
      exact (hasked m).symm
  | interrupted =>
    refine h.settle rfl (fun _ hm => hm) rfl ?_ (Or.inl rfl) (fun _ => Nat.le_refl _) fun m => ?_
    · rw [handlings_append, h.recorded]
      exact (lastGranted_append _ (.asked n .interrupted)).symm
    · rw [handlings_append]
      exact (hasked m).symm
  | denied =>
    have hh : handlings (w.log ++ [.consented n .denied, .handlerRemoved n]) =
        (handlings w.log ++ [.asked n .denied]) ++ [.removed n] := by
      rw [handlings_append, List.append_assoc]
      rfl
    refine h.settle (l := w.service.link.removeHandler n) (r := w.service.signalBus)
      (Link.length_change ..) (fun m hm => ?_) rfl ?_ (Or.inl rfl) (fun m => ?_) fun m => ?_
    · rwa [Link.isConnected_removeHandler] at hm
    · rw [hh, lastGranted_append, lastGranted_append, h.recorded]
      exact (if_neg hunrecorded).symm
    · rw [Link.handlersOn_removeHandler]
      exact Nat.sub_le ..
    · have hm := hasked m
      rw [inForce_append] at hm
      rw [hh, count_removed, inForce_append, Link.handlersOn_removeHandler, ← hm]
      by_cases he : m = n
      · subst he
        simp [enforce]
        omega
      · simp [he]

/-- Taking the handler off the recorded connection takes the record back. -/
theorem withdrawn (h : Wired ts c log) (hn : c.signalBus = some n) :
    Wired ts (c.withdrawn n) (log ++ [.handlerRemoved n]) := by
  have hh : handlings (log ++ [.handlerRemoved n]) = handlings log ++ [.removed n] :=
    handlings_append ..
  have hs : strays (log ++ [.handlerRemoved n]) = strays log :=
    (strays_append ..).trans (List.append_nil _)
  have hlast : lastGranted (handlings log) = some n := h.recorded.symm.trans hn
  have hlen : (c.link.removeHandler n).buses.length = c.link.buses.length := Link.length_change ..
  have hon := Link.handlersOn_removeHandler c.link n
  refine ⟨?_, ?_, ?_, ?_, ?_, (fun m hm => by cases hm), ?_, h.fresh, h.distinct⟩
  · rw [hs, Client.withdrawn, withLink, hlen]
    exact h.newest
  · rw [hs]
    intro m hm
    rw [Client.withdrawn, withLink, Link.isConnected_removeHandler] at hm
    exact h.single m hm
  · rw [hs, Client.withdrawn, withLink, hlen]
    exact fun m hm => ⟨(h.bare m hm).1, (hon m).trans (by rw [(h.bare m hm).2, Nat.zero_sub])⟩
  · rw [hs, Client.withdrawn, withLink, hlen]
    exact h.pending
  · rw [hh, lastGranted_append, hlast]
    exact (if_pos rfl).symm
  · intro m
    refine (hon m).trans ?_
    rw [hh, count_removed, h.ledger]
    by_cases hm : m = n
    · subst hm
      have := inForce_pos hlast
      simp only [if_true]
      omega
    · simp only [if_neg hm, Nat.sub_zero]

/-! ### Subscribers -/

/-- A subscriber is entered under a handle that nobody has. -/
theorem enter (h : Wired ts c log) (s : Subscriber) : Wired ts (c.entered s) log where
  newest := h.newest
  single := h.single
  bare := h.bare
  pending := h.pending
  recorded := h.recorded
  placed := h.placed
  ledger := h.ledger
  fresh e he := by
    rcases List.mem_append.mp he with he | he
    · exact Nat.lt_succ_of_lt (h.fresh e he)
    · rw [List.mem_singleton.mp he]
      exact Nat.lt_succ_self _
  distinct := by
    show ((c.subscriptions ++ [(c.nextHandle, s)]).map (·.1)).Nodup
    rw [List.map_append, List.nodup_append]
    refine ⟨h.distinct, by simp, ?_⟩
    intro a ha b hb
    obtain ⟨e, he, rfl⟩ := List.mem_map.mp ha
    rw [List.mem_singleton.mp hb]
    exact Nat.ne_of_lt (h.fresh e he)

theorem retain (h : Wired ts c log) {subscriptions : List (Nat × Subscriber)}
    (hsub : subscriptions.Sublist c.subscriptions) : Wired ts { c with subscriptions } log where
  newest := h.newest
  single := h.single
  bare := h.bare
  pending := h.pending
  recorded := h.recorded
  placed := h.placed
  ledger := h.ledger
  fresh e he := h.fresh e (hsub.subset he)
  distinct := (hsub.map _).nodup h.distinct

/-! ### What follows -/

/-- A connection that was recorded and is up is the one held. -/
theorem held_of_recorded (h : Wired ts c log) (hr : c.signalBus = some n)
    (hn : c.link.isConnected n = true) : c.bus = some n :=
  (h.single n hn).resolve_right (h.placed n hr).2.1

end Wired

end

end BluetoothControl.Client
