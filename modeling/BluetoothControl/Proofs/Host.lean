import BluetoothControl.Host.Classic
import BluetoothControl.Proofs.DevicePath
import BluetoothControl.Proofs.Procedure

/-!
# What the host's steps observe

Reading an adapter's device information and running the inquiry tool are no traffic on the bus, and
fail as the service does where all that is printed is text.
-/

namespace BluetoothControl

open Procedure

variable {α β : Type} {doc : Failure → Prop}

/-- All that the inquiry tool will print is text. -/
def Host.PrintsText (h : Host) : Prop := ∀ r ∈ h.toolRuns, r.isText = true

/-- A step of the host that is no traffic on the bus, after which the inquiry tool prints text if it
did before, and whose failures are documented then. -/
structure Plain (doc : Failure → Prop) (p : HostAction α) : Prop where
  quiet : Keeps (fun h => Silent h.log) p
  legible : Keeps Host.PrintsText p
  fails : ∀ h, h.PrintsText → ∀ f, (p h).1 = .error f → doc f

/-! ## Arguments of the inquiry tool -/

theorem isArgument_iff {text : String} : isArgument text = true ↔ '\x00' ∉ text.toList := by
  simp [isArgument]

/-- A canonical address can be handed to a program. -/
theorem isArgument_of_isCanonical {a : String} (h : Address.isCanonical a.toList = true) :
    isArgument a = true := by
  refine isArgument_iff.mpr fun hmem => ?_
  rcases Address.mem_of_isCanonical h hmem with hc | hc <;> cases hc

/-- So can the name of an adapter whose path is one. -/
theorem isArgument_of_isValid {adapter : String}
    (h : ObjectPath.isValid (ObjectPath.ofAdapter adapter) = true) : isArgument adapter = true := by
  refine isArgument_iff.mpr fun hmem => ?_
  have hpath : '\x00' ∈ (ObjectPath.ofAdapter adapter).toList := by
    unfold ObjectPath.ofAdapter
    rw [String.toList_append]
    exact List.mem_append_right _ hmem
  rcases ObjectPath.mem_of_isValid h hpath with hc | hc | hc <;> cases hc

/-! ## Steps -/

/-- What a host has to tell after a step that is no traffic, if it had nothing to tell before. -/
theorem silent_step {p : HostAction α} (hp : Keeps (fun h => Silent h.log) p) {h : Host}
    (hh : h.log = []) : Silent (p h).2.log := by
  refine hp h ?_
  show Silent h.log
  rw [hh]
  exact silent_nil

theorem plain_pure (a : α) : Plain doc (pure a : HostAction α) :=
  ⟨keeps_pure a, keeps_pure a, fun _ _ _ h => by cases h⟩

theorem plain_throw {f : Failure} (h : doc f) : Plain doc (throw f : HostAction α) :=
  ⟨keeps_throw f, keeps_throw f, fun _ _ g hg => by cases hg; exact h⟩

theorem plain_get : Plain doc (get : HostAction Host) :=
  ⟨keeps_get, keeps_get, fun _ _ _ h => by cases h⟩

theorem plain_observe {e : Event} (h : e.isTraffic = false) : Plain doc (Host.observe e) where
  quiet _ hl := silent_append.mpr ⟨hl, silent_singleton h⟩
  legible _ hp := hp
  fails _ _ _ h := by cases h

theorem plain_bind {p : HostAction α} {f : α → HostAction β} (hp : Plain doc p)
    (hf : ∀ a, Plain doc (f a)) : Plain doc (p >>= f) := by
  refine ⟨keeps_bind hp.quiet fun a => (hf a).quiet, keeps_bind hp.legible fun a => (hf a).legible,
    fun h hh g hg => ?_⟩
  have ht := hp.legible h hh
  rw [bind_apply] at hg
  rcases hr : p h with ⟨r, t⟩
  rw [hr] at hg ht
  cases r with
  | ok a => exact (hf a).fails t ht g hg
  | error e =>
    obtain rfl : e = g := Except.error.inj hg
    exact hp.fails h hh e (congrArg Prod.fst hr)

theorem plain_ofExcept {r : Except Failure α} (h : ∀ f, r = .error f → doc f) :
    Plain doc (Procedure.ofExcept r : HostAction α) :=
  ⟨keeps_ofExcept r, keeps_ofExcept r, fun _ _ f hf => h f hf⟩

/-- A run of the inquiry tool goes on with how it ended, which was text if all that it prints is. -/
theorem plain_nextRun {f : ToolRun → HostAction β}
    (hf : ∀ r, Keeps (fun h => Silent h.log) (f r) ∧ Keeps Host.PrintsText (f r))
    (htext : ∀ r, r.isText = true → Plain doc (f r)) : Plain doc (Classic.nextRun >>= f) := by
  have hnext (h : Host) : ∃ r t, Classic.nextRun h = (.ok r, t) ∧ t.log = h.log ∧
      (h.PrintsText → r.isText = true ∧ t.PrintsText) := by
    unfold Classic.nextRun
    rw [modifyGet_apply]
    cases hruns : h.toolRuns with
    | nil => exact ⟨_, _, rfl, rfl, fun hh => ⟨rfl, hh⟩⟩
    | cons r rest =>
      refine ⟨_, _, rfl, rfl, fun hh => ⟨hh r (by rw [hruns]; exact List.mem_cons_self), ?_⟩⟩
      exact fun r' hr' => hh r' (by rw [hruns]; exact List.mem_cons_of_mem r hr')
  refine ⟨fun h hl => ?_, fun h hh => ?_, fun h hh g hg => ?_⟩
  all_goals obtain ⟨r, t, hr, hlog, htexts⟩ := hnext h
  · rw [bind_ok hr]
    refine (hf r).1 t ?_
    show Silent t.log
    rw [hlog]
    exact hl
  · rw [bind_ok hr]
    exact (hf r).2 t (htexts hh).2
  · rw [bind_ok hr] at hg
    exact (htext r (htexts hh).1).fails t (htexts hh).2 g hg

theorem plain_runTool (hdoc : ∀ f : Failure, f.isA .service = true → doc f)
    {adapter verb : String} {args : List String}
    (hargs : ([adapter, verb] ++ args).all isArgument = false → doc .notArguments)
    (bound : Seconds) : Plain doc (Classic.runTool adapter verb args bound) := by
  refine plain_bind (plain_observe rfl) fun _ => plain_bind plain_get fun h => ?_
  split
  · exact plain_throw (hdoc _ rfl)
  · dsimp only
    split
    · next ht =>
      refine plain_throw (hargs ?_)
      unfold Host.takes at ht
      simp only [Bool.not_eq_true', Bool.or_eq_false_iff] at ht
      exact ht.2
    · refine plain_bind (plain_observe rfl) fun _ =>
        plain_nextRun (fun r => ?_) fun r hr => ?_
      · cases r with
        | exited output diagnostics status =>
          dsimp only
          split
          · exact ⟨keeps_throw _, keeps_throw _⟩
          · exact ⟨keeps_pure _, keeps_pure _⟩
        | _ => exact ⟨keeps_throw _, keeps_throw _⟩
      · cases r with
        | garbled complaint => cases hr
        | exited output diagnostics status =>
          dsimp only
          split
          · exact plain_throw (hdoc _ rfl)
          · exact plain_pure _
        | _ => exact plain_throw (hdoc _ rfl)

theorem plain_scan (hdoc : ∀ f : Failure, f.isA .service = true → doc f) {adapter : String}
    (hadapter : isArgument adapter = false → doc .notArguments) :
    Plain doc (Classic.scan adapter) :=
  plain_bind (plain_runTool hdoc (fun h => hadapter (by
    have hverb : isArgument "scan" = true := by decide +kernel
    simpa [hverb] using h)) _) fun _ => plain_pure _

theorem plain_detect (hdoc : ∀ f : Failure, f.isA .service = true → doc f)
    {adapter address : String} (ha : ∀ f, Address.normalize address = .error f → doc f)
    (hadapter : isArgument adapter = false → doc .notArguments) :
    Plain doc (Classic.detect adapter address) := by
  unfold Classic.detect
  cases hn : Address.normalize address with
  | error f => exact plain_throw (ha f hn)
  | ok a =>
    show Plain doc (Classic.runTool adapter "name" [a] Classic.nameBound >>= fun name => pure _)
    refine plain_bind (plain_runTool hdoc (fun h => hadapter ?_) _) fun _ => plain_pure _
    have hverb : isArgument "name" = true := by decide +kernel
    have ha : isArgument a = true := isArgument_of_isCanonical (Address.isCanonical_of_normalize hn)
    simpa [hverb, ha] using h

theorem plain_info (hdoc : ∀ f : Failure, f.isA .service = true → doc f) {adapter : String}
    (hn : ∀ f, Adapters.number adapter = .error f → doc f) : Plain doc (Classic.info adapter) := by
  refine plain_bind plain_get fun h => ?_
  dsimp only
  split
  · exact plain_throw (hdoc _ rfl)
  · refine plain_bind (plain_ofExcept hn) fun n => plain_bind (plain_observe rfl) fun _ => ?_
    split
    · exact plain_throw (hdoc _ rfl)
    · refine plain_bind (plain_observe rfl) fun _ => plain_bind (plain_observe rfl) fun _ => ?_
      split
      · exact plain_throw (hdoc _ rfl)
      · exact plain_pure _

end BluetoothControl
