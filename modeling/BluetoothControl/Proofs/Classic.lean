import BluetoothControl.Proofs.DeviceRequest
import BluetoothControl.Proofs.Host

/-!
# Failures and resources of the classic operations

An argument without a meaning is refused before anything is done, and whatever else goes wrong is
reported as a failure of the service, unless the inquiry tool cannot be given the adapter's name or
prints what is no text (`classic_accounts_iff`).  The tool is run at most once, on the controller's
own adapter, and an adapter socket that was opened is closed.
-/

namespace BluetoothControl

open Procedure

/-! ## What steps of the host do -/

/-- The arguments of a run of the inquiry tool. -/
def Event.arguments? : Event → Option (List String)
  | toolRun argv _ => some argv
  | _ => none

/-- Whether an event is about an adapter socket as such: it is opened, or was to be, or it is
closed. -/
def Event.isSocket : Event → Bool
  | socketOpened .. | socketClosed => true
  | _ => false

namespace Host

variable {α β : Type}

/-- What is observed of a step. -/
def observed (p : HostAction α) (h : Host) : List Event := (p h).2.log.drop h.log.length

/-- The arguments of each run of the inquiry tool in a step. -/
def toolRunsOf (p : HostAction α) (h : Host) : List (List String) :=
  (h.observed p).filterMap Event.arguments?

/-- What happens to adapter sockets in a step. -/
def socketsOf (p : HostAction α) (h : Host) : List Event := (h.observed p).filter Event.isSocket

/-- What may happen to adapter sockets on a host. -/
inductive Closes (h : Host) : List Event → Prop
  /-- None is opened. -/
  | untouched : Closes h []
  /-- One cannot be opened, so there is none to close. -/
  | refused (family kind protocol : Nat) (hrefused : h.socketError.isSome = true) :
    Closes h [.socketOpened family kind protocol]
  /-- One is opened, and then closed once. -/
  | closed (family kind protocol : Nat) (hopened : h.socketError = none) :
    Closes h [.socketOpened family kind protocol, .socketClosed]

/-- A step that fails for a bad value exactly if it is refused, and is not begun then, and that
otherwise fails in no way but as the service does. -/
structure Accounts (p : HostAction α) (refused : Prop) (h : Host) : Prop where
  badValue_iff : (∃ f, (p h).1 = .error f ∧ f.isA .badValue = true) ↔ refused
  unbegun : refused → (p h).2 = h
  service : ¬ refused → ∀ f, (p h).1 = .error f → f.isA .service = true

/-- The inquiry tool would be run, and cannot be given the name of an adapter, or prints what is no
text. -/
def isMuddled (h : Host) (adapter : String) : Bool :=
  h.toolPath.isSome && !(h.takes [adapter] && h.toolRuns.head?.all (·.isText))

/-- The inquiry tool is run at most once in a step, where it is installed, and on an adapter. -/
def RunsOnce (p : HostAction α) (adapter : String) (h : Host) : Prop :=
  h.toolRunsOf p = [] ∨ ∃ path args, h.toolPath = some path ∧
    h.toolRunsOf p = [path :: "-i" :: adapter :: args]

end Host

/-- A failure of the service is none for a bad value. -/
theorem Failure.not_badValue_of_service {f : Failure} (h : f.isA .service = true) :
    f.isA .badValue = false := by
  have hkinds : ∀ k : Kind, k.isA .service = true → k.isA .badValue = false := by
    intro k
    cases k <;> decide
  exact hkinds f.kind h

namespace Host

variable {α β : Type} {h : Host}

theorem accounts_of {p : HostAction α} {refused : Prop}
    (hrefused : refused → ∃ f, f.isA .badValue = true ∧ p h = (.error f, h))
    (hservice : ¬ refused → ∀ f, (p h).1 = .error f → f.isA .service = true) :
    Accounts p refused h where
  badValue_iff := by
    constructor
    · rintro ⟨f, hf, hbad⟩
      by_cases hr : refused
      · exact hr
      · rw [Failure.not_badValue_of_service (hservice hr f hf)] at hbad
        cases hbad
    · intro hr
      obtain ⟨f, hbad, hp⟩ := hrefused hr
      exact ⟨f, by rw [hp], hbad⟩
  unbegun hr := by
    obtain ⟨f, -, hp⟩ := hrefused hr
    rw [hp]
  service := hservice

theorem observed_of_state {p : HostAction α} {q : HostAction β} (hpq : (p h).2 = (q h).2) :
    h.observed p = h.observed q := by
  unfold observed
  rw [hpq]

theorem observed_of_unchanged {p : HostAction α} {r : Except Failure α} (hp : p h = (r, h)) :
    h.observed p = [] := by
  unfold observed
  rw [hp, List.drop_length]

theorem observed_of_logged {p : HostAction α} {r : Except Failure α} {g : Host} {es : List Event}
    (hp : p h = (r, g.logged es)) (hlog : g.log = h.log) : h.observed p = es := by
  unfold observed
  rw [hp, ← hlog, drop_logged]

end Host

namespace Classic

variable {adapter verb : String} {args : List String} {bound : Seconds} {h : Host}

/-! ## The inquiry tool -/

/-- What a run of the inquiry tool comes to. -/
def reported (adapter verb : String) (bound : Seconds) : ToolRun → Except Failure String
  | .garbled complaint => .error (.notText complaint)
  | .overran => .error (.toolElapsed verb adapter bound)
  | .failed number text => .error (.toolFailed verb adapter (Failure.system number text).message)
  | .exited output diagnostics status =>
    if status ≠ 0 then .error (.toolExited verb adapter status (Text.trimText diagnostics))
    else .ok output

theorem observe_apply (e : Event) (h : Host) :
    (Host.observe e : HostAction Unit) h = (.ok (), h.logged [e]) := rfl

theorem nextRun_apply (h : Host) :
    nextRun h = (.ok (h.toolRuns.headD (.exited "" "" 0)),
      { h with toolRuns := h.toolRuns.tail }) := by
  unfold nextRun
  rw [modifyGet_apply]
  cases hruns : h.toolRuns with
  | nil => cases h; cases hruns; rfl
  | cons run rest => rfl

theorem runTool_missing (hpath : h.toolPath = none) :
    runTool adapter verb args bound h = (.error .toolMissing, h.logged [.toolSought toolName]) := by
  have hsame : (h.logged [.toolSought toolName]).toolPath = none := hpath
  unfold runTool
  rw [bind_ok (observe_apply ..), bind_ok (get_apply _), hsame]
  rfl

theorem runTool_refused {path : String} (hpath : h.toolPath = some path)
    (htakes : h.takes ([adapter, verb] ++ args) = false) :
    runTool adapter verb args bound h =
      (.error .notArguments, h.logged [.toolSought toolName]) := by
  have hsame : (h.logged [.toolSought toolName]).toolPath = some path := hpath
  have htook : (h.logged [.toolSought toolName]).takes ([adapter, verb] ++ args) = false := htakes
  unfold runTool
  rw [bind_ok (observe_apply ..), bind_ok (get_apply _), hsame]
  dsimp only
  rw [htook]
  rfl

theorem runTool_found {path : String} (hpath : h.toolPath = some path)
    (htakes : h.takes ([adapter, verb] ++ args) = true) :
    runTool adapter verb args bound h =
      (reported adapter verb bound (h.toolRuns.headD (.exited "" "" 0)),
        { h with toolRuns := h.toolRuns.tail }.logged [.toolSought toolName,
          .toolRun ([path, "-i", adapter, verb] ++ args) bound]) := by
  have hsame : (h.logged [.toolSought toolName]).toolPath = some path := hpath
  have htook : (h.logged [.toolSought toolName]).takes ([adapter, verb] ++ args) = true := htakes
  have hruns (a b : Event) : ((h.logged [a]).logged [b]).toolRuns = h.toolRuns := rfl
  have hlogged (a b : Event) : { h with toolRuns := h.toolRuns.tail }.logged [a, b] =
      { (h.logged [a]).logged [b] with toolRuns := h.toolRuns.tail } := by
    simp [Host.logged]
  unfold runTool
  rw [bind_ok (observe_apply ..), bind_ok (get_apply _), hsame]
  dsimp only
  rw [htook, Bool.not_true, if_neg Bool.false_ne_true, bind_ok (observe_apply ..),
    bind_ok (nextRun_apply _), hruns, hlogged]
  cases h.toolRuns.headD (.exited "" "" 0) with
  | exited output diagnostics status =>
    dsimp only [reported]
    split <;> rfl
  | _ => rfl

/-- A run of the inquiry tool whose verb and arguments can be given to it fails for a bad value on a
host that is muddled, and otherwise only as the service does. -/
theorem runTool_fails (hverb : (verb :: args).all isArgument = true) :
    (h.isMuddled adapter = true →
      ∃ f, f.isA .badValue = true ∧ (runTool adapter verb args bound h).1 = .error f) ∧
    (h.isMuddled adapter = false →
      ∀ f, (runTool adapter verb args bound h).1 = .error f → f.isA .service = true) := by
  have htakes : h.takes ([adapter, verb] ++ args) = h.takes [adapter] := by
    unfold Host.takes
    rw [List.cons_append, List.singleton_append, List.all_cons, hverb]
    simp
  unfold Host.isMuddled
  cases hpath : h.toolPath with
  | none =>
    rw [runTool_missing hpath]
    exact ⟨fun hm => (nomatch hm), fun _ f hf => by cases hf; rfl⟩
  | some path =>
    cases ht : h.takes [adapter] with
    | false =>
      rw [runTool_refused hpath (htakes.trans ht)]
      exact ⟨fun _ => ⟨_, rfl, rfl⟩, fun hm => (nomatch hm)⟩
    | true =>
      rw [runTool_found hpath (htakes.trans ht)]
      dsimp only
      cases h.toolRuns with
      | nil => exact ⟨fun hm => (nomatch hm), fun _ f hf => (nomatch hf)⟩
      | cons r rest =>
        cases r with
        | garbled complaint => exact ⟨fun _ => ⟨_, rfl, rfl⟩, fun hm => (nomatch hm)⟩
        | exited output diagnostics status =>
          refine ⟨fun hm => (nomatch hm), fun _ f hf => ?_⟩
          simp only [List.headD_cons, reported] at hf
          split at hf
          · cases hf; rfl
          · cases hf
        | _ => exact ⟨fun hm => (nomatch hm), fun _ f hf => by cases hf; rfl⟩

/-- A run of the inquiry tool is the only one, and no socket is opened for it. -/
theorem runTool_observed (adapter verb : String) (args : List String) (bound : Seconds) (h : Host) :
    Host.RunsOnce (runTool adapter verb args bound) adapter h ∧
      h.socketsOf (runTool adapter verb args bound) = [] := by
  unfold Host.RunsOnce Host.toolRunsOf Host.socketsOf
  cases hpath : h.toolPath with
  | none =>
    rw [Host.observed_of_logged (runTool_missing hpath) rfl]
    exact ⟨.inl rfl, rfl⟩
  | some path =>
    cases htakes : h.takes ([adapter, verb] ++ args) with
    | false =>
      rw [Host.observed_of_logged (runTool_refused hpath htakes) rfl]
      exact ⟨.inl rfl, rfl⟩
    | true =>
      rw [Host.observed_of_logged (runTool_found hpath htakes) rfl]
      exact ⟨.inr ⟨path, verb :: args, rfl, rfl⟩, rfl⟩

/-- A step that does no more to the host than a run of the inquiry tool runs it once at most, and
opens no socket. -/
theorem observed_of_runTool {α : Type} {p : HostAction α}
    (hp : (p h).2 = (runTool adapter verb args bound h).2) :
    Host.RunsOnce p adapter h ∧ Host.Closes h (h.socketsOf p) := by
  obtain ⟨hruns, hsockets⟩ := runTool_observed adapter verb args bound h
  unfold Host.RunsOnce Host.toolRunsOf Host.socketsOf at *
  rw [Host.observed_of_state hp, hsockets]
  exact ⟨hruns, .untouched⟩

/-- What is made of an answer does not touch the host. -/
theorem bind_pure_state {α β : Type} (p : HostAction α) (f : α → β) (h : Host) :
    ((p >>= fun a => pure (f a)) h).2 = (p h).2 := by
  rw [bind_pure_comp, map_apply]

/-! ## The operations -/

/-- A step that fails only as the service does accounts for its failures if nothing is refused. -/
theorem accounts_of_service {α : Type} {p : HostAction α} {refused : Prop} (hr : ¬ refused)
    (hp : ∀ f, (p h).1 = .error f → f.isA .service = true) : Host.Accounts p refused h :=
  Host.accounts_of (fun hr' => absurd hr' hr) fun _ => hp

/-- A step that fails for a bad value does not if nothing is refused. -/
theorem not_accounts_of_badValue {α : Type} {p : HostAction α} {refused : Prop} (hr : ¬ refused)
    (hp : ∃ f, f.isA .badValue = true ∧ (p h).1 = .error f) : ¬ Host.Accounts p refused h := by
  obtain ⟨f, hbad, hf⟩ := hp
  exact fun ha => hr (ha.badValue_iff.mp ⟨f, hf, hbad⟩)

/-- What is made of an answer does not touch its failures. -/
theorem bind_pure_error {α β : Type} (p : HostAction α) (f : α → β) {g : Failure} :
    ((p >>= fun a => pure (f a)) h).1 = .error g ↔ (p h).1 = .error g := by
  rw [bind_pure_comp, map_apply]
  cases (p h).1 <;> simp [Except.map]

/-- A step that makes something of a run of the inquiry tool accounts for its failures, if nothing
is refused, exactly on a host that is not muddled. -/
theorem accounts_iff_of_runTool {α : Type} {f : String → α} {refused : Prop} (hr : ¬ refused)
    (hverb : (verb :: args).all isArgument = true) :
    Host.Accounts (runTool adapter verb args bound >>= fun s => pure (f s)) refused h ↔
      h.isMuddled adapter = false := by
  obtain ⟨hmuddled, hclear⟩ := @runTool_fails adapter verb args bound h hverb
  constructor
  · refine fun ha => Bool.eq_false_iff.mpr fun hm => ?_
    obtain ⟨g, hbad, hg⟩ := hmuddled hm
    exact not_accounts_of_badValue hr ⟨g, hbad, (bind_pure_error _ f).mpr hg⟩ ha
  · exact fun hm => accounts_of_service hr fun g hg =>
      hclear hm g ((bind_pure_error _ f).mp hg)

theorem scan_accounts_iff (adapter : String) (h : Host) :
    Host.Accounts (scan adapter) False h ↔ h.isMuddled adapter = false :=
  accounts_iff_of_runTool id (by decide +kernel)

theorem scan_observed (adapter : String) (h : Host) :
    Host.RunsOnce (scan adapter) adapter h ∧ Host.Closes h (h.socketsOf (scan adapter)) :=
  observed_of_runTool (bind_pure_state (runTool adapter "scan" [] scanBound) ScanReport.parse h)

theorem detect_of_error {address : String} {f : Failure} (ha : Address.normalize address = .error f)
    (adapter : String) (h : Host) : detect adapter address h = (.error f, h) := by
  unfold detect
  rw [ha]
  rfl

theorem detect_of_ok {address written : String} (ha : Address.normalize address = .ok written)
    (adapter : String) (h : Host) :
    detect adapter address h = (runTool adapter "name" [written] nameBound >>= fun name =>
      pure (!(Text.trim name.toList).isEmpty)) h := by
  unfold detect
  rw [ha]
  rfl

theorem detect_accounts_iff (adapter address : String) (h : Host) :
    Host.Accounts (detect adapter address) (∃ f, Address.normalize address = .error f) h ↔
      (∃ f, Address.normalize address = .error f) ∨ h.isMuddled adapter = false := by
  cases ha : Address.normalize address with
  | error f =>
    refine iff_of_true (Host.accounts_of (fun _ => ⟨f, Address.isA_of_normalize ha, ?_⟩) ?_)
      (Or.inl ⟨f, rfl⟩)
    · exact detect_of_error ha adapter h
    · exact fun hr => absurd ⟨f, rfl⟩ hr
  | ok written =>
    have hr : ¬ ∃ f, (Except.ok written : Except Failure String) = .error f := by
      rintro ⟨f, hf⟩
      cases hf
    have hverb : ["name", written].all isArgument = true := by
      have hname : isArgument "name" = true := by decide +kernel
      simp [hname, isArgument_of_isCanonical (Address.isCanonical_of_normalize ha)]
    have hdetect : detect adapter address =
        runTool adapter "name" [written] nameBound >>= fun name =>
          pure (!(Text.trim name.toList).isEmpty) := funext fun h => detect_of_ok ha adapter h
    rw [hdetect, accounts_iff_of_runTool hr hverb]
    exact ⟨Or.inr, fun h => h.resolve_left hr⟩

theorem detect_observed (adapter address : String) (h : Host) :
    Host.RunsOnce (detect adapter address) adapter h ∧
      Host.Closes h (h.socketsOf (detect adapter address)) := by
  cases ha : Address.normalize address with
  | ok written =>
    have hstate : (detect adapter address h).2 =
        (runTool adapter "name" [written] nameBound h).2 := by
      rw [detect_of_ok ha]
      exact bind_pure_state ..
    exact observed_of_runTool hstate
  | error f =>
    unfold Host.RunsOnce Host.toolRunsOf Host.socketsOf
    rw [Host.observed_of_unchanged (detect_of_error ha adapter h)]
    exact ⟨.inl rfl, .untouched⟩

/-- A reading that is made fails only as the service does. -/
theorem info_service {n : Int} {f : Failure} (hs : h.isSupported = true)
    (hn : Adapters.number adapter = .ok n) (hf : (info adapter h).1 = .error f) :
    f.isA .service = true := by
  cases he : h.socketError with
  | some e =>
    rw [info_unopened hs hn he] at hf
    cases hf
    rfl
  | none =>
    rw [info_asked hs hn he] at hf
    cases hr : h.requestError with
    | some e =>
      rw [hr] at hf
      cases hf
      rfl
    | none =>
      rw [hr] at hf
      cases hf

theorem info_accounts (adapter : String) (h : Host) :
    Host.Accounts (info adapter)
      (h.isSupported = true ∧ ∃ f, Adapters.number adapter = .error f) h := by
  refine Host.accounts_of ?_ fun hnot f hf => ?_
  · rintro ⟨hs, f, hf⟩
    refine ⟨f, ?_, info_unnamed hs hf⟩
    rw [Adapters.eq_of_number_error hf]
    rfl
  · by_cases hs : h.isSupported = true
    · cases hn : Adapters.number adapter with
      | error g => exact absurd ⟨hs, g, hn⟩ hnot
      | ok n => exact info_service hs hn hf
    · rw [info_unsupported (by simpa using hs)] at hf
      cases hf
      rfl

theorem info_closes (adapter : String) (h : Host) : Host.Closes h (h.socketsOf (info adapter)) := by
  unfold Host.socketsOf
  -- only a request that is made, answered or not, has a socket to close
  by_cases hs : h.isSupported = true
  · cases hn : Adapters.number adapter with
    | error f =>
      rw [Host.observed_of_unchanged (info_unnamed hs hn)]
      exact .untouched
    | ok n =>
      cases he : h.socketError with
      | some e =>
        rw [Host.observed_of_logged (info_unopened hs hn he) rfl]
        exact .refused _ _ _ (by rw [he]; rfl)
      | none =>
        rw [Host.observed_of_logged (info_asked hs hn he) rfl]
        exact .closed _ _ _ he
  · rw [Host.observed_of_unchanged (info_unsupported (by simpa using hs) adapter)]
    exact .untouched

/-- For every adapter name, address and host.  A reading of device information fails for a bad value
exactly if the platform has it and the adapter's name has no number: then nothing is begun, and
otherwise it fails only as the service does.  On a host that is not muddled, and on no other, a scan
fails only as the service does; there, or if the address is refused, and nowhere else, a name
request fails for a bad value exactly if the address is refused, with nothing begun, and otherwise
only as the service does.  Both run the inquiry tool at most once and on the adapter, and whatever
fails, a socket is closed once if it was opened and not otherwise. -/
theorem classic_accounts_iff (adapter address : String) (h : Host) :
    (Host.Accounts (scan adapter) False h ↔ h.isMuddled adapter = false) ∧
    (Host.Accounts (detect adapter address) (∃ f, Address.normalize address = .error f) h ↔
      (∃ f, Address.normalize address = .error f) ∨ h.isMuddled adapter = false) ∧
    Host.Accounts (info adapter)
      (h.isSupported = true ∧ ∃ f, Adapters.number adapter = .error f) h ∧
    Host.RunsOnce (scan adapter) adapter h ∧
    Host.RunsOnce (detect adapter address) adapter h ∧
    Host.Closes h (h.socketsOf (scan adapter)) ∧
    Host.Closes h (h.socketsOf (detect adapter address)) ∧
    Host.Closes h (h.socketsOf (info adapter)) := by
  obtain ⟨hscan, hscanned⟩ := scan_observed adapter h
  obtain ⟨hdetect, hdetected⟩ := detect_observed adapter address h
  exact ⟨scan_accounts_iff adapter h, detect_accounts_iff adapter address h,
    info_accounts adapter h, hscan, hdetect, hscanned, hdetected, info_closes adapter h⟩

/-- A device tells its name in another encoding: a scan fails over the byte, which no caller is told
to expect. -/
theorem not_accounts_garbled :
    let h : Host := { toolRuns := [.garbled "invalid continuation byte"] }
    (∃ f, (scan "hci0" h).1 = .error f ∧ f.kind = .undecodable) ∧
      ¬ Host.Accounts (scan "hci0") False h := by
  intro h
  exact ⟨⟨_, rfl, rfl⟩, not_accounts_of_badValue id ⟨_, rfl, rfl⟩⟩

end Classic

end BluetoothControl
