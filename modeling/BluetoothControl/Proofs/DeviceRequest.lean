import BluetoothControl.Host.Classic
import BluetoothControl.Proofs.Procedure

/-!
# Whose device information is read

A request for device information has room for sixteen bits of an adapter's number, and the rest of
the number is dropped.  So an adapter's device is the one asked about exactly if its number fits
(`asksForItself_iff`), and adapters whose numbers agree in those bits share a device.
-/

namespace BluetoothControl

open Procedure

/-- The platform has adapter sockets and device requests. -/
def Host.isSupported (h : Host) : Bool := h.isLinux && h.hasRequests

/-- An adapter socket can be opened. -/
def Host.opensSocket (h : Host) : Bool := h.isSupported && h.socketError.isNone

/-- A host that has observed more. -/
def Host.logged (h : Host) (es : List Event) : Host := { h with log := h.log ++ es }

@[simp] theorem Host.drop_logged (h : Host) (es : List Event) :
    (h.logged es).log.drop h.log.length = es := List.drop_left

/-- The device that a request for device information names. -/
def Event.deviceAsked? : Event → Option Nat
  | infoRequested _ _ device => some device
  | _ => none

namespace Classic

variable {adapter : String} {h : Host}

/-- The devices that a reading of device information asks the kernel about. -/
def devicesAsked (adapter : String) (h : Host) : List Nat :=
  ((info adapter h).2.log.drop h.log.length).filterMap Event.deviceAsked?

/-- Reading device information asks about no device but the one with the adapter's number, and a
number that a request has no room for is refused before anything is asked. -/
def AsksForItself (adapter : String) (h : Host) : Prop :=
  (∀ d ∈ devicesAsked adapter h, Adapters.number adapter = .ok (d : Int)) ∧
  ∀ n, Adapters.number adapter = .ok n → ¬ (0 ≤ n ∧ n < 65536) →
    devicesAsked adapter h = [] ∧ ∃ f, (info adapter h).1 = .error f

/-! ## The ways of a reading -/

/-- How the operating system's refusal is reported. -/
def unreadable (adapter : String) (e : Int × String) : Failure :=
  .infoUnreadable adapter (Failure.system e.1 e.2).message

/-- The check of the platform, as it is made. -/
theorem lacks_of_isSupported (h : Host) :
    (!h.isLinux || !h.hasRequests) = !h.isSupported := by
  rw [Host.isSupported, Bool.not_and]

theorem info_unsupported (hs : h.isSupported = false) (adapter : String) :
    info adapter h = (.error .infoUnsupported, h) := by
  have hlacks : (!h.isLinux || !h.hasRequests) = true := by simp [lacks_of_isSupported, hs]
  unfold info
  rw [bind_ok (get_apply h)]
  dsimp only
  rw [if_pos hlacks]
  rfl

section
variable (hs : h.isSupported = true)
include hs

theorem not_lacks : ¬ (!h.isLinux || !h.hasRequests) = true := by simp [lacks_of_isSupported, hs]

theorem info_unnamed {f : Failure} (hn : Adapters.number adapter = .error f) :
    info adapter h = (.error f, h) := by
  unfold info
  rw [bind_ok (get_apply h)]
  dsimp only
  rw [if_neg (not_lacks hs), hn]
  rfl

theorem info_unopened {n : Int} (hn : Adapters.number adapter = .ok n) {e : Int × String}
    (he : h.socketError = some e) :
    info adapter h = (.error (unreadable adapter e),
      h.logged [.socketOpened socketFamily socketKind socketProtocol]) := by
  unfold info
  rw [bind_ok (get_apply h)]
  dsimp only
  rw [if_neg (not_lacks hs), hn, he]
  rfl

theorem info_asked {n : Int} (hn : Adapters.number adapter = .ok n) (he : h.socketError = none) :
    info adapter h =
      (match h.requestError with
        | some e => .error (unreadable adapter e)
        | none => .ok (DeviceInfo.ofBytes adapter h.record),
      h.logged [.socketOpened socketFamily socketKind socketProtocol,
        .infoRequested socketNumber infoRequest (deviceNumber n), .socketClosed]) := by
  have hlogged (a b c : Event) : h.logged [a, b, c] = ((h.logged [a]).logged [b]).logged [c] := by
    simp [Host.logged]
  unfold info
  rw [bind_ok (get_apply h), hlogged]
  dsimp only
  rw [if_neg (not_lacks hs), hn, he]
  cases h.requestError <;> rfl

end

/-! ## The device asked about -/

/-- The low bits of a number as a request holds them. -/
theorem deviceNumber_eq (n : Int) : (deviceNumber n : Int) = n % 65536 := by
  unfold deviceNumber
  omega

/-- Just one device is asked about, if the adapter's name has a number and a socket can be opened.
-/
theorem devicesAsked_of_opensSocket (ho : h.opensSocket = true) {n : Int}
    (hn : Adapters.number adapter = .ok n) : devicesAsked adapter h = [deviceNumber n] := by
  obtain ⟨hs, he⟩ := Bool.and_eq_true_iff.mp ho
  unfold devicesAsked
  rw [info_asked hs hn (Option.isNone_iff_eq_none.mp he), Host.drop_logged]
  rfl

theorem devicesAsked_of_not_opensSocket (ho : h.opensSocket = false) (adapter : String) :
    devicesAsked adapter h = [] ∧ ∃ f, (info adapter h).1 = .error f := by
  unfold devicesAsked
  by_cases hs : h.isSupported = true
  · cases he : h.socketError with
    | none => simp [Host.opensSocket, hs, he] at ho
    | some e =>
      cases hn : Adapters.number adapter with
      | error f => simp [info_unnamed hs hn]
      | ok n =>
        rw [info_unopened hs hn he, Host.drop_logged]
        exact ⟨rfl, _, rfl⟩
  · simp [info_unsupported (by simpa using hs) adapter]

theorem devicesAsked_of_error {f : Failure} (hn : Adapters.number adapter = .error f) :
    devicesAsked adapter h = [] := by
  unfold devicesAsked
  by_cases hs : h.isSupported = true
  · simp [info_unnamed hs hn]
  · simp [info_unsupported (by simpa using hs) adapter]

theorem mem_devicesAsked (adapter : String) (h : Host) (d : Nat) :
    d ∈ devicesAsked adapter h ↔
      h.opensSocket = true ∧ ∃ n, Adapters.number adapter = .ok n ∧ (d : Int) = n % 65536 := by
  by_cases ho : h.opensSocket = true
  · cases hn : Adapters.number adapter with
    | error f => simp [devicesAsked_of_error hn]
    | ok n =>
      rw [devicesAsked_of_opensSocket ho hn, List.mem_singleton]
      have hd := deviceNumber_eq n
      constructor
      · rintro rfl
        exact ⟨ho, n, rfl, hd⟩
      · rintro ⟨-, m, hm, hdm⟩
        cases hm
        omega
  · have hempty := (devicesAsked_of_not_opensSocket (by simpa using ho) adapter).1
    simp [hempty, ho]

/-- For every adapter name and host: a device is asked about exactly if a socket can be opened and
the name has a number with the device's as its low sixteen bits.  So the reading asks for the
adapter's own exactly if the number fits where one is asked, and two adapters share a device exactly
if their numbers have the same low bits. -/
theorem asksForItself_iff (adapter : String) (h : Host) :
    (∀ d, d ∈ devicesAsked adapter h ↔
      h.opensSocket = true ∧ ∃ n, Adapters.number adapter = .ok n ∧ (d : Int) = n % 65536) ∧
    (AsksForItself adapter h ↔
      (h.opensSocket = true → ∀ n, Adapters.number adapter = .ok n → 0 ≤ n ∧ n < 65536)) ∧
    (∀ (other : String) (g : Host) (m n : Int), h.opensSocket = true → g.opensSocket = true →
      Adapters.number adapter = .ok m → Adapters.number other = .ok n →
      (devicesAsked adapter h = devicesAsked other g ↔ m % 65536 = n % 65536)) := by
  refine ⟨mem_devicesAsked adapter h, ⟨?_, ?_⟩, ?_⟩
  · rintro ⟨-, hrefuses⟩ ho n hn
    by_cases hroom : 0 ≤ n ∧ n < 65536
    · exact hroom
    · have hempty := (hrefuses n hn hroom).1
      rw [devicesAsked_of_opensSocket ho hn] at hempty
      cases hempty
  · intro hroom
    constructor
    · intro d hd
      obtain ⟨ho, n, hn, hdn⟩ := (mem_devicesAsked adapter h d).mp hd
      have hfits := hroom ho n hn
      have hdevice : n = (d : Int) := by omega
      rw [hn, hdevice]
    · intro n hn hnot
      apply devicesAsked_of_not_opensSocket
      rw [Bool.eq_false_iff]
      intro ho
      exact hnot (hroom ho n hn)
  · intro other g m n hh hg hm hn
    rw [devicesAsked_of_opensSocket hh hm, devicesAsked_of_opensSocket hg hn, List.singleton_inj]
    have hdm := deviceNumber_eq m
    have hdn := deviceNumber_eq n
    constructor
    · intro heq
      omega
    · intro heq
      omega

/-- The largest number that fits, written with an underscore and blanks. -/
theorem asksForItself_iff_largest : AsksForItself "hci 65_535 " {} := by
  have hnumber : Adapters.number "hci 65_535 " = .ok 65535 :=
    eq_ok_of_toOption (by decide +kernel)
  refine (asksForItself_iff "hci 65_535 " {}).2.1.mpr ?_
  intro _ n hn
  rw [hnumber] at hn
  cases hn
  omega

/-- Beyond it, the first adapter's device is asked about in place of the adapter's own. -/
theorem not_asksForItself_of_large :
    ¬ AsksForItself "hci65536" {} ∧
      devicesAsked "hci65536" {} = devicesAsked "hci0" {} ∧
      (info "hci65536" {}).1 = .ok (DeviceInfo.ofBytes "hci65536" []) := by
  have hlarge : Adapters.number "hci65536" = .ok 65536 := eq_ok_of_toOption (by decide +kernel)
  have hfirst : Adapters.number "hci0" = .ok 0 := eq_ok_of_toOption (by decide +kernel)
  have hasked : devicesAsked "hci65536" {} = [0] := devicesAsked_of_opensSocket rfl hlarge
  refine ⟨?_, ?_, ?_⟩
  · rintro ⟨-, hrefuses⟩
    have hempty := (hrefuses 65536 hlarge (by omega)).1
    rw [hasked] at hempty
    cases hempty
  · rw [hasked, devicesAsked_of_opensSocket rfl hfirst]
    rfl
  · rw [info_asked rfl hlarge rfl]

end Classic

end BluetoothControl
