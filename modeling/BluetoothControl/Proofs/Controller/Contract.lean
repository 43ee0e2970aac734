import BluetoothControl.Proofs.Client.Contract
import BluetoothControl.Proofs.Controller.Close
import BluetoothControl.Proofs.Controller.Order

/-!
# How a controller's operations end

On a valid path, with arguments that are in order, an operation of a controller on the bus fails in
a way that callers are told to expect, unless a reply is not legible.
-/

namespace BluetoothControl

open Procedure

/-! ## Failures that callers are told of -/

namespace Failure

/-- A failure that callers are told to expect: the service failed, which includes that the loop has
stopped, or an adapter did not reach a power state in time. -/
def isDocumented (f : Failure) : Bool := f.isA .service || f.isA .powerTimeout

theorem isDocumented_of_service {f : Failure} (h : f.isA .service = true) :
    f.isDocumented = true := by
  rw [isDocumented, h]
  rfl

theorem not_isDocumented_of_isMisreading {f : Failure} (h : f.isMisreading = true) :
    f.isDocumented = false := by
  rw [isDocumented, isA_of_isMisreading h (by decide), isA_of_isMisreading h (by decide)]
  rfl

end Failure

/-! ## Power and discovery -/

namespace Controller

variable {name : String} {config : Config} {owns : Bool} {own : Seconds} {α : Type}

/-- What an operation of a controller in order observes explains how it ends. -/
abbrev Accountable (name : String) (own : Seconds) (p : Action Client α) : Prop :=
  Truthful (Orderly name own) (·.isDocumented = true) (·.isMisreading = true) p

theorem accountable_of_client {p : Action Client α} (h : Client.Accountable own p) :
    Accountable name own p :=
  h.mono (fun _ hw => hw.bound) fun _ => Failure.isDocumented_of_service

/-- What is not let pass, for it is no failure of the service, is documented no less. -/
theorem accountable_ignoring {p : Action Client Unit} {k : Kind}
    (hk : k ∈ [Kind.service, .powerTimeout, .elapsed, .badValue, .loopStopped])
    (hp : Accountable name own p) (kp : Keeps (Orderly name own) p) :
    Accountable name own (ignoring (·.isA k) p) :=
  truthful_ignoring hp kp (fun _ he => ⟨he, Failure.isA_of_isMisreading he hk⟩) fun _ he _ => he

section
variable (ho : own.isWaitable = true) (hp : ObjectPath.isValid (ObjectPath.ofAdapter name) = true)

include ho hp

theorem accountable_isUp : Accountable name own (onBus name config owns).isUp :=
  truthful_map _ (accountable_of_client (Client.accountable_flag ho hp))

theorem accountable_getDiscovering :
    Accountable name own (Client.service.getDiscovering (ObjectPath.ofAdapter name)) :=
  accountable_of_client (Client.accountable_flag ho hp)

theorem accountable_startDiscovery :
    Accountable name own (onBus name config owns).startDiscovery := by
  refine truthful_bind (accountable_getDiscovering ho hp) (minds_orderly.getDiscovering _)
    fun b => ?_
  split
  · exact truthful_pure _
  · refine truthful_bind (accountable_of_client (Client.accountable_setDiscoveryFilter
      ho hp _)) (minds_orderly.setDiscoveryFilter _ _) fun _ => ?_
    exact accountable_ignoring (by decide)
      (accountable_of_client (Client.accountable_request ho hp rfl))
      (minds_orderly.startDiscovery _)

theorem accountable_stopDiscovery :
    Accountable name own (onBus name config owns).stopDiscovery := by
  refine truthful_bind (accountable_getDiscovering ho hp) (minds_orderly.getDiscovering _)
    fun b => ?_
  split
  · exact accountable_of_client (Client.accountable_request ho hp rfl)
  · exact truthful_pure _

omit ho hp in
theorem accountable_pause {duration : Seconds} (hd : duration.pauseRefusal? = none) :
    Accountable name own (World.pause duration) := by
  intro w hw
  rw [World.pause_apply, w.clock.pauseRefusal?_eq_none hd]
  exact truthful_observe rfl w hw

omit ho hp in
theorem accountable_await {bound : Seconds} (hb : bound.patience.refusal? = none) :
    Accountable name own (World.await bound) := by
  intro w hw
  rw [World.await_apply, w.clock.waitRefusal?_eq_none hb]
  exact truthful_observe rfl w hw

variable (hd : config.powerDelay.pauseRefusal? = none)

include hd in
theorem accountable_awaitPower (wanted : Bool) (n : Nat) :
    Accountable name own ((onBus name config owns).awaitPower wanted n) := by
  induction n with
  | zero => exact truthful_throw rfl
  | succ n ih =>
    refine truthful_bind (accountable_isUp ho hp) (minds_orderly.getPowered _) fun powered => ?_
    split
    · exact truthful_pure _
    · split
      · exact truthful_bind (accountable_pause hd) (steady_orderly.pause _) fun _ => ih
      · exact ih

variable (hc : config.powerAttempts.int?.isSome = true)

include hc hd

theorem accountable_switchPower (wanted : Bool) :
    Accountable name own ((onBus name config owns).switchPower wanted) := by
  have hattempts : ∀ f, (onBus name config owns).attempts = .error f → f.isDocumented = true := by
    intro f hf
    unfold attempts at hf
    cases hn : config.powerAttempts.int? with
    | none =>
      rw [hn] at hc
      cases hc
    | some n =>
      rw [show (onBus name config owns).config.powerAttempts.int? = some n from hn] at hf
      cases hf
  refine truthful_bind (accountable_isUp ho hp) (minds_orderly.getPowered _) fun powered => ?_
  split
  · exact truthful_pure _
  · refine truthful_bind (accountable_of_client (Client.accountable_setPowered ho hp
      wanted)) (minds_orderly.setPowered _ _) fun _ => ?_
    exact truthful_bind (truthful_ofExcept hattempts) (keeps_ofExcept _) fun n =>
      accountable_awaitPower ho hp hd wanted n

theorem accountable_up : Accountable name own (onBus name config owns).up :=
  truthful_bind (accountable_ignoring (by decide) (accountable_startDiscovery ho hp)
      (keeps_startDiscovery (c := onBus name config owns) minds_orderly))
    (keeps_ignoring (keeps_startDiscovery (c := onBus name config owns) minds_orderly)) fun _ =>
      accountable_switchPower ho hp hd hc true

theorem accountable_down : Accountable name own (onBus name config owns).down :=
  truthful_bind (truthful_of_log (fun _ => rfl) fun _ => legible_nil) steady_orderly.wakeAll
    fun _ => accountable_switchPower ho hp hd hc false

theorem accountable_reset : Accountable name own (onBus name config owns).reset :=
  truthful_bind (accountable_down ho hp hd hc)
    (keeps_down (c := onBus name config owns) (checked_of_minds minds_orderly steady_orderly)
      steady_orderly) fun _ =>
      accountable_up ho hp hd hc

end

/-! ## Devices, connections and the host -/

namespace Command

/-- The failures that an operation may end in: those that callers are told to expect, or that the
caller's own address is malformed. -/
def Allows (command : Command) (f : Failure) : Prop :=
  f.isDocumented = true ∨
    match command with
    | .connect address _ | .detect address => Address.normalize address = .error f
    | _ => False

/-- An operation that ends as soon as a part of it fails in a way that it does not expect: all but a
scan, which gives up its subscription whatever happened, and closing, which goes through all its
stages. -/
def isStrict : Command → Bool
  | .scan _ | .close => false
  | _ => true

/-- Whether the arguments of an operation, and what it takes from its controller, have the form that
they are to have, with a client whose own bound is `own`. -/
def isProper (c : Controller Client) (own : Seconds) : Command → Bool
  | .up | .down | .reset =>
    c.config.powerAttempts.int?.isSome && c.config.powerDelay.pauseRefusal?.isNone
  | .info => (Adapters.number c.name).toOption.isSome
  | .connect _ timeout => timeout.isTellable && (timeout.add own).isWaitable
  | _ => true

end Command

theorem truthful_onHost {doc mis : Failure → Prop} {p : HostAction α} (h : Plain doc p) :
    Truthful (Orderly name own) doc mis (World.onHost p) := by
  intro w hw
  have hq : Legible (p w.host).2.log := (silent_step h.quiet hw.host.1).legible
  refine ⟨(p w.host).2.log, rfl, ?_⟩
  show Explained doc mis (p w.host).2.log (p w.host).1
  cases hr : (p w.host).1 with
  | ok a => exact hq
  | error f => exact Or.inl ⟨h.fails w.host hw.host.2 f hr, hq⟩

/-- Something is done with a connection that was handed out, whose path is valid. -/
theorem truthful_withConnection {doc mis : Failure → Prop} {f : Connection → Action Client Answer}
    (hp : ObjectPath.isValid (ObjectPath.ofAdapter name) = true)
    (hf : ∀ k, ObjectPath.isValid k.path = true → Truthful (Orderly name own) doc mis (f k))
    (number : Nat) : Truthful (Orderly name own) doc mis (withConnection number f) := by
  intro w hw
  unfold withConnection
  rw [bind_ok (get_apply w)]
  cases hk : w.connections[number]? with
  | none => exact truthful_pure (P := Orderly name own) _ w hw
  | some k =>
    obtain ⟨address, ha, hpath⟩ := hw.connections k (List.mem_iff_getElem?.mpr ⟨number, hk⟩)
    exact hf k (by rw [hpath]; exact ObjectPath.isValid_ofDevice hp ha) w hw

section
variable (ho : own.isWaitable = true)

include ho

theorem accountable_getConnected {path : String} (hv : ObjectPath.isValid path = true) :
    Accountable name own (Client.service.getConnected path) :=
  truthful_map _ (accountable_of_client
    (Client.accountable_reading ho hv fun _ => truthful_pure _))

variable (hp : ObjectPath.isValid (ObjectPath.ofAdapter name) = true)

include hp

/-- Connecting fails in a way of its own only over the caller's address. -/
theorem truthful_connect {address : String} {timeout : Seconds} (ht : timeout.isTellable = true)
    (hs : (timeout.add own).isWaitable = true) :
    Truthful (Orderly name own) (Command.Allows (.connect address timeout)) (·.isMisreading = true)
      ((onBus name config owns).connect address timeout) := by
  intro w hw
  unfold connect
  cases hn : Address.normalize address with
  | error f =>
    rw [bind_error (ofExcept_apply _ _)]
    exact ⟨[], (List.append_nil _).symm, Or.inl ⟨Or.inr hn, legible_nil⟩⟩
  | ok a =>
    rw [bind_ok (ofExcept_apply _ _)]
    have hv := ObjectPath.isValid_ofDevice hp (Address.isCanonical_of_normalize hn)
    refine (?_ : Accountable name own _).mono (fun _ h => h) (fun _ => Or.inl) w hw
    have hrest : Accountable name own (do
        let connection : Connection :=
          { adapter := name, address := a, path := ObjectPath.ofDevice a name, timeout }
        modify fun w => { w with connections := w.connections ++ [connection] }
        return connection : Action Client Connection) :=
      truthful_of_log (fun _ => rfl) fun _ => legible_nil
    refine truthful_bind (accountable_getConnected ho hv) (minds_orderly.getConnected _) fun v => ?_
    dsimp only
    split
    · exact truthful_bind (accountable_of_client (Client.accountable_connect ho hv ht hs))
        (minds_orderly.connect _ _) fun _ => hrest
    · exact hrest

/-- Every strict operation with its arguments in order ends in a way that the replies explain. -/
theorem truthful_execute {command : Command}
    (hc : command.isProper (onBus name config owns) own = true)
    (hs : command.isStrict = true) :
    Truthful (Orderly name own) command.Allows (·.isMisreading = true)
      ((onBus name config owns).execute command) := by
  have weaken {β : Type} {p : Action Client β} (h : Accountable name own p) :
      Truthful (Orderly name own) command.Allows (·.isMisreading = true) p :=
    h.mono (fun _ hw => hw) fun _ => Or.inl
  have hdoc : ∀ f : Failure, f.isA .service = true → command.Allows f :=
    fun f hf => Or.inl (Failure.isDocumented_of_service hf)
  have hpower (h : command.isProper (onBus name config owns) own =
      (config.powerAttempts.int?.isSome && config.powerDelay.pauseRefusal?.isNone)) :
      config.powerAttempts.int?.isSome = true ∧ config.powerDelay.pauseRefusal? = none := by
    simpa using h.symm.trans hc
  have hadapter (h : isArgument name = false) : command.Allows .notArguments := by
    rw [isArgument_of_isValid hp] at h
    cases h
  cases command with
  | isUp => exact truthful_map _ (weaken (accountable_isUp ho hp))
  | up => exact truthful_map _ (weaken (accountable_up ho hp (hpower rfl).2 (hpower rfl).1))
  | down => exact truthful_map _ (weaken (accountable_down ho hp (hpower rfl).2 (hpower rfl).1))
  | reset => exact truthful_map _ (weaken (accountable_reset ho hp (hpower rfl).2 (hpower rfl).1))
  | stopDiscovery => exact truthful_map _ (weaken (accountable_stopDiscovery ho hp))
  | inquire => exact truthful_map _ (truthful_onHost (plain_scan hdoc hadapter))
  | detect address =>
    exact truthful_map _ (truthful_onHost (plain_detect hdoc (fun _ => Or.inr) hadapter))
  | info =>
    refine truthful_map _ (truthful_onHost (plain_info hdoc fun f hf => ?_))
    change (Adapters.number (onBus name config owns).name).toOption.isSome = true at hc
    rw [hf] at hc
    cases hc
  | scan timeout => cases hs
  | connect address timeout =>
    simp only [Command.isProper, Bool.and_eq_true] at hc
    exact truthful_map _ (truthful_connect ho hp hc.1 hc.2)
  | isConnected number =>
    exact truthful_withConnection hp (fun k hk => truthful_map _
      (weaken (accountable_getConnected ho hk))) number
  | disconnect number =>
    exact truthful_withConnection hp (fun k hk => truthful_map _
      (weaken (accountable_of_client (Client.accountable_request ho hk rfl)))) number
  | describe number =>
    exact truthful_withConnection hp (fun k hk => truthful_pure _) number
  | close => cases hs

end

/-! ## Scans -/

/-- The devices of every session have canonical addresses. -/
theorem isCanonical_of_session {w : World Client} (h : Orderly name own w) {k : Nat} :
    ∀ e ∈ (w.session k).devices, Address.isCanonical e.1.toList = true := by
  intro e he
  unfold World.session at he
  rw [List.getD_eq_getElem?_getD] at he
  cases hk : w.sessions[k]? with
  | none =>
    rw [hk] at he
    cases he
  | some s =>
    rw [hk] at he
    exact (h.sessions s (List.mem_iff_getElem?.mpr ⟨k, hk⟩) e he).1

section
variable (ho : own.isWaitable = true)

include ho

theorem accountable_giveUp {subscription : Value} (hk : subscription.isKey = true) :
    Accountable name own ((onBus name config owns).giveUp subscription) :=
  accountable_ignoring (by decide) (accountable_of_client
    (Client.accountable_unsubscribe ho hk))
    (minds_orderly.unsubscribe subscription)

variable (hp : ObjectPath.isValid (ObjectPath.ofAdapter name) = true)

include hp

theorem accountable_strength {address : String}
    (ha : Address.isCanonical address.toList = true) :
    Accountable name own ((onBus name config owns).strength address) := by
  have hr : Client.Accountable own (Client.getRssi (ObjectPath.ofDevice address name)) :=
    Client.accountable_reading ho (ObjectPath.isValid_ofDevice hp ha) fun _ => truthful_pure _
  refine truthful_tryCatch (hr.mono (fun _ hw => hw.bound) fun _ h => h) (minds_orderly.getRssi _)
    (fun f hf => ?_) fun f hf => ⟨hf, fun w => ?_⟩
  · rw [if_pos hf]
    exact truthful_pure _
  · rw [Failure.isA_of_isMisreading hf (by decide)]
    exact ⟨[], rfl, (List.append_nil _).symm⟩

theorem accountable_visible {r : Roster Value}
    (hr : ∀ e ∈ r, Address.isCanonical e.1.toList = true) :
    Accountable name own ((onBus name config owns).visible r) := by
  induction r with
  | nil => exact truthful_pure _
  | cons e rest ih =>
    refine truthful_bind (accountable_strength ho hp (hr e List.mem_cons_self))
      (keeps_strength (c := onBus name config owns) minds_orderly.reads e.1) fun _ => ?_
    exact truthful_bind (ih fun d hd => hr d (List.mem_cons_of_mem _ hd))
      (keeps_visible (c := onBus name config owns) minds_orderly.reads rest)
      fun _ => truthful_pure _

/-- What a scan does after its wait ends in a way that the replies explain. -/
theorem accountable_finishScan {s : Scan} (hk : s.subscription.isKey = true) :
    Accountable name own ((onBus name config owns).finishScan s) := by
  refine truthful_bind (accountable_giveUp ho hk)
    (keeps_giveUp (c := onBus name config owns) minds_orderly.unchecked s.subscription) fun _ => ?_
  intro w hw
  rw [bind_ok (get_apply w)]
  have hend : ∀ found, Accountable name own (do
      World.changeSession s.session fun t => { t with result := some found }
      return found : Action Client (Roster Value)) := fun _ =>
    truthful_of_log (fun _ => rfl) fun _ => legible_nil
  exact truthful_bind (accountable_visible ho hp (isCanonical_of_session hw))
    (keeps_visible (c := onBus name config owns) minds_orderly.reads _) hend w hw

end

/-- A known device with a valid path is noted, or left out, in a way that the replies explain. -/
theorem accountable_noteDevice (ho : own.isWaitable = true) {path : String}
    (hv : ObjectPath.isValid path = true) (k : Nat) :
    Truthful (OrderlyWith k name own) (·.isDocumented = true) (·.isMisreading = true)
      ((onBus name config owns).noteDevice k path) := by
  let excused : Failure → Prop := fun f => f.isA .service = true ∨ f.isA .badValue = true
  have weaken {β : Type} {p : Action Client β} (h : Client.Accountable own p) :
      Truthful (OrderlyWith k name own) excused (·.isMisreading = true) p :=
    h.mono (fun _ hw => hw.orderly.bound) fun _ => Or.inl
  have hread : Truthful (OrderlyWith k name own) excused (·.isMisreading = true) (do
      let reported ← Client.getAddress path
      let address ← Procedure.ofExcept (Address.normalize reported)
      let name ← Client.service.getName path
      World.changeSession k fun s => s.add address name : Action Client Unit) :=
    truthful_bind (weaken (Client.accountable_getAddress ho hv)) (minds_orderlyWith.getAddress path)
      fun reported => truthful_bind
        (truthful_ofExcept fun _ hf => Or.inr (Address.isA_of_normalize hf))
        (keeps_ofExcept _) fun address => truthful_bind
          (truthful_map _ (weaken (Client.accountable_reading ho hv fun _ => truthful_pure _)))
          (minds_orderlyWith.getName path) fun _ =>
            truthful_of_log (fun _ => rfl) fun _ => legible_nil
  refine truthful_ignoring hread ?_ (fun f hf => ⟨hf, ?_⟩) fun f hf ht => ?_
  · exact keeps_bind (minds_orderlyWith.getAddress path) fun _ => keeps_normalize fun address ha =>
      keeps_bind (minds_orderlyWith.getName path) fun n => orderlyWith_add ha k n
  · rw [Failure.isA_of_isMisreading hf (by decide), Failure.isA_of_isMisreading hf (by decide)]
    rfl
  · rcases hf with hf | hf
    · simp [hf] at ht
    · simp [hf] at ht

/-- The log of a client on the bus only grows. -/
theorem grows_of_keeps {k : Nat} {p : Action Client α}
    (h : ∀ l, Keeps (fun v => l <+: v.log) p) :
    Sheltered (OrderlyWith k name own) (fun _ => True) p :=
  sheltered_of_grows fun w _ => h w.log w (List.prefix_refl _)

theorem minds_grows (l : List Event) : Client.service.Minds fun v => l <+: v.log := by
  refine Client.minds_service fun w v hv h => ?_
  obtain ⟨c, es, rfl, -⟩ := hv
  exact h.trans (List.prefix_append ..)

/-- Well-formed replies list objects by object paths. -/
theorem isValid_of_listObjects {w v : World Client} {interface : String} {objects : List Value}
    {es : List Event} (h : Client.service.listObjects interface w = (.ok objects, v))
    (hl : v.log = w.log ++ es) (hes : WellFormed es) :
    ∀ o ∈ objects, ∃ path, o = .text path ∧ ObjectPath.isValid path = true := by
  obtain ⟨paths, hp, rfl⟩ := of_map_ok h
  obtain ⟨entries, rest, ⟨n, fs, hlog⟩, rfl⟩ := Client.of_listObjects_ok hp
  have hmem : Event.resolved n Client.objectsMessage
      (.answered (.returned (.dict entries :: rest))) ∈ es := by
    have happ : w.log ++ es = w.log ++ (fs ++ [_]) :=
      hl.symm.trans (hlog.trans (List.append_assoc ..))
    rw [List.append_cancel_left happ]
    exact List.mem_append_right _ (List.mem_singleton.mpr rfl)
  have hnames : entries.all (ObjectPath.isValid ·.1) = true := (hes _ hmem).2
  intro o hmap
  obtain ⟨path, hpath, rfl⟩ := List.mem_map.mp hmap
  refine ⟨path, rfl, ?_⟩
  unfold Client.objectsWith Client.sortedPaths at hpath
  obtain ⟨e, he, rfl⟩ := List.mem_map.mp (List.mem_mergeSort.mp hpath)
  exact List.all_eq_true.mp hnames e (List.mem_filter.mp he).1

/-- Known devices are noted, and fail in documented ways only, if replies are well formed. -/
theorem sheltered_noteKnown (ho : own.isWaitable = true) (k : Nat) :
    Sheltered (OrderlyWith k name own) (·.isDocumented = true)
      ((onBus name config owns).noteKnown k) := by
  have hlist : Sheltered (OrderlyWith k name own) (·.isDocumented = true)
      (Client.service.listObjects deviceInterface) :=
    (truthful_map _ ((Client.accountable_listObjects ho _).mono
      (fun _ hw => hw.orderly.bound) fun _ => Failure.isDocumented_of_service)).sheltered
  refine sheltered_bind hlist (minds_orderlyWith.listObjects _)
    (fun w v objects es h hl hes => isValid_of_listObjects h hl hes) fun objects => ?_
  by_cases hv : ∀ o ∈ objects, ∃ path, o = .text path ∧ ObjectPath.isValid path = true
  · refine (?_ : Truthful (OrderlyWith k name own) (·.isDocumented = true) (·.isMisreading = true)
      _).sheltered.mono fun f hf _ => hf
    refine truthful_forEach (fun o hmem => ?_) fun o => ?_
    · obtain ⟨path, rfl, hpath⟩ := hv o hmem
      show Truthful _ _ _ (Procedure.ofExcept
        (.ok (if ObjectPath.isChild path name then some path else none)) >>= _)
      split
      · exact accountable_noteDevice ho hpath k
      · exact truthful_pure _
    · refine keeps_bind (keeps_ofExcept _) fun own => ?_
      split
      · exact keeps_noteDevice (c := onBus name config owns) minds_orderlyWith.reads
          (fun _ n ha => orderlyWith_add ha k n) _
      · exact keeps_pure _
  · refine (grows_of_keeps fun l => ?_).mono fun _ _ hq => absurd hq hv
    refine keeps_forEach (fun o => keeps_bind (keeps_ofExcept _) fun own => ?_) objects
    split
    · exact keeps_noteDevice (c := onBus name config owns) (minds_grows l).reads
        (fun _ _ _ _ h => h) _
    · exact keeps_pure _

section
variable (ho : own.isWaitable = true) (hp : ObjectPath.isValid (ObjectPath.ofAdapter name) = true)

include ho hp

omit hp in
/-- Up to its subscription a scan fails in documented ways only, if replies are well formed. -/
theorem sheltered_enroll (timeout : Seconds) :
    Sheltered (Orderly name own) (·.isDocumented = true)
      ((onBus name config owns).enroll timeout) := by
  intro w hw
  have hnote : Sheltered (OrderlyWith w.sessions.length name own) (·.isDocumented = true)
      ((onBus name config owns).noteKnown w.sessions.length) := sheltered_noteKnown ho _
  have hsub : Accountable name own (Client.service.subscribe (.session w.sessions.length name)) :=
    truthful_map _ (accountable_of_client (Client.accountable_subscribe ho _))
  have henlist : Sheltered (OrderlyWith w.sessions.length name own) (·.isDocumented = true)
      ((onBus name config owns).enlist w.sessions.length timeout) :=
    (truthful_bind (hsub.mono (fun _ hv => hv.orderly) fun _ hd => hd) orderlyWith_serve
      fun _ => truthful_pure _).sheltered
  exact sheltered_bind (Q := fun _ => True) hnote orderlyWith_noteKnown
    (fun _ _ _ _ _ _ _ => trivial) (fun _ => henlist.mono fun _ hf _ => hf) _
    (orderly_openSession timeout hw)

/-- Before it waits a scan that has subscribed fails in documented ways only, if replies are
legible: what giving up the subscription fails with stands in for the failure that it is given up
for. -/
theorem sheltered_embark {s : Scan} (hk : s.subscription.isKey = true)
    (ht : s.timeout.patience.refusal? = none) :
    Sheltered (Orderly name own) (·.isDocumented = true) ((onBus name config owns).embark s) := by
  have hstart :=
    keeps_startDiscovery (c := onBus name config owns) minds_orderly (P := Orderly name own)
  have hbody : Accountable name own ((onBus name config owns).startDiscovery >>= fun _ =>
      World.await s.timeout) :=
    truthful_bind (accountable_startDiscovery ho hp) hstart fun _ => accountable_await ht
  refine sheltered_tryCatch hbody.sheltered
    (keeps_bind hstart fun _ => steady_orderly.await _) fun f => ?_
  refine sheltered_bind (Q := fun _ => True)
    ((accountable_giveUp ho hk).sheltered.mono fun _ h _ => h)
    (keeps_giveUp (c := onBus name config owns) minds_orderly.unchecked _)
    (fun _ _ _ _ _ _ _ => trivial) fun _ => ?_
  exact sheltered_throw fun _ hf => hf

end

/-! ## The contract -/

/-- From this world a procedure fails in these ways only, exactly if the replies that come are
legible. -/
def FailsLegibly (doc : Failure → Prop) (p : Action Client α) (w : World Client) : Prop :=
  ∃ es, (p w).2.log = w.log ++ es ∧ ((∀ f, (p w).1 = .error f → doc f) ↔ Legible es)

theorem failsLegibly_of_truthful {P : World Client → Prop} {doc : Failure → Prop}
    {p : Action Client α} (h : Truthful P doc (·.isMisreading = true) p)
    (hdoc : ∀ f : Failure, f.isMisreading = true → ¬ doc f) {w : World Client} (hw : P w) :
    FailsLegibly doc p w := by
  obtain ⟨es, hl, hr⟩ := h w hw
  refine ⟨es, hl, ?_⟩
  cases hpw : (p w).1 with
  | ok a =>
    rw [hpw] at hr
    exact ⟨fun _ => hr, fun _ f hf => by cases hf⟩
  | error e =>
    rw [hpw] at hr
    rcases hr with ⟨hd, hes⟩ | ⟨hm, hes⟩
    · exact ⟨fun _ => hes, fun _ f hf => by cases hf; exact hd⟩
    · exact ⟨fun hall => absurd (hall e rfl) (hdoc e hm), fun hl => absurd hl hes⟩

theorem not_isA_service_of_isMisreading {f : Failure} (h : f.isMisreading = true) :
    ¬ f.isA .service = true := by
  rw [Failure.isA_of_isMisreading h (by decide)]
  exact Bool.false_ne_true

theorem Command.not_allows_of_isMisreading {command : Command} {f : Failure}
    (h : f.isMisreading = true) : ¬ command.Allows f := by
  have haddress : ∀ address, Address.normalize address ≠ .error f := fun address ha =>
    absurd (Address.isA_of_normalize ha) (by
      rw [Failure.isA_of_isMisreading h (by decide)]
      exact Bool.false_ne_true)
  rintro (hd | ha)
  · rw [Failure.not_isDocumented_of_isMisreading h] at hd
    cases hd
  · cases command with
    | connect address timeout => exact haddress address ha
    | detect address => exact haddress address ha
    | _ => exact ha

/-- The failures of a client and a controller on the bus, in every state that they can reach, on a
valid path and with arguments in order.  A client's operation fails as the service, and a strict
operation of the controller fails as documented or over the caller's own address, exactly if the
replies that come are legible.  So does a scan after its wait; up to its subscription, and from
there to its wait, it does if they are legible and list objects by object paths; and closing never
fails. -/
theorem contract_iff_legible (name : String) (config : Config) (owns : Bool) (link : Link)
    (own : Seconds) (ms : List Move) (ho : own.isWaitable = true)
    (hp : ObjectPath.isValid (ObjectPath.ofAdapter name) = true) :
    let c := onBus name config owns
    let w := (c.run ms (.first name link own)).world
    (∀ command : Client.Command, command.isProper own = true →
      FailsLegibly (·.isA .service = true) (Client.execute command) w) ∧
    (∀ command : Command, command.isProper c own = true → command.isStrict = true →
      FailsLegibly command.Allows (c.execute command) w) ∧
    (∀ s : Scan, s.subscription.isKey = true →
      FailsLegibly (·.isDocumented = true) (c.finishScan s) w) ∧
    (∀ timeout, ∃ es, (c.enroll timeout w).2.log = w.log ++ es ∧
      (WellFormed es → ∀ f, (c.enroll timeout w).1 = .error f → f.isDocumented = true)) ∧
    (∀ s : Scan, s.subscription.isKey = true → s.timeout.patience.refusal? = none →
      ∃ es, (c.embark s w).2.log = w.log ++ es ∧
        (WellFormed es → ∀ f, (c.embark s w).1 = .error f → f.isDocumented = true)) ∧
    (c.close w).1 = .ok () := by
  intro c w
  have hw : Orderly name own w := orderly_run link ms
  refine ⟨fun command hc => ?_, fun command hc hs => ?_, fun s hs => ?_,
    fun timeout => sheltered_enroll ho timeout w hw,
    fun s hk ht => sheltered_embark ho hp hk ht w hw, ?_⟩
  · exact failsLegibly_of_truthful (Client.accountable_execute ho hc)
      (fun _ => not_isA_service_of_isMisreading) hw.bound
  · exact failsLegibly_of_truthful (truthful_execute ho hp hc hs)
      (fun _ => Command.not_allows_of_isMisreading) hw
  · refine failsLegibly_of_truthful (accountable_finishScan ho hp hs) (fun f hf => ?_) hw
    rw [Failure.not_isDocumented_of_isMisreading hf]
    exact Bool.false_ne_true
  · cases hclosed : w.closed with
    | true => exact congrArg Prod.fst (close_closed hclosed)
    | false => exact congrArg Prod.fst (close_apply Client.civil_service hclosed)

/-- On a fresh controller, with a reply that has no body, reading the power state does not keep to
the contract: exactly if that reply were legible it would. -/
theorem contract_iff_legible_emptyBody :
    (Seconds.whole 10).isWaitable = true ∧
      ObjectPath.isValid (ObjectPath.ofAdapter "hci0") = true ∧
      FailsLegibly (Command.Allows .isUp) ((onBus "hci0" {} true).execute .isUp)
        (Life.first "hci0" { replies := [{ delivery := .answered (.returned []) }] }
          (.whole 10)).world :=
  ⟨by decide +kernel, by decide +kernel, (contract_iff_legible "hci0" {} true
    { replies := [{ delivery := .answered (.returned []) }] } (.whole 10) [] (by decide +kernel)
    (by decide +kernel)).2.1 .isUp rfl rfl⟩

/-- A reply without a body: the power state of an adapter with a valid path cannot be read, and what
its caller meets is neither documented nor about an argument. -/
theorem not_documented_emptyBody :
    let w := (Life.first "hci0" { replies := [{ delivery := .answered (.returned []) }] }
      (.whole 10)).world
    ¬ (∀ path, ObjectPath.isValid path = true → ∀ f, (Client.getPowered path w).1 = .error f →
      f.isDocumented = true ∨ f.isA .badValue = true) ∧
    ¬ (∀ f, ((onBus "hci0" {} true).isUp w).1 = .error f →
      f.isDocumented = true ∨ f.isA .badValue = true) :=
  ⟨fun h => absurd (h "/org/bluez/hci0" (by decide +kernel) .emptyBody rfl) (by decide),
    fun h => absurd (h .emptyBody rfl) (by decide)⟩

end Controller

end BluetoothControl
