import BluetoothControl.Proofs.Client.Asking
import BluetoothControl.Proofs.Controller.Keeps
import BluetoothControl.Proofs.Spelling

/-!
# Connecting a device

A controller that is to connect a device reads the device once, asks for the connection once at
most, and hands out a connection only if the device is connected or the request for it was accepted
(`connect_spec`).
-/

namespace BluetoothControl

open Procedure

/-- The reply to a read of all properties of a device says whether it is connected. -/
def Delivery.tellsConnected (b : Bool) : Delivery → Bool
  | answered (.returned (.dict entries :: _)) =>
    (((Props.unwrap entries).get? "Connected").map Value.truth).getD false == b
  | _ => false

/-- The world with connections handed out. -/
def World.handing (w : World Client) (ks : List Connection) : World Client :=
  { w with connections := w.connections ++ ks }

@[simp] theorem World.handing_nil (w : World Client) : w.handing [] = w := by
  unfold World.handing
  rw [List.append_nil]

namespace Client

variable {α : Type} {m : Message} {w : World Client}

/-! ## Calls that are carried out -/

/-- A call from outside is carried out: the loop runs and is free, and in the time that there is the
client has a connection. -/
def IsReached (w : World Client) : Prop :=
  (∃ thread, w.loop.current = some thread ∧ thread.occupied = false) ∧
  ∃ n v, paced w.service.callTimeout obtainBus
    (w.after w.service [.called (some w.service.callTimeout)]) = (.ok n, v)

/-- What only reads off an answer leaves the world as it was. -/
theorem bind_state {ε β : Type} {p : Procedure ε (World Client) α}
    {f : α → Procedure ε (World Client) β} (hf : ∀ a v, (f a v).2 = v) (w : World Client) :
    ((p >>= f) w).2 = (p w).2 := by
  rw [bind_apply]
  rcases p w with ⟨r, v⟩
  cases r with
  | ok a => exact hf a v
  | error e => rfl

/-- A call on a valid path is sent once there is a connection. -/
theorem callMethod_sends {path interface member signature : String} {args : List Value}
    (hp : ObjectPath.isValid path = true) {n : Nat} {v : World Client}
    (hbus : obtainBus w = (.ok n, v)) :
    let m : Message := ⟨serviceName, path, interface, member, signature, args⟩
    ∃ d, (callMethod path interface member signature args w).2.log =
      v.log ++ [.sent n m, .resolved n m d] := by
  intro m
  refine ⟨(v.service.link.nextReply n).1, ?_⟩
  have hcall : callMethod path interface member signature args w =
      exchange n m (interface ++ "." ++ member ++ " on " ++ path) v := by
    unfold callMethod Message.call
    rw [hp]
    exact bind_ok hbus
  rw [hcall, exchange_apply]
  rfl

theorem getAll_state (path interface : String) (w : World Client) :
    (getAll path interface w).2 =
      (callMethod path propertiesInterface "GetAll" "s" [.text interface] w).2 := by
  refine bind_state (fun body u => ?_) w
  cases body with
  | nil => rfl
  | cons x rest => cases x <;> rfl

/-- A read of a device is sent if there is a connection. -/
theorem getAll_sends {path : String} (hp : ObjectPath.isValid path = true) {n : Nat}
    {v : World Client} (hbus : obtainBus w = (.ok n, v)) :
    ∃ es, (getAll path deviceInterface w).2.log = w.log ++ es ∧
      .sent n (propertiesMessage path) ∈ es := by
  obtain ⟨c, es, hv, -⟩ := within_obtainBus (A := fun _ => True) w (within_refl w)
  rw [hbus] at hv
  obtain ⟨d, hcall⟩ : ∃ d, (callMethod path propertiesInterface "GetAll" "s"
      [.text deviceInterface] w).2.log =
      v.log ++ [.sent n (propertiesMessage path), .resolved n (propertiesMessage path) d] :=
    callMethod_sends hp hbus
  -- In order: what getting the connection brings about, the message and its reply.
  refine ⟨es ++ [.sent n (propertiesMessage path), .resolved n (propertiesMessage path) d], ?_,
    by simp⟩
  rw [getAll_state, hcall, show v = _ from hv, World.after_log, List.append_assoc]

theorem paced_getAll_sends {path : String} (hp : ObjectPath.isValid path = true) {bound : Seconds}
    {n : Nat} {v : World Client} (hbus : paced bound obtainBus w = (.ok n, v)) :
    ∃ es, (paced bound (getAll path deviceInterface) w).2.log = w.log ++ es ∧
      .sent n (propertiesMessage path) ∈ es := by
  unfold paced at hbus ⊢
  cases hb : bound.patience with
  | looks =>
    rw [hb] at hbus
    dsimp only at hbus ⊢
    rw [hastily_apply] at hbus ⊢
    have hready : (obtainBus (w.after (w.service.withLink (w.service.link.pace true)) [])).1 =
        .ok n := congrArg Prod.fst hbus
    obtain ⟨es, hlog, hes⟩ := getAll_sends hp (Prod.ext hready rfl)
    refine ⟨es, ?_, hes⟩
    rw [World.after_log, List.append_nil, hlog, World.after_log, List.append_nil]
  | waits =>
    rw [hb] at hbus
    exact getAll_sends hp hbus
  | refuses f =>
    rw [hb] at hbus
    exact getAll_sends hp hbus

/-- A read of a device whose call is carried out is sent. -/
theorem deviceProperties_sends {path : String} (hp : ObjectPath.isValid path = true)
    (h : IsReached w) :
    ∃ n es, (deviceProperties path w).2.log = w.log ++ es ∧
      .sent n (propertiesMessage path) ∈ es := by
  obtain ⟨⟨thread, hthread, hfree⟩, n, v, hbus⟩ := h
  obtain ⟨es, hlog, hes⟩ := paced_getAll_sends hp hbus
  refine ⟨n, .called (some w.service.callTimeout) :: es, ?_, List.mem_cons_of_mem _ hes⟩
  change (runTask w.service.callTimeout (getAll path deviceInterface) w).2.log = _
  rw [runTask_eq, hthread]
  dsimp only
  rw [hfree, if_neg Bool.false_ne_true, hlog, World.after_log, List.append_assoc]
  rfl

/-- The first thing observed of a read of a device is that it is handed to the loop. -/
theorem deviceProperties_called (path : String) (w : World Client) :
    ∃ c es, (deviceProperties path w).2 =
      w.after c (.called (some w.service.callTimeout) :: es) := by
  have htask (u : World Client) : Within (fun _ => False) u
      (paced w.service.callTimeout (getAll path deviceInterface) u).2 :=
    keeps_paced within_pace (keeps_getAll upholds_within.call) w.service.callTimeout u
      (within_refl u)
  change ∃ c es, (runTask w.service.callTimeout (getAll path deviceInterface) w).2 = _
  rw [runTask_eq]
  cases w.loop.current with
  | none => exact ⟨w.service, [], rfl⟩
  | some thread =>
    dsimp only
    split
    · exact ⟨w.service, [], rfl⟩
    · obtain ⟨c, es, hv, -⟩ := htask (w.after w.service [.called (some w.service.callTimeout)])
      exact ⟨c, es, hv.trans (World.after_after ..)⟩

/-- The messages that are sent go to the object that is asked. -/
theorem Asks.path {ε : Type} {Q : α → Delivery → Prop} {p : Procedure ε (World Client) α}
    (h : Asks m Q p) (w : World Client) :
    ∃ c es, (p w).2 = w.after c es ∧ ∀ k ∈ requests es, k.path = m.path := by
  obtain ⟨c, es, hv, ⟨-, hes⟩ | ⟨d, hs, -, -⟩⟩ := h w
  · refine ⟨c, es, hv, fun k hk => ?_⟩
    rw [hes.requests] at hk
    cases hk
  · refine ⟨c, es, hv, fun k hk => ?_⟩
    rw [hs] at hk
    rw [List.mem_singleton.mp hk]

theorem asks_tellsConnected (path : String) :
    Asks (propertiesMessage path) (fun b d => d.tellsConnected b = true) (getConnected path) := by
  refine asks_bind (asks_deviceProperties path) (fun _ _ => rfl) ?_
  rintro props d w b ⟨entries, rest, rfl, rfl⟩ hb
  cases hb
  exact beq_self_eq_true _

end Client

/-! ## One read, one request at most -/

namespace Controller

/-- What can come of connecting the device at a path in a world: what is observed, and the
result. -/
inductive Connects (path : String) (w : World Client) (es : List Event) :
    Except Failure Connection → Prop
  /-- The call that reads the device is not carried out. -/
  | unreached (f : Failure) (hreached : ¬ Client.IsReached w) (hrequests : requests es = []) :
      Connects path w es (.error f)
  /-- The device is read; that fails, or the request to connect does before it is sent. -/
  | unasked (f : Failure) (d : Delivery) (hrequests : requests es = [Client.propertiesMessage path])
      (hdialogue : dialogue es = [⟨Client.propertiesMessage path, d⟩]) :
      Connects path w es (.error f)
  /-- The device is connected already. -/
  | already (k : Connection) (d : Delivery) (htold : d.tellsConnected true = true)
      (hrequests : requests es = [Client.propertiesMessage path])
      (hdialogue : dialogue es = [⟨Client.propertiesMessage path, d⟩]) :
      Connects path w es (.ok k)
  /-- The device is not connected and is asked to connect; it counts as connected if the request is
  accepted. -/
  | asked (r : Except Failure Connection) (d e : Delivery) (htold : d.tellsConnected false = true)
      (hrequests : requests es = [Client.propertiesMessage path, .toDevice path "Connect"])
      (hdialogue : dialogue es =
        [⟨Client.propertiesMessage path, d⟩, ⟨.toDevice path "Connect", e⟩])
      (haccepted : ∀ k, r = .ok k → e.isAccepted = true) : Connects path w es r

variable {name : String} {config : Config} {owns : Bool} {w : World Client}

/-- The connection that is handed out for a device. -/
def connectionTo (name a : String) (timeout : Seconds) : Connection :=
  { adapter := name, address := a, path := ObjectPath.ofDevice a name, timeout }

/-- What connecting a device does once its address is accepted. -/
theorem connect_eq {address a : String} (h : Address.normalize address = .ok a) (timeout : Seconds)
    (w : World Client) :
    (onBus name config owns).connect address timeout w =
      match Client.service.getConnected (ObjectPath.ofDevice a name) w with
      | (.error f, v) => (.error f, v)
      | (.ok b, v) =>
        if b.truth then (.ok (connectionTo name a timeout), v.handing [connectionTo name a timeout])
        else
          match Client.connect (ObjectPath.ofDevice a name) timeout v with
          | (.error f, u) => (.error f, u)
          | (.ok _, u) =>
            (.ok (connectionTo name a timeout), u.handing [connectionTo name a timeout]) := by
  unfold connect
  rw [h, bind_ok (ofExcept_apply (Except.ok a) w)]
  rcases hg : Client.service.getConnected (ObjectPath.ofDevice a name) w with ⟨r, v⟩
  cases r with
  | error f => exact bind_error hg
  | ok b =>
    refine (bind_ok hg).trans ?_
    dsimp only
    cases b.truth with
    | true => rfl
    | false =>
      rcases hc : Client.connect (ObjectPath.ofDevice a name) timeout v with ⟨x, u⟩
      cases x with
      | error f => exact bind_error hc
      | ok _ => exact bind_ok hc

theorem getConnected_state (path : String) (w : World Client) :
    (Client.service.getConnected path w).2 = (Client.deviceProperties path w).2 := by
  refine (congrArg Prod.snd (map_apply ..)).trans ?_
  exact Client.bind_state (fun _ _ => rfl) w

/-- The read before connecting is handed to the loop, sent if it is carried out, and says whether
the device is connected if it is answered. -/
theorem getConnected_spec {path : String} (hp : ObjectPath.isValid path = true)
    (w : World Client) :
    ∃ b client es, Client.service.getConnected path w = (b, w.after client es) ∧
      es.head? = some (.called (some w.service.callTimeout)) ∧
      ((∃ f, b = .error f) ∧ ¬ Client.IsReached w ∧ requests es = [] ∨
        ∃ d, requests es = [Client.propertiesMessage path] ∧
          dialogue es = [⟨Client.propertiesMessage path, d⟩] ∧
          ∀ v, b = .ok v → d.tellsConnected v.truth = true) := by
  have hread : Client.Asks (Client.propertiesMessage path)
      (fun v d => d.tellsConnected v.truth = true) (Client.service.getConnected path) :=
    Client.asks_map _ (Client.asks_tellsConnected path) fun _ _ hq => hq
  obtain ⟨client, es, hv, hr⟩ := hread w
  have hcalled : es.head? = some (.called (some w.service.callTimeout)) := by
    obtain ⟨c, fs, hfs⟩ := Client.deviceProperties_called path w
    have hlog := congrArg World.log (hv.symm.trans ((getConnected_state path w).trans hfs))
    rw [World.after_log, World.after_log] at hlog
    rw [List.append_cancel_left hlog]
    rfl
  refine ⟨_, client, es, Prod.ext rfl hv, hcalled, ?_⟩
  rcases hr with ⟨hf, hes⟩ | hsent
  · refine Or.inl ⟨hf, fun hreached => ?_, hes.requests⟩
    obtain ⟨n, fs, hlog, hmem⟩ := Client.deviceProperties_sends hp hreached
    rw [← getConnected_state, hv, World.after_log] at hlog
    rw [← List.append_cancel_left hlog] at hmem
    exact absurd (hes _ hmem) (by simp [Event.isAddressed, Client.propertiesMessage])
  · exact Or.inr hsent

/-- The request to connect after a read that denies the connection. -/
theorem Connects.request {path : String} {es fs : List Event} {d : Delivery}
    (htold : d.tellsConnected false = true) (hs : requests es = [Client.propertiesMessage path])
    (hd : dialogue es = [⟨Client.propertiesMessage path, d⟩]) {x : Except Failure Unit}
    (hx : (∃ f, x = .error f) ∧ Unaddressed fs ∨
      ∃ e, requests fs = [.toDevice path "Connect"] ∧
        dialogue fs = [⟨.toDevice path "Connect", e⟩] ∧ ∀ a, x = .ok a → e.isAccepted = true)
    (k : Connection) : Connects path w (es ++ fs) (x.map fun _ => k) := by
  rcases hx with ⟨⟨f, rfl⟩, hfs⟩ | ⟨e, hsent, hresolved, haccepted⟩
  · refine .unasked f d ?_ ?_
    · rw [requests_append, hfs.requests, hs, List.append_nil]
    · rw [dialogue_append, hfs.dialogue, hd, List.append_nil]
  · refine .asked _ d e htold ?_ ?_ fun k' hk => ?_
    · rw [requests_append, hs, hsent]
      rfl
    · rw [dialogue_append, hd, hresolved]
      rfl
    · cases x with
      | ok a => exact haccepted a rfl
      | error f => cases hk

/-- Connecting a device reads it once, asks for the connection once at most and only if the device
is not connected, and hands out a connection just if it answers, with that connection. -/
theorem connect_spec (hname : ObjectPath.isValid (ObjectPath.ofAdapter name) = true)
    (config : Config) (owns : Bool) {address a : String} (h : Address.normalize address = .ok a)
    (timeout : Seconds) (w : World Client) :
    ∃ r client es, (onBus name config owns).connect address timeout w =
        (r, (w.after client es).handing r.toOption.toList) ∧
      es.head? = some (.called (some w.service.callTimeout)) ∧
      Connects (ObjectPath.ofDevice a name) w es r ∧
      ∀ k, r = .ok k → k = connectionTo name a timeout := by
  have hp := ObjectPath.isValid_ofDevice hname (Address.isCanonical_of_normalize h)
  rw [connect_eq h]
  generalize connectionTo name a timeout = k
  generalize ObjectPath.ofDevice a name = path at hp ⊢
  obtain ⟨b, client, es, hg, hcalled, hread⟩ := getConnected_spec hp w
  rw [hg]
  cases b with
  | error f =>
    refine ⟨.error f, client, es, by simp [Except.toOption], hcalled, ?_, fun _ hk => by cases hk⟩
    rcases hread with ⟨-, hreached, hs⟩ | ⟨d, hs, hd, -⟩
    · exact .unreached f hreached hs
    · exact .unasked f d hs hd
  | ok b =>
    obtain ⟨d, hs, hd, htold⟩ := hread.resolve_left fun ⟨⟨f, hf⟩, _⟩ => by cases hf
    have htold := htold b rfl
    dsimp only
    cases hb : b.truth with
    | true =>
      rw [hb] at htold
      exact ⟨.ok k, client, es, rfl, hcalled, .already k d htold hs hd,
        fun _ h => (Except.ok.inj h).symm⟩
    | false =>
      rw [hb] at htold
      obtain ⟨client', fs, hu, hx⟩ := Client.asks_connect path timeout (w.after client es)
      rcases hc : Client.connect path timeout (w.after client es) with ⟨x, u⟩
      rw [hc] at hu hx
      obtain rfl : u = w.after client' (es ++ fs) := hu.trans (World.after_after ..)
      refine ⟨x.map fun _ => k, client', es ++ fs, ?_, ?_, .request htold hs hd hx k,
        fun k' hk => ?_⟩
      · cases x with
        | error f => simp [Except.toOption, Except.map]
        | ok _ => rfl
      · rw [List.head?_append, hcalled, Option.some_or]
      · cases x with
        | error f => cases hk
        | ok _ => exact (Except.ok.inj hk).symm

/-! ## End to end -/

/-- What becomes of the address of a device that a controller on a valid path is to connect, in
every world.

A malformed address is refused as a bad value, and nothing else happens.  Otherwise a read of the
device is handed to the loop and sent once, unless it is not carried out; the device is asked to
connect once at most, and only if the read denies the connection; a connection is handed out just if
all goes well, and what is done with it later goes to the path of the device only.  Spellings alike
come to the same, and addresses apart have paths apart. -/
theorem connects_end_to_end (hname : ObjectPath.isValid (ObjectPath.ofAdapter name) = true)
    (config : Config) (owns : Bool) (address : String) (timeout : Seconds) (w : World Client) :
    let c := onBus name config owns
    (∀ f, Address.normalize address = .error f →
      f.kind = .badValue ∧ c.connect address timeout w = (.error f, w)) ∧
    ∀ a, Address.normalize address = .ok a →
      let path := ObjectPath.ofDevice a name
      (∃ r client es,
        c.connect address timeout w = (r, (w.after client es).handing r.toOption.toList) ∧
        es.head? = some (.called (some w.service.callTimeout)) ∧
        Connects path w es r ∧
        ∀ k, r = .ok k → k = { adapter := name, address := a, path, timeout } ∧
          ∀ later : World Client,
            (∃ d fs, (k.isConnected c.service later).2 = later.after d fs ∧
              ∀ m ∈ requests fs, m.path = path) ∧
            ∃ d fs, (k.disconnect c.service later).2 = later.after d fs ∧
              ∀ m ∈ requests fs, m.path = path) ∧
      (∀ other, Address.Alike other address →
        c.connect other timeout w = c.connect address timeout w) ∧
      ∀ other b, Address.normalize other = .ok b → ObjectPath.ofDevice b name = path → b = a := by
  intro c
  refine ⟨fun f h => ⟨?_, ?_⟩, fun a h => ⟨?_, fun other halike => ?_, fun other b hb hpath => ?_⟩⟩
  · rw [Address.normalize_eq] at h
    split at h
    · cases h
    · cases h
      rfl
  · show connect _ address timeout w = _
    unfold connect
    rw [h]
    exact bind_error (ofExcept_apply (Except.error f) w)
  · obtain ⟨r, client, es, hconnect, hcalled, hspec, hk⟩ :=
      connect_spec hname config owns h timeout w
    refine ⟨r, client, es, hconnect, hcalled, hspec, fun k hr => ⟨hk k hr, fun later => ?_⟩⟩
    cases hk k hr
    have hread : Client.Asks (Client.propertiesMessage (ObjectPath.ofDevice a name))
        (fun _ _ => True) (Client.service.getConnected (ObjectPath.ofDevice a name)) :=
      Client.asks_map _ (Client.asks_tellsConnected _) fun _ _ _ => trivial
    have hdisconnect : Client.Asks (.toDevice (ObjectPath.ofDevice a name) "Disconnect")
        (fun _ d => d.isAccepted = true) (Client.service.disconnect (ObjectPath.ofDevice a name)) :=
      Client.asks_request
    exact ⟨hread.path later, hdisconnect.path later⟩
  · have hother : Address.normalize other = .ok a :=
      eq_ok_of_toOption ((Address.normalize_of_alike halike).trans (congrArg Except.toOption h))
    rw [connect_eq hother, connect_eq h]
  · exact (ObjectPath.ofDevice_inj (Address.isCanonical_of_normalize hb)
      (Address.isCanonical_of_normalize h) hpath).1

/-- A device that is not connected yet, under a spelling with blanks and small letters. -/
theorem connects_end_to_end_unconnected :
    let c := onBus "hci0" {} true
    let path := "/org/bluez/hci0/dev_AA_BB_CC_DD_EE_0F"
    let link : Link := { replies := [{ delivery := .answered (.returned [.dict []]) },
      { delivery := .answered (.returned []) }] }
    let w := (Life.first "hci0" link (.whole 10)).world
    ∃ k client es, c.connect " aa:bb:cc:dd:ee:0f\n" (.whole 5) w =
        (.ok k, (w.after client es).handing [k]) ∧
      Connects path w es (.ok k) ∧ k.path = path ∧
      c.connect "AA:bb:CC:dd:EE:0f" (.whole 5) w =
        c.connect " aa:bb:cc:dd:ee:0f\n" (.whole 5) w := by
  intro c path link w
  have hcanon : Address.normalize " aa:bb:cc:dd:ee:0f\n" = .ok "AA:BB:CC:DD:EE:0F" :=
    eq_ok_of_toOption (by decide +kernel)
  have hpath : ObjectPath.ofDevice "AA:BB:CC:DD:EE:0F" "hci0" = path := by decide +kernel
  have hname : ObjectPath.isValid (ObjectPath.ofAdapter "hci0") = true := by decide
  obtain ⟨⟨r, client, es, hconnect, -, hspec, hk⟩, halike, -⟩ :=
    (connects_end_to_end hname {} true " aa:bb:cc:dd:ee:0f\n" (.whole 5) w).2 _ hcanon
  have hok : (c.connect " aa:bb:cc:dd:ee:0f\n" (.whole 5) w).1.toOption.isSome = true := by
    decide +kernel
  rw [hconnect] at hok
  obtain ⟨k, hr⟩ := Option.isSome_iff_exists.mp hok
  obtain rfl : r = .ok k := eq_ok_of_toOption hr
  rw [hpath] at hspec hk
  refine ⟨k, client, es, hconnect, hspec, ?_, halike _ (by decide +kernel)⟩
  rw [(hk k rfl).1]

end Controller

end BluetoothControl
