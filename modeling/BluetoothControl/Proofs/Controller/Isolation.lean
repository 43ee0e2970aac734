import BluetoothControl.Proofs.Client.Listing
import BluetoothControl.Proofs.Controller.Blind
import BluetoothControl.Proofs.Controller.Discovery

/-!
# Adapters do not interfere

What the service says of objects that an adapter does not own reaches a scan of the adapter in two
places: the listing of known devices and the notifications that arrive once it has subscribed.  At
both it is turned away before anything is looked up, so two scans that are told the same of the
adapter's own objects send the same messages and end in the same way (`scan_isolated`).
-/

namespace BluetoothControl

open Procedure

/-- Whether a notification announces an object that an adapter owns. -/
def Signal.concerns (adapter : String) (s : Signal) : Bool :=
  match Client.announcement? s with
  | some (.text path, .dict _) => ObjectPath.isChild path adapter
  | _ => false

/-- Whether a move is anything else than a notification of an object that the adapter does not
own. -/
def Controller.Move.concerns (adapter : String) : Move → Bool
  | .signal s => s.concerns adapter
  | _ => true

namespace Controller

variable {name : String} {config : Config} {owns : Bool} {own : Seconds} {w v : World Client}

/-! ## Listed objects -/

/-- Of the objects that are listed, those of other adapters are passed over. -/
theorem forEach_noteObject (k : Nat) (paths : List String) :
    forEach ((onBus name config owns).noteObject k) (paths.map .text) =
      forEach ((onBus name config owns).noteDevice k)
        (paths.filter (ObjectPath.isChild · name)) := by
  induction paths with
  | nil => rfl
  | cons p rest ih =>
    rw [List.map_cons, forEach, noteObject_text, ih]
    cases hc : ObjectPath.isChild p name with
    | false =>
      rw [List.filter_cons_of_neg (by simp [hc]), if_neg Bool.false_ne_true]
      exact pure_bind (m := Action Client) () _
    | true =>
      rw [List.filter_cons_of_pos (by simp [hc]), if_pos rfl]
      rfl

/-- In both worlds an operation comes to the same after the same messages, and if it answers it
leaves twins behind. -/
structure Concurs {α : Type} (x x' : Except Failure α × World Client) : Prop where
  result : x'.1 = x.1
  messages : messages x'.2.log = messages x.2.log
  twin : ∀ a, x.1 = .ok a → Twin x.2 x'.2

theorem concurs_of_parallel {α : Type} {p : Action Client α} (hp : Blind p) (h : Twin w v) :
    Concurs (p w) (p v) :=
  ⟨(hp w v h).1.symm, (hp w v h).2.messages, fun _ _ => (hp w v h).2⟩

theorem Concurs.bind {α β : Type} {p q : Action Client α} {f g : α → Action Client β}
    (h : Concurs (p w) (q v))
    (hf : ∀ a u u', p w = (.ok a, u) → q v = (.ok a, u') → Twin u u' → Concurs (f a u) (g a u')) :
    Concurs ((p >>= f) w) ((q >>= g) v) := by
  rcases hx : p w with ⟨r, u⟩
  rcases hx' : q v with ⟨r', u'⟩
  rw [hx, hx'] at h
  obtain ⟨rfl : r' = r, hm, ht⟩ := h
  cases r' with
  | error f =>
    rw [bind_error hx, bind_error hx']
    exact ⟨rfl, hm, fun _ ha => by cases ha⟩
  | ok a =>
    rw [bind_ok hx, bind_ok hx']
    exact hf a u u' hx hx' (ht a rfl)

/-- The known devices are noted alike, whatever else is listed. -/
theorem concurs_noteKnown (k : Nat) {rs rs' : List ScriptedReply}
    (h : Client.Alike name w.service.ahead rs rs') :
    Concurs ((onBus name config owns).noteKnown k (w.expecting rs))
      ((onBus name config owns).noteKnown k (w.expecting rs')) := by
  rcases hx : Client.listObjects deviceInterface (w.expecting rs) with ⟨r, u⟩
  rcases hx' : Client.listObjects deviceInterface (w.expecting rs') with ⟨r', u'⟩
  have hlist := Client.listObjects_alike deviceInterface h
  rw [hx, hx'] at hlist
  rcases hlist with ⟨f, rfl, rfl, hm⟩ | ⟨paths, paths', rfl, rfl, hown, ht⟩
  · have hend {rs : List ScriptedReply} {u : World Client}
        (hu : Client.listObjects deviceInterface (w.expecting rs) = (.error f, u)) :
        (onBus name config owns).noteKnown k (w.expecting rs) = (.error f, u) := by
      have hobjects := map_apply (List.map Value.text) (Client.listObjects deviceInterface)
        (w.expecting rs)
      rw [hu] at hobjects
      exact bind_error hobjects
    rw [hend hx, hend hx']
    exact ⟨rfl, hm, fun _ ha => by cases ha⟩
  · rw [noteKnown_of_listed hx, noteKnown_of_listed hx', forEach_noteObject, forEach_noteObject,
      hown]
    exact concurs_of_parallel (parallel_forEach (blind_noteDevice k) _) ht

/-- A scan subscribes alike, whatever else is listed. -/
theorem concurs_enroll (timeout : Seconds) {rs rs' : List ScriptedReply}
    (h : Client.Alike name w.service.ahead rs rs') :
    Concurs ((onBus name config owns).enroll timeout (w.expecting rs))
      ((onBus name config owns).enroll timeout (w.expecting rs')) := by
  rw [enroll_eq]
  exact (concurs_noteKnown (w := { w with sessions := w.sessions ++ [{ timeout }] })
    w.sessions.length h).bind fun _ _ _ _ _ ht => concurs_of_parallel (blind_enlist _ timeout) ht

/-! ## Notifications -/

/-- A session that is put in its own place makes no change. -/
theorem changeSession_self (w : World Client) (k : Nat) :
    (World.changeSession k (fun _ => w.session k) w).2 = w := by
  have hs : w.sessions.modify k (fun _ => w.session k) = w.sessions := by
    refine List.ext_getElem? fun i => ?_
    rw [List.getElem?_modify]
    by_cases hi : k = i
    · subst hi
      cases hk : w.sessions[k]? with
      | none => rfl
      | some s => simp [session_eq hk]
    · simp [hi]
  show { w with sessions := w.sessions.modify k _ } = w
  rw [hs]

theorem hear_foreign {path : String} {props : Value} (hp : ObjectPath.isChild path name = false)
    (s : DiscoverySession) : s.hear name (.text path) props = .ok s := by
  have hown : DiscoverySession.ownPath? name (.text path) = .ok none := by
    show Except.ok (if ObjectPath.isChild path name then some path else none) = _
    rw [hp]
    rfl
  rw [DiscoverySession.hear_eq, hown]
  rfl

/-- An announcement of an object that the adapter does not own changes no session of the adapter. -/
theorem announceTo_foreign {path : Value} (k : Nat) (props : Value) (w : World Client)
    (hp : ∀ p, path = .text p → ObjectPath.isChild p name = false) :
    (World.announceTo k name path props w).2 = w := by
  unfold World.announceTo
  rw [bind_ok (get_apply w)]
  cases path with
  | text p =>
    rw [hear_foreign (hp p rfl)]
    exact changeSession_self w k
  | _ => rfl

/-- Nobody who is told of an object that the adapter does not own sends a message. -/
theorem twin_deliver_foreign {path : Value} {props : Props} {s : Subscriber}
    (hp : ∀ p, path = .text p → ObjectPath.isChild p name = false)
    (hs : ∀ k a, s = .session k a → a = name) : Keeps (Twin w) (Client.deliver path props s) := by
  refine keeps_ignoring ?_
  have hobserve (e : Event) (he : messages [e] = []) :
      Keeps (Twin w) (World.observe e : Action Client Unit) := by
    rintro v ⟨l, rfl, hl⟩
    refine ⟨l ++ [e], rfl, ?_⟩
    rw [messages_append, he, List.append_nil, hl]
  cases s with
  | session k a =>
    obtain rfl : a = name := hs k a rfl
    intro v hv
    show Twin w (World.announceTo k a path (.dict props) v).2
    rw [announceTo_foreign k _ v hp]
    exact hv
  | callback label reaction =>
    refine keeps_bind (hobserve _ rfl) fun _ => ?_
    cases reaction with
    | none => exact keeps_pure _
    | fails => exact keeps_throw _
    | reenters =>
      exact keeps_bind (Client.keeps_current) fun _ => keeps_bind (hobserve _ rfl) fun _ =>
        keeps_bind (hobserve _ rfl) fun _ => keeps_throw _

theorem required_eq (h : w.loop.log = []) : required w = w := by
  have hl : ({ w.loop with log := [] } : EventLoop) = w.loop := by rw [← h]
  unfold required
  rw [h, List.append_nil, hl]

/-- A notification of an object that the adapter does not own makes no difference but to the log,
and no message is sent. -/
theorem twin_signal_foreign (h : Orderly name own w) {s : Signal} (hs : s.concerns name = false) :
    Twin w (Client.signal s w).2 := by
  have hrequired : Twin w (required w) := by
    rw [required_eq h.loop.2]
    exact twin_refl w
  have hhandle : Keeps (Twin w) (Client.handle s) := by
    rw [Client.handle_eq]
    split
    · exact keeps_pure _
    · next path props ha =>
      rintro v ⟨l, rfl, hl⟩
      rw [bind_ok (Client.current_apply _)]
      refine keeps_forEach_mem (fun e he => twin_deliver_foreign (fun p hp => ?_)
        fun k a hk => (h.subscribers e he k a hk).2) _ ⟨l, rfl, hl⟩
      unfold Signal.concerns at hs
      rw [ha, hp] at hs
      exact hs
    · exact keeps_throw _
  have hv := required_apply w
  unfold Client.signal
  cases hr : w.loop.isRunning with
  | false =>
    rw [hr] at hv
    rw [bind_error hv]
    exact hrequired
  | true =>
    rw [hr] at hv
    rw [bind_ok hv, bind_ok (Client.current_apply _)]
    exact keeps_forEach (fun _ => hhandle) _ _ hrequired

/-! ## Runs -/

/-- A run is the same but for its log without the notifications of objects that the adapter does not
own, and sends the same messages. -/
theorem twin_run_concerns {l : Life} (h : Orderly name own l.world) (ms : List Move) :
    ((onBus name config owns).run ms l).Twin
      ((onBus name config owns).run (ms.filter (·.concerns name)) l) := by
  induction ms generalizing l with
  | nil => exact ⟨twin_refl _, rfl, rfl⟩
  | cons m rest ih =>
    have hrest : ((onBus name config owns).run rest ((onBus name config owns).act l m)).Twin _ :=
      ih (orderly_act h)
    rw [run_cons]
    cases hm : m.concerns name with
    | true =>
      rw [List.filter_cons_of_pos hm]
      exact hrest
    | false =>
      rw [List.filter_cons_of_neg (by simp [hm])]
      refine hrest.trans (twin_run ?_ _)
      cases m with
      | signal s => exact ⟨(twin_signal_foreign h hm).symm, rfl, rfl⟩
      | _ => cases hm

/-- Runs from twin lives in which the same happens to the adapter leave twins behind. -/
theorem twin_run_alike {l k : Life} (hl : Orderly name own l.world) (hk : Orderly name own k.world)
    (h : l.Twin k) {ms ms' : List Move}
    (hm : ms.filter (·.concerns name) = ms'.filter (·.concerns name)) :
    ((onBus name config owns).run ms l).Twin ((onBus name config owns).run ms' k) := by
  have hms : ((onBus name config owns).run ms l).Twin _ := twin_run_concerns hl ms
  have hms' : ((onBus name config owns).run ms' k).Twin _ := twin_run_concerns hk ms'
  rw [← hm] at hms'
  exact (hms.trans (twin_run h _)).trans hms'.symm

/-! ## Scans -/

section
variable {l k : Life} {timeout : Seconds} {es es' : List Move}

/-- A scan that has subscribed goes on from where others leave the world. -/
theorem beginScan_during (c : Controller Client) (timeout : Seconds) (es : List Move) (l : Life) :
    c.beginScan timeout (c.during es l) = c.enroll timeout >>= fun s v =>
      (c.embark s >>= fun _ => pure s) (c.run es { l with world := v }).world := rfl

/-- Scans that subscribe alike, with the same happening to the adapter, begin alike. -/
theorem concurs_beginScan (hl : Orderly name own l.world) (hk : Orderly name own k.world)
    (h : Concurs ((onBus name config owns).enroll timeout l.world)
      ((onBus name config owns).enroll timeout k.world))
    (henrolled : l.enrolled = k.enrolled) (hwaiting : l.waiting = k.waiting)
    (he : es.filter (·.concerns name) = es'.filter (·.concerns name)) :
    Concurs
      ((onBus name config owns).beginScan timeout ((onBus name config owns).during es l) l.world)
      ((onBus name config owns).beginScan timeout ((onBus name config owns).during es' k)
        k.world) := by
  rw [beginScan_during, beginScan_during]
  refine h.bind fun s u u' hu hu' ht => ?_
  have hou : Orderly name own ((onBus name config owns).enroll timeout l.world).2 :=
    orderly_enroll timeout _ hl
  have hou' : Orderly name own ((onBus name config owns).enroll timeout k.world).2 :=
    orderly_enroll timeout _ hk
  rw [hu] at hou
  rw [hu'] at hou'
  have hrun : ((onBus name config owns).run es { l with world := u }).Twin
      ((onBus name config owns).run es' { k with world := u' }) :=
    twin_run_alike (l := { l with world := u }) (k := { k with world := u' }) hou hou'
      ⟨ht, henrolled, hwaiting⟩ he
  have hend : Blind ((onBus name config owns).embark s >>= fun _ => pure s) :=
    parallel_bind (blind_embark s) fun _ => parallel_pure s
  exact concurs_of_parallel hend hrun.world

/-- Scans that begin alike and come to wait leave twin lives behind. -/
theorem twin_begun (hl : Orderly name own l.world) (hk : Orderly name own k.world)
    (h : Concurs ((onBus name config owns).enroll timeout l.world)
      ((onBus name config owns).enroll timeout k.world))
    (henrolled : l.enrolled = k.enrolled) (hwaiting : l.waiting = k.waiting)
    (he : es.filter (·.concerns name) = es'.filter (·.concerns name)) {s : Scan}
    (hs : ((onBus name config owns).beginScan timeout ((onBus name config owns).during es l)
      l.world).1 = .ok s) :
    ((onBus name config owns).begun timeout es l).Twin
      ((onBus name config owns).begun timeout es' k) := by
  have hrun :
      ((onBus name config owns).run es (l.after ((onBus name config owns).enroll timeout))).Twin
      ((onBus name config owns).run es' (k.after ((onBus name config owns).enroll timeout))) := by
    obtain ⟨u, hu, _⟩ := of_beginScan_ok (Prod.ext hs rfl)
    exact twin_run_alike (l := l.after _) (k := k.after _) (orderly_enroll timeout _ hl)
      (orderly_enroll timeout _ hk) ⟨h.twin s (congrArg Prod.fst hu), henrolled, hwaiting⟩ he
  exact ⟨(concurs_beginScan hl hk h henrolled hwaiting he).twin s hs, hrun.enrolled, hrun.waiting⟩

end

/-- Adapters do not interfere.  After any history of a controller, take two scans: the replies that
they find differ at most in the listing of objects, and there in well-formed objects that the
adapter does not own; once they have subscribed and while they wait the same happens, but for
notifications of objects that the adapter does not own.  Then the scans send the same messages, in
the same order, and come to the same. -/
theorem scan_isolated (name : String) (config : Config) (owns : Bool) (link : Link)
    (callTimeout : Seconds) (history : List Move) (timeout : Seconds)
    {rs rs' : List ScriptedReply} {es es' ms ms' : List Move} :
    let c := onBus name config owns
    let l := c.run history (.first name link callTimeout)
    let k := { l with world := l.world.expecting rs }
    let k' := { l with world := l.world.expecting rs' }
    Client.Alike name l.world.service.ahead rs rs' →
    es.filter (·.concerns name) = es'.filter (·.concerns name) →
    ms.filter (·.concerns name) = ms'.filter (·.concerns name) →
    let x := c.scan timeout (c.during es k) (c.during ms (c.begun timeout es k)) k.world
    let x' := c.scan timeout (c.during es' k') (c.during ms' (c.begun timeout es' k')) k'.world
    x'.1 = x.1 ∧ messages x'.2.log = messages x.2.log := by
  intro c l k k' hr he hm x x'
  have ho : Orderly name callTimeout l.world := orderly_run link history
  have hk : Orderly name callTimeout k.world := { ho with }
  have hk' : Orderly name callTimeout k'.world := { ho with }
  have hbegin : Concurs (c.beginScan timeout (c.during es k) k.world)
      (c.beginScan timeout (c.during es' k') k'.world) :=
    concurs_beginScan hk hk' (concurs_enroll timeout hr) rfl rfl he
  have h : Concurs x x' := by
    refine Concurs.bind (p := c.beginScan timeout (c.during es k))
      (q := c.beginScan timeout (c.during es' k')) hbegin fun s u u' hu hu' _ => ?_
    have hs := congrArg Prod.fst hu
    obtain rfl : (c.begun timeout es k).world = u := congrArg Prod.snd hu
    obtain rfl : (c.begun timeout es' k').world = u' := congrArg Prod.snd hu'
    have hwait : (c.run ms (c.begun timeout es k)).Twin (c.run ms' (c.begun timeout es' k')) :=
      twin_run_alike (orderly_begun hk) (orderly_begun hk')
        (twin_begun hk hk' (concurs_enroll timeout hr) rfl rfl he hs) hm
    exact concurs_of_parallel (blind_finishScan s) hwait.world
  exact ⟨h.result, h.messages⟩

/-- Replies to a scan: these objects are listed, discovery is running already, and the one device
that is found has a signal. -/
def overheard (objects : Props) : List ScriptedReply :=
  [[.dict objects], [], [.variant "b" (.bool true)], [], [.dict [("RSSI", .int (-50))]]].map
    fun body => { delivery := .answered (.returned body) }

/-- A notification of a device. -/
def announcing (path address : String) : Signal where
  body := [.text path, .dict [(deviceInterface, .dict [("Address", .variant "s" (.text address))])]]

/-- A device of `hci10` is listed and another one announced, and a scan of `hci1` finds its own
device all the same. -/
theorem scan_isolated_neighbour :
    let c := onBus "hci1" {} true
    let l := c.run [] (.first "hci1" {} (.whole 10))
    let neighbour : Props := [("/org/bluez/hci10/dev_00_00_00_00_00_01",
      .dict [(deviceInterface, .dict [])])]
    let ms : List Move :=
      [.signal (announcing "/org/bluez/hci1/dev_00_00_00_00_00_02" "00:00:00:00:00:02")]
    let ms' : List Move :=
      .signal (announcing "/org/bluez/hci10/dev_00_00_00_00_00_03" "00:00:00:00:00:03") :: ms
    let k := { l with world := l.world.expecting (overheard []) }
    let k' := { l with world := l.world.expecting (overheard neighbour) }
    let x := c.scan (.whole 5) (c.during ms k) (c.during ms (c.begun (.whole 5) ms k)) k.world
    let x' :=
      c.scan (.whole 5) (c.during ms' k') (c.during ms' (c.begun (.whole 5) ms' k')) k'.world
    Client.Alike "hci1" l.world.service.ahead (overheard []) (overheard neighbour) ∧
    ms.filter (·.concerns "hci1") = ms'.filter (·.concerns "hci1") ∧
    x'.1 = x.1 ∧ messages x'.2.log = messages x.2.log ∧
    x.1.toOption.map Roster.addresses = some ["00:00:00:00:00:02"] := by
  intro c l neighbour ms ms' k k' x x'
  have hown : neighbour.filter (ObjectPath.isChild ·.1 "hci1") = [] := by
    have hp : ObjectPath.isChild "/org/bluez/hci10/dev_00_00_00_00_00_01" "hci1" = false := by
      decide +kernel
    simp [neighbour, hp]
  have hr : Client.Alike "hci1" l.world.service.ahead (overheard []) (overheard neighbour) :=
    @Client.Alike.listing "hci1" _ [] _ [] neighbour [] false rfl (List.Perm.of_eq hown.symm)
      (fun e he => by cases he) fun e he _ => by
        obtain rfl := List.mem_singleton.mp he
        rfl
  have hm : ms.filter (·.concerns "hci1") = ms'.filter (·.concerns "hci1") := by
    have hc : Signal.concerns "hci1" (announcing "/org/bluez/hci10/dev_00_00_00_00_00_03"
        "00:00:00:00:00:03") = false := by decide +kernel
    exact (List.filter_cons_of_neg (by simp [Move.concerns, hc])).symm
  have h := scan_isolated "hci1" {} true {} (.whole 10) [] (.whole 5) hr hm hm
  exact ⟨hr, hm, h.1, h.2, by decide +kernel⟩

end Controller

end BluetoothControl
