import BluetoothControl.Proofs.Client.Blind
import BluetoothControl.Proofs.Client.Connecting
import BluetoothControl.Proofs.Client.Reading

/-!
# What a listing says of one adapter

Two answers to the listing of objects agree on an adapter if they say the same of the objects that
it owns and what they say of others is well-formed (`Agree`).  A client that is given the one or the
other lists the same paths under the adapter and goes on alike (`listObjects_agree`).
-/

namespace BluetoothControl

open Procedure

/-! ## Replies to come -/

/-- These replies are to come. -/
def Link.expecting (l : Link) (replies : List ScriptedReply) : Link := { l with replies }

/-- The client finds the bus with these replies to come. -/
def Client.expecting (c : Client) (replies : List ScriptedReply) : Client :=
  c.withLink (c.link.expecting replies)

/-- The client of the world finds the bus with these replies to come. -/
def World.expecting (w : World Client) (replies : List ScriptedReply) : World Client :=
  { w with service := w.service.expecting replies }

namespace Client

/-- How many requests for notifications it takes to have a connection to use, if attempts to connect
turn out so and the first opens the connection `bus`: one for each connection that is down at once,
and one for the last. -/
def askings (signal : Option Nat) : List ConnectOutcome → Nat → Nat
  | .opensDown :: rest, bus => if signal = some bus then 0 else askings signal rest (bus + 1) + 1
  | [], bus | .opens :: _, bus => if signal = some bus then 0 else 1
  | _, _ => 0

/-- How many replies are used up before the next message to the service is sent: those to requests
for notifications on new connections. -/
def ahead (c : Client) : Nat :=
  if c.openBus?.isSome || c.subscriptions.isEmpty then 0
  else askings c.signalBus c.link.connects (c.link.buses.length + 1)

end Client

namespace Link

variable {l : Link} {n : Nat} {rs : List ScriptedReply}

theorem nextConnect_expecting :
    (l.expecting rs).nextConnect = (l.nextConnect.1, l.nextConnect.2.expecting rs) := by
  obtain ⟨connects, replies, disconnectFailure, buses⟩ := l
  cases connects <;> rfl

theorem change_expecting (f : Bus → Bus) :
    (l.expecting rs).change n f = (l.change n f).expecting rs := by
  cases n <;> rfl

/-- A reply as whoever uses the bus gets it. -/
def paceReply (l : Link) (r : ScriptedReply) : Delivery :=
  if l.hasty then r.delivery.hurried else r.delivery

/-- The next reply is the first of those to come. -/
theorem nextReply_expecting (r : ScriptedReply) :
    (l.expecting (r :: rs)).nextReply n =
      (l.paceReply r, (if r.drops then l.drop n else l).expecting rs) := by
  show (l.paceReply r, if r.drops = true then (l.expecting rs).drop n else l.expecting rs) = _
  cases r.drops with
  | false => rfl
  | true => exact congrArg _ (change_expecting _)

end Link

namespace Client

variable {α β : Type} {w : World Client} {n : Nat}

/-- The replies to come have no part in connecting. -/
theorem connectBus_expecting (rs : List ScriptedReply) :
    connectBus (w.expecting rs) = ((connectBus w).1, (connectBus w).2.expecting rs) := by
  have hl : (w.expecting rs).service.link.nextConnect =
      (w.service.link.nextConnect.1, w.service.link.nextConnect.2.expecting rs) :=
    Link.nextConnect_expecting
  unfold connectBus
  rw [bind_ok (current_apply _), bind_ok (current_apply w), hl]
  dsimp only
  rw [bind_ok (changeLink_apply _ _), bind_ok (changeLink_apply _ _)]
  cases w.service.link.nextConnect.1 <;> rfl

theorem reconnect_expecting (rs : List ScriptedReply) :
    reconnect (w.expecting rs) = ((reconnect w).1, (reconnect w).2.expecting rs) := by
  have hc := connectBus_expecting (w := w) rs
  unfold reconnect
  rw [bind_apply, bind_apply]
  rcases hx : connectBus w with ⟨r, v⟩
  rw [hx] at hc
  cases r with
  | ok n =>
    rw [tryCatch_ok hx, tryCatch_ok hc]
    rfl
  | error e =>
    rw [tryCatch_error hx, tryCatch_error hc]
    cases e with
    | unanswered => rfl
    | failed f => cases hf : f.kind.isOrdinary <;> simp only [hf] <;> rfl

/-! ## What comes of the first replies -/

/-- Whatever replies come after the first, a task fails alike, or it answers alike and finds those
replies next. -/
inductive Foresees (front : List ScriptedReply) (p : Task α) (w : World Client) : Prop
  | fails (e : Halt) (log : List Event)
    (ends : ∀ rs, (p (w.expecting (front ++ rs))).1 = .error e ∧
      (p (w.expecting (front ++ rs))).2.log = log)
  | answers (a : α) (v : World Client)
    (ends : ∀ rs, p (w.expecting (front ++ rs)) = (.ok a, v.expecting rs))

theorem Foresees.bind {front back : List ScriptedReply} {p : Task α} {f : α → Task β}
    (hp : Foresees front p w) (hf : ∀ a v, Foresees back (f a) v) :
    Foresees (front ++ back) (p >>= f) w := by
  cases hp with
  | fails e log ends =>
    refine .fails e log fun rs => ?_
    obtain ⟨he, hl⟩ := ends (back ++ rs)
    rw [List.append_assoc, bind_apply]
    rcases hx : p (w.expecting (front ++ (back ++ rs))) with ⟨r, v⟩
    rw [hx] at he hl
    cases he
    exact ⟨rfl, hl⟩
  | answers a v ends =>
    have hb (rs : List ScriptedReply) : (p >>= f) (w.expecting (front ++ back ++ rs)) =
        f a (v.expecting (back ++ rs)) := by
      rw [List.append_assoc, bind_ok (ends (back ++ rs))]
    cases hf a v with
    | fails e log ends => exact .fails e log fun rs => by rw [hb]; exact ends rs
    | answers b u ends => exact .answers b u fun rs => (hb rs).trans (ends rs)

/-- A message is answered by the first of the replies to come. -/
theorem exchange_expecting (n : Nat) (m : Message) (context : String) (r : ScriptedReply)
    (rs : List ScriptedReply) :
    exchange n m context (w.expecting (r :: rs)) = (verdict context (w.service.link.paceReply r),
      (w.after (w.service.withLink (if r.drops then w.service.link.drop n else w.service.link))
        [.sent n m, .resolved n m (w.service.link.paceReply r)]).expecting rs) := by
  rw [exchange_apply]
  show (verdict context ((w.service.link.expecting (r :: rs)).nextReply n).1,
    World.after _ (withLink _ ((w.service.link.expecting (r :: rs)).nextReply n).2)
      [_, .resolved n m ((w.service.link.expecting (r :: rs)).nextReply n).1]) = _
  rw [Link.nextReply_expecting]
  rfl

theorem foresees_exchange (n : Nat) (m : Message) (context : String) (r : ScriptedReply)
    (w : World Client) : Foresees [r] (exchange n m context) w := by
  have hx := exchange_expecting (w := w) n m context r
  cases hv : verdict context (w.service.link.paceReply r) with
  | error e =>
    rw [hv] at hx
    exact .fails e _ fun rs => by
      rw [List.singleton_append, hx rs]
      exact ⟨rfl, rfl⟩
  | ok body =>
    rw [hv] at hx
    exact .answers body _ hx

theorem asking_expecting (rs : List ScriptedReply) :
    asking n (w.expecting rs) = (asking n w).expecting rs := by
  unfold asking World.expecting Client.expecting
  show World.after _ (withLink _ ((w.service.link.expecting rs).addHandler n)) _ = _
  unfold Link.addHandler
  rw [Link.change_expecting]
  rfl

/-- The handler is put on a connection with the replies that asking for notifications takes. -/
theorem foresees_installAsking {front : List ScriptedReply} {ask : Task (List Value)}
    (hr : w.service.signalBus ≠ some n) (ha : Foresees front ask (asking n w)) :
    Foresees front (installAsking ask n) w := by
  have hi (rs : List ScriptedReply) : installAsking ask n (w.expecting rs) = _ :=
    installAsking_new (w := w.expecting rs) hr
  simp only [asking_expecting] at hi
  cases ha with
  | fails e log ends =>
    refine .fails e (settled n (Halt.consent e) { w with log }).log fun rs => ?_
    obtain ⟨he, hl⟩ := ends rs
    rw [hi]
    rcases hx : ask ((asking n w).expecting (front ++ rs)) with ⟨r, v⟩
    rw [hx] at he hl
    cases he
    cases hl
    refine ⟨rfl, ?_⟩
    show (settled n (Halt.consent e) v).log = _
    cases Halt.consent e <;> rfl
  | answers body v ends =>
    exact .answers () (settled n .granted v) fun rs => by
      rw [hi, ends rs]
      rfl

theorem foresees_takeUp {front : List ScriptedReply} {ask : Task (List Value)}
    (hs : w.service.subscriptions ≠ []) (hi : Foresees front (installAsking ask n) w) :
    Foresees front (takeUp ask n) w := by
  have ht (rs : List ScriptedReply) : takeUp ask n (w.expecting rs) = _ :=
    takeUp_busy (w := w.expecting rs) hs
  cases hi with
  | fails e log ends =>
    refine .fails e log fun rs => ?_
    obtain ⟨he, hl⟩ := ends rs
    rw [ht]
    rcases hx : installAsking ask n (w.expecting (front ++ rs)) with ⟨r, v⟩
    rw [hx] at he hl
    cases he
    exact ⟨rfl, hl⟩
  | answers _ v ends =>
    exact .answers (v.service.bus.getD n) v fun rs => by
      rw [ht, ends rs]
      rfl

/-! ### Connections to use -/

/-- What the replies come to that it takes to have a connection depends on the one that the client
reconnects with. -/
theorem foresees_obtainBus_down {front : List ScriptedReply} (ho : w.service.openBus? = none)
    (h : ∀ n v, reconnect w = (.ok n, v) →
      Foresees front (takeUp (call .addMatch addMatchContext) n) v) :
    Foresees front obtainBus w := by
  have hb (rs : List ScriptedReply) : obtainBus (w.expecting rs) = _ :=
    obtainBus_down (w := w.expecting rs) ho
  simp only [bind_apply, reconnect_expecting] at hb
  rcases hx : reconnect w with ⟨r, v⟩
  simp only [hx] at hb
  cases r with
  | error e =>
    exact .fails e v.log fun rs => by
      rw [hb]
      exact ⟨rfl, rfl⟩
  | ok n =>
    cases h n v hx with
    | fails e log ends => exact .fails e log fun rs => by rw [hb]; exact ends rs
    | answers k u ends => exact .answers k u fun rs => by rw [hb]; exact ends rs

theorem askings_of_opens {l : Link} (h : l.nextConnect.1 = .opens) (signal : Option Nat)
    (bus : Nat) : askings signal l.connects bus = if signal = some bus then 0 else 1 := by
  unfold Link.nextConnect Link.paceConnect at h
  cases hc : l.connects with
  | nil => rfl
  | cons c rest =>
    rw [hc] at h
    cases hh : l.hasty <;> cases c <;> simp [hh, ConnectOutcome.hurried] at h
    rfl

theorem connects_of_opensDown {l : Link} (h : l.nextConnect.1 = .opensDown) :
    l.connects = .opensDown :: l.nextConnect.2.connects := by
  unfold Link.nextConnect Link.paceConnect at h ⊢
  cases hc : l.connects with
  | nil =>
    rw [hc] at h
    cases hh : l.hasty <;> simp [hh, ConnectOutcome.hurried] at h
  | cons c rest =>
    rw [hc] at h
    cases hh : l.hasty <;> cases c <;> simp [hh, ConnectOutcome.hurried] at h
    rfl

/-- For subscribers a new connection takes the replies that it takes to have a connection to ask on,
and one more. -/
theorem foresees_takeUp_new {front : List ScriptedReply} {k : Nat}
    (hs : w.service.subscriptions ≠ []) (hb : w.service.bus = some n)
    (hf : front.length = if w.service.signalBus = some n then 0 else k + 1)
    (hask : ∀ asked : List ScriptedReply, asked.length = k →
      Foresees asked obtainBus (asking n w)) :
    Foresees front (takeUp (call .addMatch addMatchContext) n) w := by
  by_cases hr : w.service.signalBus = some n
  · rw [if_pos hr] at hf
    obtain rfl := List.length_eq_zero_iff.mp hf
    exact .answers n w fun rs => takeUp_recorded (w := w.expecting rs) hs hr hb
  · rw [if_neg hr] at hf
    obtain ⟨asked, r, rfl⟩ : ∃ asked r, front = asked ++ [r] := by
      rcases List.eq_nil_or_concat front with rfl | ⟨asked, r, rfl⟩
      · cases hf
      · exact ⟨asked, r, List.concat_eq_append⟩
    have hk : asked.length = k := by simpa using hf
    exact foresees_takeUp hs (foresees_installAsking hr
      ((hask asked hk).bind fun m v => foresees_exchange m _ _ r v))

/-- For subscribers a connection takes a reply for each one that is down at once, and for the
last. -/
theorem foresees_obtainBus_busy {front : List ScriptedReply} (ho : w.service.openBus? = none)
    (hs : w.service.subscriptions ≠ [])
    (hf : front.length = askings w.service.signalBus w.service.link.connects
      (w.service.link.buses.length + 1)) :
    Foresees front obtainBus w := by
  induction hk : w.service.link.connects.length using Nat.strongRecOn
    generalizing w front with
  | ind k ih =>
    refine foresees_obtainBus_down ho fun n v hv => ?_
    have hr := reconnected w
    rw [hv] at hr
    cases hr with
    | opens number outcome =>
      subst number
      rw [askings_of_opens outcome] at hf
      refine foresees_takeUp_new hs rfl hf fun asked hasked => ?_
      obtain rfl := List.length_eq_zero_iff.mp hasked
      exact .answers _ _ fun rs => obtainBus_held
        ((openBus?_asking _ _).trans (openBus?_connected w.service))
    | lapses number outcome =>
      subst number
      have hless := Link.length_connects_nextConnect outcome
      rw [connects_of_opensDown outcome] at hf
      refine foresees_takeUp_new hs rfl hf fun asked hasked => ?_
      generalize hu : asking (w.service.link.buses.length + 1) _ = u
      have hconnects : u.service.link.connects = w.service.link.nextConnect.2.connects := by
        rw [← hu, connects_asking]
        rfl
      have hlength : u.service.link.buses.length = w.service.link.buses.length + 1 := by
        rw [← hu]
        exact (Link.length_change ..).trans (length_lapsed w.service)
      refine ih _ ?_ ?_ ?_ ?_ rfl
      · rw [hconnects]
        omega
      · rw [← hu]
        exact (openBus?_asking _ _).trans (openBus?_lapsed w.service)
      · rw [← hu]
        exact hs
      · rw [hconnects, hlength, ← hu]
        exact hasked

/-- To have a connection to use does not depend on the replies after those that it uses up. -/
theorem foresees_obtainBus {front : List ScriptedReply} (h : front.length = w.service.ahead) :
    Foresees front obtainBus w := by
  unfold ahead at h
  cases ho : w.service.openBus? with
  | some n =>
    rw [ho] at h
    obtain rfl := List.length_eq_zero_iff.mp h
    exact .answers n w fun rs => obtainBus_held ho
  | none =>
    by_cases hs : w.service.subscriptions = []
    · rw [ho, hs] at h
      obtain rfl := List.length_eq_zero_iff.mp h
      refine foresees_obtainBus_down ho fun n v hv => .answers n v fun rs => takeUp_idle ?_
      have hr := reconnected w
      rw [hv] at hr
      cases hr <;> exact hs
    · rw [ho] at h
      simp only [Option.isSome_none, Bool.false_or, List.isEmpty_iff, if_neg hs] at h
      exact foresees_obtainBus_busy ho hs h

/-! ## Listings -/

/-- What the body of a reply says when it answers a listing. -/
def listed (interface : String) : List Value → Except Halt (List String)
  | [] => .error (.failed .emptyBody)
  | .dict objects :: _ =>
    if objects.all (·.2.isSearchable) then .ok (objectsWith interface objects)
    else .error (.failed .wrongType)
  | _ => .error (.failed .lacksOperation)

theorem listed_dict (interface : String) (objects : Props) (rest : List Value) :
    listed interface (.dict objects :: rest) =
      if objects.all (·.2.isSearchable) then .ok (objectsWith interface objects)
      else .error (.failed .wrongType) := rfl

/-- What listings are called in messages. -/
def objectsContext : String := objectManagerInterface ++ "." ++ "GetManagedObjects" ++ " on " ++ "/"

theorem listObjectsTask_eq (interface : String) :
    listObjectsTask interface =
      call objectsMessage objectsContext >>= fun body =>
        Procedure.ofExcept (listed interface body) := by
  have hm : callMethod "/" objectManagerInterface "GetManagedObjects" =
      call objectsMessage objectsContext := by
    unfold callMethod Message.call
    rw [if_pos (by decide)]
    rfl
  unfold listObjectsTask
  rw [hm]
  refine congrArg _ (funext fun body => funext fun w => ?_)
  cases body with
  | nil => rfl
  | cons v rest =>
    cases v with
    | dict objects => exact match_withInterface interface objects w
    | _ => rfl

/-! ## Listings that agree -/

/-- The objects of an adapter. -/
def ownedBy (adapter : String) (objects : Props) : Props :=
  objects.filter (ObjectPath.isChild ·.1 adapter)

/-- Names can be looked up in what is said of the objects that an adapter does not own. -/
def LegibleBeyond (adapter : String) (objects : Props) : Prop :=
  ∀ e ∈ objects, ObjectPath.isChild e.1 adapter = false → e.2.isSearchable = true

/-- Replies to come that differ, if at all, in the listing that is given after the first `n`, and
there in well-formed objects only that the adapter does not own. -/
inductive Alike (adapter : String) (n : Nat) : List ScriptedReply → List ScriptedReply → Prop
  | same (replies : List ScriptedReply) : Alike adapter n replies replies
  | listing {front back : List ScriptedReply} {objects objects' : Props} {rest : List Value}
      {drops : Bool} (length : front.length = n)
      (own : (ownedBy adapter objects).Perm (ownedBy adapter objects'))
      (legible : LegibleBeyond adapter objects) (legible' : LegibleBeyond adapter objects') :
      Alike adapter n (front ++ ⟨.answered (.returned (.dict objects :: rest)), drops⟩ :: back)
        (front ++ ⟨.answered (.returned (.dict objects' :: rest)), drops⟩ :: back)

/-- The order in which paths come does not matter to their order. -/
theorem sortedPaths_congr {paths paths' : List String} (h : paths.Perm paths') :
    sortedPaths paths = sortedPaths paths' := by
  have hp : (sortedPaths paths).Perm (sortedPaths paths') :=
    ((List.mergeSort_perm paths _).trans h).trans (List.mergeSort_perm paths' _).symm
  exact hp.eq_of_pairwise (fun _ _ _ _ => String.le_antisymm) (sortedPaths_sorted paths)
    (sortedPaths_sorted paths')

theorem filter_sortedPaths (p : String → Bool) (paths : List String) :
    (sortedPaths paths).filter p = sortedPaths (paths.filter p) := by
  have hp : ((sortedPaths paths).filter p).Perm (sortedPaths (paths.filter p)) :=
    ((List.mergeSort_perm paths _).filter p).trans (List.mergeSort_perm (paths.filter p) _).symm
  exact hp.eq_of_pairwise (fun _ _ _ _ => String.le_antisymm)
    ((sortedPaths_sorted paths).sublist List.filter_sublist) (sortedPaths_sorted _)

variable {adapter interface : String} {objects objects' : Props}

/-- The paths listed under an adapter are those of its own objects. -/
theorem filter_objectsWith (p : String → Bool) :
    (objectsWith interface objects).filter p =
      objectsWith interface (objects.filter (p ·.1)) := by
  unfold objectsWith
  rw [filter_sortedPaths, List.filter_map, List.filter_filter, List.filter_filter]
  refine congrArg (fun es => sortedPaths (List.map _ es)) (List.filter_congr fun e _ => ?_)
  exact Bool.and_comm ..

theorem objectsWith_congr (h : objects.Perm objects') :
    objectsWith interface objects = objectsWith interface objects' :=
  sortedPaths_congr ((h.filter _).map _)

/-- Objects can be looked through exactly if those of the adapter can, when the others can. -/
theorem all_isSearchable (h : LegibleBeyond adapter objects) :
    objects.all (·.2.isSearchable) = (ownedBy adapter objects).all (·.2.isSearchable) := by
  rw [ownedBy, List.all_filter, Bool.eq_iff_iff, List.all_eq_true, List.all_eq_true]
  refine forall₂_congr fun e he => ?_
  cases hc : ObjectPath.isChild e.1 adapter with
  | false => simp [h e he hc]
  | true => simp

/-- Two listings of an adapter fail alike and after the same messages, or they tell the same paths
of the adapter and leave twins behind. -/
def ListAlike {ε : Type} (adapter : String) (x x' : Except ε (List String) × World Client) : Prop :=
  (∃ f, x.1 = .error f ∧ x'.1 = .error f ∧ messages x'.2.log = messages x.2.log) ∨
  ∃ paths paths', x.1 = .ok paths ∧ x'.1 = .ok paths' ∧
    paths.filter (ObjectPath.isChild · adapter) = paths'.filter (ObjectPath.isChild · adapter) ∧
    Twin x.2 x'.2

theorem ListAlike.messages {ε : Type} {x x' : Except ε (List String) × World Client}
    (h : ListAlike adapter x x') : messages x'.2.log = messages x.2.log := by
  rcases h with ⟨f, -, -, hm⟩ | ⟨paths, paths', -, -, -, ht⟩
  · exact hm
  · exact ht.messages

/-- The replies that are used up before being the same, the reply that answers a listing matters
only in what it says of the adapter. -/
theorem listObjectsTask_alike (interface : String) {w : World Client} {front : List ScriptedReply}
    (hf : Foresees front obtainBus w)
    (hown : (ownedBy adapter objects).Perm (ownedBy adapter objects'))
    (hl : LegibleBeyond adapter objects) (hl' : LegibleBeyond adapter objects')
    (rest : List Value) (drops : Bool) (back : List ScriptedReply) :
    ListAlike adapter
      (listObjectsTask interface (w.expecting
        (front ++ ⟨.answered (.returned (.dict objects :: rest)), drops⟩ :: back)))
      (listObjectsTask interface (w.expecting
        (front ++ ⟨.answered (.returned (.dict objects' :: rest)), drops⟩ :: back))) := by
  rw [listObjectsTask_eq]
  cases hf with
  | fails e log ends =>
    have hcall (rs : List ScriptedReply) : ∃ v,
        call objectsMessage objectsContext (w.expecting (front ++ rs)) = (.error e, v) ∧
          v.log = log := by
      refine ⟨(obtainBus (w.expecting (front ++ rs))).2, bind_error ?_, (ends rs).2⟩
      exact Prod.ext (ends rs).1 rfl
    obtain ⟨v, hv, hvl⟩ := hcall (⟨.answered (.returned (.dict objects :: rest)), drops⟩ :: back)
    obtain ⟨v', hv', hvl'⟩ :=
      hcall (⟨.answered (.returned (.dict objects' :: rest)), drops⟩ :: back)
    rw [bind_error hv, bind_error hv']
    exact Or.inl ⟨e, rfl, rfl, congrArg _ (hvl'.trans hvl.symm)⟩
  | answers n v ends =>
    have hcall (r : ScriptedReply) : call objectsMessage objectsContext
        (w.expecting (front ++ r :: back)) = _ :=
      (bind_ok (ends (r :: back))).trans (exchange_expecting n _ _ r back)
    have hmessages (d d' : Delivery) : messages (v.log ++ [.sent n objectsMessage,
        .resolved n objectsMessage d]) = messages (v.log ++ [.sent n objectsMessage,
        .resolved n objectsMessage d']) := by
      rw [messages_append, messages_append]
      rfl
    rw [bind_apply, bind_apply, hcall, hcall]
    unfold Link.paceReply
    cases v.service.link.hasty with
    | true => exact Or.inl ⟨.unanswered, rfl, rfl, hmessages _ _⟩
    | false =>
      have hsame : objects'.all (·.2.isSearchable) = objects.all (·.2.isSearchable) := by
        rw [all_isSearchable hl, all_isSearchable hl', hown.all_eq]
      show ListAlike adapter (listed interface (.dict objects :: rest), _)
        (listed interface (.dict objects' :: rest), _)
      rw [listed_dict, listed_dict, hsame]
      cases objects.all (·.2.isSearchable) with
      | false => exact Or.inl ⟨_, rfl, rfl, hmessages _ _⟩
      | true =>
        refine Or.inr ⟨_, _, rfl, rfl, ?_, _, rfl, hmessages _ _⟩
        rw [filter_objectsWith, filter_objectsWith]
        exact objectsWith_congr hown

/-- The time that there is for the bus makes no difference. -/
theorem ListAlike.pace {ε : Type} {x x' : Except ε (List String) × World Client}
    (h : ListAlike adapter x x') (hasty : Bool) :
    ListAlike adapter
      (x.1, x.2.after (x.2.service.withLink (x.2.service.link.pace hasty)) [])
      (x'.1, x'.2.after (x'.2.service.withLink (x'.2.service.link.pace hasty)) []) := by
  rcases h with ⟨f, hx, hx', hm⟩ | ⟨paths, paths', hx, hx', hown, l, hl, hm⟩
  · refine Or.inl ⟨f, hx, hx', ?_⟩
    rw [World.after_log, World.after_log, List.append_nil, List.append_nil, hm]
  · refine Or.inr ⟨paths, paths', hx, hx', hown, l, ?_, ?_⟩
    · rw [hl]
      simp [World.after]
    · rw [World.after_log, List.append_nil, hm]

/-- Whatever the bound, callers are told alike. -/
theorem ListAlike.answer {x x' : Except Halt (List String) × World Client}
    (h : ListAlike adapter x x') (loop : String) (bound : Seconds) :
    ListAlike adapter
      (EventLoop.answer loop (some bound) false (ended? x.1), x.2)
      (EventLoop.answer loop (some bound) false (ended? x'.1), x'.2) := by
  have hm := h.messages
  unfold ListAlike
  rw [answer_task, answer_task]
  cases bound.patience.lasts with
  | false => exact Or.inl ⟨_, rfl, rfl, hm⟩
  | true =>
    rcases h with ⟨f, hx, hx', -⟩ | ⟨paths, paths', hx, hx', hown, ht⟩
    · rw [hx, hx']
      exact Or.inl ⟨_, rfl, rfl, hm⟩
    · rw [hx, hx']
      exact Or.inr ⟨paths, paths', rfl, rfl, hown, ht⟩

theorem listAlike_refl {ε : Type} (x : Except ε (List String) × World Client) :
    ListAlike adapter x x := by
  rcases x with ⟨r, v⟩
  cases r with
  | error f => exact Or.inl ⟨f, rfl, rfl, rfl⟩
  | ok paths => exact Or.inr ⟨paths, paths, rfl, rfl, rfl, twin_refl v⟩

/-- With time or without, a task lists alike that does so wherever it finds those replies. -/
theorem listAlike_paced {task : Task (List String)} {n : Nat} {rs rs' : List ScriptedReply}
    (h : ∀ v : World Client, v.service.ahead = n →
      ListAlike adapter (task (v.expecting rs)) (task (v.expecting rs')))
    (bound : Seconds) (v : World Client) (hv : v.service.ahead = n) :
    ListAlike adapter (paced bound task (v.expecting rs)) (paced bound task (v.expecting rs')) := by
  unfold paced
  cases bound.patience with
  | looks =>
    dsimp only
    rw [hastily_apply, hastily_apply]
    exact (h (v.after (v.service.withLink (v.service.link.pace true)) []) hv).pace false
  | waits => exact h v hv
  | refuses f => exact h v hv

/-- When the replies to come agree on an adapter, a client fails to list the objects with the same
failure and after the same messages, or it lists the same paths of the adapter and goes on alike. -/
theorem listObjects_alike (interface : String) {w : World Client} {rs rs' : List ScriptedReply}
    (h : Alike adapter w.service.ahead rs rs') :
    ListAlike adapter (listObjects interface (w.expecting rs))
      (listObjects interface (w.expecting rs')) := by
  cases h with
  | same => exact listAlike_refl _
  | @listing front back objects objects' rest drops length own legible legible' =>
    have htask (v : World Client) (hv : v.service.ahead = w.service.ahead) :=
      listObjectsTask_alike interface
        (foresees_obtainBus (w := v) (length.trans hv.symm)) own legible legible' rest drops back
    have hpaced := listAlike_paced htask w.service.callTimeout
      (w.after w.service [.called (some w.service.callTimeout)]) rfl
    have hrun (rs : List ScriptedReply) : listObjects interface (w.expecting rs) = _ :=
      runTask_eq w.service.callTimeout (listObjectsTask interface) (w.expecting rs)
    have hloop (rs : List ScriptedReply) : (w.expecting rs).loop = w.loop := rfl
    rw [hrun, hrun]
    dsimp only
    rw [hloop, hloop]
    cases w.loop.current with
    | none => exact Or.inl ⟨_, rfl, rfl, rfl⟩
    | some thread =>
      dsimp only
      split
      · exact Or.inl ⟨_, rfl, rfl, rfl⟩
      · exact hpaced.answer w.loop.name w.service.callTimeout

end Client

end BluetoothControl
