import BluetoothControl.Client

/-!
# The management client: notifications

A notification of a new object with a device interface goes to every subscriber in turn, with the
device's properties freed of one variant layer.  What a subscriber does wrong stays with it; the
properties are one thing that all who are told share.
-/

namespace BluetoothControl.Client

/-- The device that a notification announces: its path and its properties, as they come. -/
def announcement? (s : Signal) : Option (Value × Value) :=
  if s.isSignal && s.interface == objectManagerInterface && s.member == "InterfacesAdded" then
    match s.body with
    | path :: .dict interfaces :: _ => (interfaces.lookup deviceInterface).map fun d => (path, d)
    | _ => none
  else none

/-- A blocking call from the loop thread is refused. -/
def reenter : Action Client Unit := do
  World.observe (.called (some (← current).callTimeout))
  World.observe (.reentered .calledOnLoop)
  throw .calledOnLoop

/-- A subscriber is told of a device; an ordinary failure stays with it. -/
def deliver (path : Value) (props : Props) (s : Subscriber) : Action Client Unit :=
  Procedure.ignoring (·.kind.isOrdinary) (s.notify reenter path props)

/-! ## Shared properties -/

/-- A step of those told of one device, over the world and the properties that they share. -/
abbrev Telling := Procedure Failure (World Client × Props)

namespace Telling

/-- Something is done that may read the shared properties. -/
def reading {α : Type} (p : Props → Action Client α) : Telling α := fun (w, props) =>
  let (r, w) := p props w
  (r, (w, props))

/-- The shared properties change. -/
def change (f : Props → Props) : Telling Unit := modify fun (w, props) => (w, f props)

/-- A step that begins with these properties. -/
def startingWith {α : Type} (props : Props) (p : Telling α) : Action Client α := fun w =>
  let (r, (w, _)) := p (w, props)
  (r, w)

end Telling

/-! ## Notifications -/

/-- An incoming message that announces a device goes to every live subscription in turn; how one is
told of it is left open. -/
def dispatch (tell : Nat × Subscriber → Value → Telling Unit) (s : Signal) :
    Action Client Unit := do
  match announcement? s with
  | none => return
  | some (path, .dict props) =>
    let told := (← current).subscriptions
    Telling.startingWith (Props.unwrap props) (Procedure.forEach (fun e =>
      Procedure.ignoring (·.kind.isOrdinary) (tell e path)) told)
  | some _ => throw .lacksOperation

/-- An incoming message is handled on the loop thread. -/
def handle (s : Signal) : Action Client Unit :=
  dispatch (fun e path => Telling.reading fun props => e.2.notify reenter path props) s

/-- An incoming message reaches every registration of the handler. -/
def signal (s : Signal) : Action Client Unit := do
  discard (World.onLoop EventLoop.require)
  Procedure.forEach (fun _ => handle s) (List.replicate (← current).link.registrations ())

/-- A message is handed to the handler itself. -/
def handleOnLoop (s : Signal) : Action Client Unit := do
  discard (World.onLoop EventLoop.require)
  handle s

/-! ## Lemmas -/

namespace Telling

open Procedure

theorem reading_apply {α : Type} (p : Props → Action Client α) (w : World Client) (props : Props) :
    reading p (w, props) = ((p props w).1, ((p props w).2, props)) := rfl

/-- Those who only read the shared properties are told the same. -/
theorem startingWith_reading {α : Type} (f : α → Props → Action Client Unit) (props : Props)
    (es : List α) : startingWith props
      (forEach (fun e => ignoring (·.kind.isOrdinary) (reading (f e))) es) =
      forEach (fun e => ignoring (·.kind.isOrdinary) (f e props)) es := by
  funext w
  induction es generalizing w with
  | nil => rfl
  | cons e rest ih =>
    have hstep : ignoring (·.kind.isOrdinary) (reading (f e)) (w, props) =
        ((ignoring (·.kind.isOrdinary) (f e props) w).1,
          ((ignoring (·.kind.isOrdinary) (f e props) w).2, props)) := by
      rw [ignoring_apply, ignoring_apply, reading_apply]
      rcases f e props w with ⟨r, v⟩
      cases r <;> rfl
    show startingWith props
      (ignoring _ (reading (f e)) >>= fun _ => forEach _ rest) w =
        (ignoring _ (f e props) >>= fun _ => forEach _ rest) w
    unfold startingWith at ih ⊢
    rcases hx : ignoring (·.kind.isOrdinary) (f e props) w with ⟨r, v⟩
    rw [hx] at hstep
    cases r with
    | ok u =>
      rw [bind_ok hx, bind_ok hstep]
      exact ih v
    | error g =>
      rw [bind_error hx, bind_error hstep]

end Telling

/-- The handler delivers the same properties to every live subscription. -/
theorem handle_eq (s : Signal) : handle s = match announcement? s with
    | none => pure ()
    | some (path, .dict props) => current >>= fun c =>
      Procedure.forEach (fun e => deliver path (Props.unwrap props) e.2) c.subscriptions
    | some _ => throw .lacksOperation := by
  unfold handle dispatch
  split
  · rfl
  · next path props _ =>
    refine bind_congr fun c => ?_
    exact Telling.startingWith_reading
      (fun (e : Nat × Subscriber) props => e.2.notify reenter path props) _ _
  · rfl

end BluetoothControl.Client
