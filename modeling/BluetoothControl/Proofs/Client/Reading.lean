import BluetoothControl.Bus.Legible
import BluetoothControl.Proofs.Client.Frame

/-!
# Answers that are read off replies

What a client answers when it lists objects or tells the properties of a device is what the last
reply says.
-/

namespace BluetoothControl

open Procedure

/-! ## Looking up names -/

namespace Value

/-- Whether a name is found in a value. -/
def offers (name : String) (v : Value) : Bool :=
  match v.includes name with
  | .ok found => found
  | .error _ => false

theorem includes_ok {v : Value} (name : String) (h : v.isSearchable = true) :
    v.includes name = .ok (v.offers name) := by
  cases v <;> first | rfl | cases h

theorem includes_error {v : Value} (name : String) (h : v.isSearchable = false) :
    v.includes name = .error .wrongType := by
  cases v <;> first | rfl | cases h

end Value

namespace Client

/-! ## Objects with an interface -/

/-- Objects are looked through exactly if names can be looked up in the interfaces of each. -/
theorem withInterface_apply (interface : String) (objects : Props) :
    withInterface interface objects =
      if objects.all (·.2.isSearchable) then
        .ok ((objects.filter (·.2.offers interface)).map (·.1))
      else .error .wrongType := by
  induction objects with
  | nil => rfl
  | cons e rest ih =>
    rw [withInterface, ih, List.all_cons]
    cases he : e.2.isSearchable with
    | false =>
      rw [Value.includes_error interface he]
      rfl
    | true =>
      rw [Value.includes_ok interface he, Bool.true_and]
      cases rest.all (·.2.isSearchable) with
      | false => rfl
      | true =>
        cases ho : e.2.offers interface with
        | false =>
          rw [List.filter_cons_of_neg (by simp [ho])]
          rfl
        | true =>
          rw [List.filter_cons_of_pos (by simp [ho])]
          rfl

/-- The objects of a map that have an interface, in order. -/
def objectsWith (interface : String) (objects : Props) : List String :=
  sortedPaths ((objects.filter (·.2.offers interface)).map (·.1))

theorem sortedPaths_sorted (paths : List String) : (sortedPaths paths).Pairwise (· ≤ ·) := by
  have hle : ∀ p q : String, (!decide (q < p)) = true ↔ p ≤ q := fun p q => by
    rw [Bool.not_eq_true', decide_eq_false_iff_not]
    exact Iff.rfl
  have htrans : ∀ p q r : String, (!decide (q < p)) = true → (!decide (r < q)) = true →
      (!decide (r < p)) = true := fun p q r hpq hqr =>
    (hle p r).mpr (String.le_trans ((hle p q).mp hpq) ((hle q r).mp hqr))
  have htotal : ∀ p q : String, ((!decide (q < p)) || !decide (p < q)) = true := fun p q => by
    rw [Bool.or_eq_true, hle, hle]
    exact String.le_total p q
  exact (List.pairwise_mergeSort htrans htotal paths).imp fun h => (hle _ _).mp h

theorem match_withInterface (interface : String) (objects : Props) (w : World Client) :
    (match withInterface interface objects with
      | .ok paths => return sortedPaths paths
      | .error f => fail f : Task (List String)) w =
      (if objects.all (·.2.isSearchable) then .ok (objectsWith interface objects)
        else .error (.failed .wrongType), w) := by
  rw [withInterface_apply]
  split <;> rfl

/-! ## The last reply -/

variable {α : Type} {w v : World Client} {body : List Value}

/-- The last thing observed from `w` to `v` is this reply to a message. -/
def Told (m : Message) (body : List Value) (w v : World Client) : Prop :=
  ∃ n es, v.log = w.log ++ es ++ [.resolved n m (.answered (.returned body))]

theorem told_of_exchange {n : Nat} {m : Message} {context : String}
    (h : exchange n m context w = (.ok body, v)) : Told m body w v := by
  rw [exchange_apply] at h
  obtain ⟨hv, rfl⟩ := Prod.mk.inj h
  have hd := of_verdict_ok hv
  refine ⟨n, [.sent n m], ?_⟩
  rw [hd, World.after_log, List.append_assoc]
  rfl

theorem told_of_callMethod {path interface member signature : String} {args : List Value}
    (h : callMethod path interface member signature args w = (.ok body, v)) :
    Told ⟨serviceName, path, interface, member, signature, args⟩ body w v := by
  unfold callMethod Message.call at h
  cases hp : ObjectPath.isValid path with
  | false =>
    rw [hp] at h
    cases h
  | true =>
    rw [if_pos hp] at h
    obtain ⟨n, u, hu, hx⟩ := of_bind_ok h
    obtain ⟨c, es, hw, -⟩ := within_obtainBus (A := fun _ => True) w (within_refl w)
    obtain ⟨n', fs, hl⟩ := told_of_exchange hx
    refine ⟨n', es ++ fs, ?_⟩
    rw [hu] at hw
    change u = w.after c es at hw
    rw [hl, hw, World.after_log]
    simp only [List.append_assoc]

theorem told_of_called {m : Message} {bound : Seconds}
    (h : Told m body (w.after w.service [.called (some bound)]) v) : Told m body w v := by
  obtain ⟨n, es, hl⟩ := h
  refine ⟨n, .called (some bound) :: es, ?_⟩
  rw [hl, World.after_log]
  simp only [List.append_assoc, List.cons_append, List.nil_append]

/-- The call that lists all objects. -/
def objectsMessage : Message :=
  ⟨serviceName, "/", objectManagerInterface, "GetManagedObjects", "", []⟩

/-- The paths that a client lists are those of the last reply that have the interface. -/
theorem of_listObjects_ok {interface : String} {paths : List String}
    (h : listObjects interface w = (.ok paths, v)) :
    ∃ objects rest, Told objectsMessage (.dict objects :: rest) w v ∧
      paths = objectsWith interface objects := by
  obtain ⟨body, u, hb, hf⟩ := of_bind_ok (of_runTask_ok h).2
  cases body with
  | nil => cases hf
  | cons x rest =>
    cases x with
    | dict objects =>
      have hm := match_withInterface interface objects u
      obtain ⟨hr, rfl⟩ := Prod.mk.inj (hm.symm.trans hf)
      split at hr
      · cases hr
        refine ⟨objects, rest, told_of_called (told_of_callMethod hb), rfl⟩
      · cases hr
    | _ => cases hf

/-- The call that asks for all properties of a device. -/
def propertiesMessage (path : String) : Message :=
  ⟨serviceName, path, propertiesInterface, "GetAll", "s", [.text deviceInterface]⟩

/-- The properties that a client tells of a device are those of the last reply. -/
theorem of_deviceProperties_ok {path : String} {props : Props}
    (h : deviceProperties path w = (.ok props, v)) :
    ∃ entries rest, Told (propertiesMessage path) (.dict entries :: rest) w v ∧
      props = Props.unwrap entries := by
  obtain ⟨body, u, hb, hf⟩ := of_bind_ok (of_runTask_ok h).2
  cases body with
  | nil => cases hf
  | cons x rest =>
    cases x with
    | dict entries =>
      cases hf
      exact ⟨entries, rest, told_of_called (told_of_callMethod hb), rfl⟩
    | _ => cases hf

end Client

end BluetoothControl
