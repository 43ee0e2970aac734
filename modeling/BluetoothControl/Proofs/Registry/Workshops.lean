import BluetoothControl.Proofs.Controller.Close
import BluetoothControl.Registry.Fleet
import BluetoothControl.Registry.Mockup
import BluetoothControl.Registry.Run

/-!
# Workshops that a registry can rely on

Controllers on the bus can always be built and always be closed.  Mock-ups can be closed if none of
them is said to fail.
-/

namespace BluetoothControl

open Procedure

/-! ## Lists of things that can be closed -/

section
variable {ι : Type} {l : List ι} {shut : ι → Bool} {n m : Nat} {a b : ι}

/-- Whether what stands at a place is closed. -/
def shutAt (shut : ι → Bool) (l : List ι) (n : Nat) : Bool := ((l[n]?).map shut).getD false

theorem shutAt_concat_length : shutAt shut (l ++ [a]) l.length = shut a := by
  unfold shutAt
  rw [List.getElem?_concat_length]
  rfl

theorem shutAt_concat_of_lt (h : m < l.length) : shutAt shut (l ++ [a]) m = shutAt shut l m := by
  unfold shutAt
  rw [List.getElem?_append_left h]

theorem shutAt_set (hn : n < l.length) (hb : shut b = true) (m : Nat) :
    shutAt shut (l.set n b) m = (shutAt shut l m || m == n) := by
  unfold shutAt
  by_cases hm : m = n
  · subst hm
    rw [List.getElem?_set_self hn]
    simp [hb]
  · rw [List.getElem?_set_ne (Ne.symm hm), beq_false_of_ne hm, Bool.or_false]

/-- A place that is not there cannot be meant. -/
theorem shutAt_of_none (hn : l[n]? = none) (hm : m < l.length) :
    shutAt shut l m = (shutAt shut l m || m == n) := by
  have hlen : l.length ≤ n := List.getElem?_eq_none_iff.mp hn
  rw [beq_false_of_ne (by omega : m ≠ n), Bool.or_false]

end

/-- An element may be exchanged where only what it shares with the new one is read. -/
theorem map_set_of_eq {α β : Type} {g : α → β} {l : List α} {n : Nat} {a b : α}
    (hn : l[n]? = some a) (hg : g b = g a) : (l.set n b).map g = l.map g := by
  obtain ⟨hlt, rfl⟩ := List.getElem?_eq_some_iff.mp hn
  rw [List.map_set, hg, ← List.getElem_map g (h := by rwa [List.length_map]), List.set_getElem_self]

/-! ## Fleets -/

namespace Fleet

/-- Every controller has a client of its own. -/
def Independent (f : Fleet) : Prop :=
  ∀ m ∈ f.members, ∃ name config, m.controller = .ofName name config

/-- The adapters that controllers were built for. -/
def adapters (f : Fleet) : List String := f.members.map (·.controller.name)

/-- Closing a controller answers, and the controller is closed. -/
theorem close_ofName (name : String) (config : Config) (w : World Client) :
    ∃ v, (Controller.ofName name config).close w = (.ok (), v) ∧ v.closed = true := by
  cases hw : w.closed with
  | true => exact ⟨w, Controller.close_closed hw, hw⟩
  | false =>
    exact ⟨_, Controller.close_apply Client.civil_service hw,
      (Controller.ended_dismantled Client.civil_service w).1⟩

theorem reliable : workshop.Reliable Independent adapters where
  builds {name config s n t} hs h := by
    cases h
    refine ⟨fun m hm => ?_, (List.length_map _).symm, List.map_append, shutAt_concat_length,
      fun m hm => ?_⟩
    · rcases List.mem_append.mp hm with hm | hm
      · exact hs m hm
      · exact ⟨name, config.getD {}, by rw [List.mem_singleton.mp hm]⟩
    · rw [adapters, List.length_map] at hm
      exact shutAt_concat_of_lt hm
  refuses _ h := by cases h
  closes {s} n hs := by
    show ∃ t, close n s = _ ∧ _
    unfold close
    cases hn : s.members[n]? with
    | none =>
      refine ⟨s, rfl, hs, rfl, fun m hm => ?_⟩
      rw [adapters, List.length_map] at hm
      exact shutAt_of_none hn hm
    | some member =>
      obtain ⟨name, config, hc⟩ := hs member (List.mem_of_getElem? hn)
      obtain ⟨v, hv, hclosed⟩ := close_ofName name config (s.lent member.world)
      have hlen : n < s.members.length := (List.getElem?_eq_some_iff.mp hn).1
      dsimp only
      rw [hc, hv]
      refine ⟨_, rfl, fun m hm => ?_, map_set_of_eq hn (by rw [hc]),
        fun m _ => shutAt_set hlen hclosed m⟩
      rcases List.mem_or_eq_of_mem_set hm with hm | rfl
      · exact hs m hm
      · exact ⟨name, config, rfl⟩

end Fleet

/-! ## Mock-ups -/

namespace MockupWorkshop

theorem build_eq (name : String) (config : Option Config) (s : MockupWorkshop) :
    build name config s =
      if s.unbuildable.contains name then
        (.error (.cannotCreate name), { s with log := s.log ++ [.built name config] })
      else (.ok s.built.length,
        { s with built := s.built ++ [⟨name, false⟩], log := s.log ++ [.built name config] }) := by
  unfold build observe
  rw [bind_ok (modify_apply _ s), bind_ok (get_apply _)]
  dsimp only
  split <;> rfl

theorem reliable :
    workshop.Reliable (fun s => s.unclosable = []) (fun s => s.built.map (·.name)) where
  builds {name config s n t} hs h := by
    change build name config s = _ at h
    rw [build_eq] at h
    split at h
    · cases h
    · cases h
      refine ⟨hs, (List.length_map _).symm, List.map_append, shutAt_concat_length, fun m hm => ?_⟩
      rw [List.length_map] at hm
      exact shutAt_concat_of_lt hm
  refuses {name config s f t} hs h := by
    change build name config s = _ at h
    rw [build_eq] at h
    split at h
    · cases h
      exact ⟨hs, rfl, fun _ _ => rfl⟩
    · cases h
  closes {s} n hs := by
    show ∃ t, close n s = _ ∧ _
    unfold close
    rw [bind_ok (get_apply s)]
    cases hn : s.built[n]? with
    | none =>
      refine ⟨s, rfl, hs, rfl, fun m hm => ?_⟩
      rw [List.length_map] at hm
      exact shutAt_of_none hn hm
    | some mockup =>
      have hlen : n < s.built.length := (List.getElem?_eq_some_iff.mp hn).1
      dsimp only
      unfold observe
      rw [bind_ok (modify_apply _ s), bind_ok (get_apply _)]
      dsimp only
      have hfree : s.unclosable.contains mockup.name = false := by
        rw [show s.unclosable = [] from hs]
        rfl
      rw [hfree]
      exact ⟨_, rfl, hs, map_set_of_eq hn rfl, fun m _ => shutAt_set hlen rfl m⟩

end MockupWorkshop

end BluetoothControl
