import BluetoothControl.Bus.Legible
import BluetoothControl.Proofs.Procedure
import BluetoothControl.World

/-!
# Endings that tell whether a reply was illegible

A procedure that met an illegible reply ends in a failure of its own kind, `mis`, and any other
failure is one that its callers are told to expect, `doc`.  What the parts keep to the whole keeps
to (`truthful_bind`, `truthful_tryCatch`), as long as no handler takes a failure of the first kind.
-/

namespace BluetoothControl

open Procedure

variable {κ ε α β : Type} {P : World κ → Prop} {doc mis doc' mis' : ε → Prop}

/-- An ending that the observed events explain. -/
def Explained (doc mis : ε → Prop) (es : List Event) : Except ε α → Prop
  | .ok _ => Legible es
  | .error e => doc e ∧ Legible es ∨ mis e ∧ ¬ Legible es

/-- From every world with `P` the ending is explained by what is observed on the way. -/
def Truthful (P : World κ → Prop) (doc mis : ε → Prop) (p : Procedure ε (World κ) α) : Prop :=
  ∀ w, P w → ∃ es, (p w).2.log = w.log ++ es ∧ Explained doc mis es (p w).1

theorem Truthful.mono {Q : World κ → Prop} {p : Procedure ε (World κ) α}
    (h : Truthful P doc mis p) (hQ : ∀ w, Q w → P w) (hd : ∀ e, doc e → doc' e) :
    Truthful Q doc' mis p := by
  intro w hw
  obtain ⟨es, hl, hr⟩ := h w (hQ w hw)
  refine ⟨es, hl, ?_⟩
  cases hpw : (p w).1 with
  | ok a =>
    rw [hpw] at hr
    exact hr
  | error e =>
    rw [hpw] at hr
    exact hr.imp_left fun ⟨hde, hes⟩ => ⟨hd e hde, hes⟩

/-! ## Procedures that observe nothing -/

theorem truthful_of_log {p : Procedure ε (World κ) α} (hl : ∀ w, (p w).2.log = w.log)
    (hr : ∀ w, Explained doc mis [] (p w).1) : Truthful P doc mis p := fun w _ =>
  ⟨[], by rw [hl, List.append_nil], hr w⟩

theorem truthful_pure (a : α) : Truthful P doc mis (pure a : Procedure ε (World κ) α) :=
  truthful_of_log (fun _ => rfl) fun _ => legible_nil

theorem truthful_get : Truthful P doc mis (get : Procedure ε (World κ) (World κ)) :=
  truthful_of_log (fun _ => rfl) fun _ => legible_nil

theorem truthful_throw {e : ε} (h : doc e) :
    Truthful P doc mis (throw e : Procedure ε (World κ) α) :=
  truthful_of_log (fun _ => rfl) fun _ => Or.inl ⟨h, legible_nil⟩

theorem truthful_ofExcept {r : Except ε α} (h : ∀ e, r = .error e → doc e) :
    Truthful P doc mis (Procedure.ofExcept r : Procedure ε (World κ) α) := by
  cases r with
  | ok a => exact truthful_pure a
  | error e => exact truthful_throw (h e rfl)

theorem truthful_observe {e : Event} (h : e.isLegible = true) :
    Truthful P doc mis (World.observe e : Procedure ε (World κ) Unit) := fun _ _ =>
  ⟨[e], rfl, legible_cons.mpr ⟨h, legible_nil⟩⟩

theorem truthful_changeService (f : κ → κ) :
    Truthful P doc mis (World.changeService f : Procedure ε (World κ) Unit) :=
  truthful_of_log (fun _ => rfl) fun _ => legible_nil

/-! ## Composition -/

/-- Events before an ending that were legible explain it no less. -/
theorem Explained.prepend {es fs : List Event} {r : Except ε α} (hes : Legible es)
    (h : Explained doc mis fs r) : Explained doc mis (es ++ fs) r := by
  cases r with
  | ok a => exact legible_append.mpr ⟨hes, h⟩
  | error e =>
    rcases h with ⟨hd, hfs⟩ | ⟨hm, hfs⟩
    · exact Or.inl ⟨hd, legible_append.mpr ⟨hes, hfs⟩⟩
    · exact Or.inr ⟨hm, fun hl => hfs (legible_append.mp hl).2⟩

/-- Events after an ending for an illegible reply do not matter. -/
theorem Explained.of_illegible {es fs : List Event} {e : ε} (hm : mis e) (hes : ¬ Legible es) :
    Explained doc mis (es ++ fs) (.error e : Except ε α) :=
  Or.inr ⟨hm, fun hl => hes (legible_append.mp hl).1⟩

theorem truthful_bind {p : Procedure ε (World κ) α} {f : α → Procedure ε (World κ) β}
    (hp : Truthful P doc mis p) (kp : Keeps P p) (hf : ∀ a, Truthful P doc mis (f a)) :
    Truthful P doc mis (p >>= f) := by
  intro w hw
  obtain ⟨es, hl, hr⟩ := hp w hw
  have hv := kp w hw
  rw [bind_apply]
  rcases hpw : p w with ⟨r, v⟩
  rw [hpw] at hl hr hv
  cases r with
  | error e => exact ⟨es, hl, hr⟩
  | ok a =>
    obtain ⟨fs, hl', hr'⟩ := hf a v hv
    refine ⟨es ++ fs, ?_, hr'.prepend hr⟩
    rw [← List.append_assoc, ← hl]
    exact hl'

theorem truthful_map {p : Procedure ε (World κ) α} (f : α → β) (hp : Truthful P doc mis p) :
    Truthful P doc mis (f <$> p) := by
  intro w hw
  obtain ⟨es, hl, hr⟩ := hp w hw
  rw [map_apply]
  refine ⟨es, hl, ?_⟩
  cases h : (p w).1 with
  | ok a =>
    rw [h] at hr
    exact hr
  | error e =>
    rw [h] at hr
    exact hr

theorem truthful_discard {p : Procedure ε (World κ) α} (hp : Truthful P doc mis p) :
    Truthful P doc mis (discard p) := truthful_map _ hp

/-- A handler deals with documented failures, and one for an illegible reply passes it, though it
may observe more. -/
theorem truthful_tryCatch {p : Procedure ε (World κ) α} {handler : ε → Procedure ε (World κ) α}
    (hp : Truthful P doc' mis' p) (kp : Keeps P p)
    (hd : ∀ e, doc' e → Truthful P doc mis (handler e))
    (hm : ∀ e, mis' e → mis e ∧ ∀ w, ∃ fs, (handler e w).1 = .error e ∧
      (handler e w).2.log = w.log ++ fs) :
    Truthful P doc mis (tryCatch p handler) := by
  intro w hw
  obtain ⟨es, hl, hr⟩ := hp w hw
  have hv := kp w hw
  rcases hpw : p w with ⟨r, v⟩
  rw [hpw] at hl hr hv
  cases r with
  | ok a =>
    rw [tryCatch_ok hpw]
    exact ⟨es, hl, hr⟩
  | error e =>
    rw [tryCatch_error hpw]
    rcases hr with ⟨hde, hes⟩ | ⟨hme, hes⟩
    · obtain ⟨fs, hl', hr'⟩ := hd e hde v hv
      refine ⟨es ++ fs, ?_, hr'.prepend hes⟩
      rw [← List.append_assoc, ← hl]
      exact hl'
    · obtain ⟨hme', hre⟩ := hm e hme
      obtain ⟨fs, hr', hl'⟩ := hre v
      rw [hr']
      refine ⟨es ++ fs, ?_, .of_illegible hme' hes⟩
      rw [← List.append_assoc, ← hl]
      exact hl'

/-- Failures for illegible replies are never ignored; of the documented ones those that are not
ignored stay documented. -/
theorem truthful_ignoring {taken : ε → Bool} {p : Procedure ε (World κ) Unit}
    (hp : Truthful P doc' mis' p) (kp : Keeps P p) (hm : ∀ e, mis' e → mis e ∧ taken e = false)
    (hd : ∀ e, doc' e → taken e = false → doc e) : Truthful P doc mis (ignoring taken p) := by
  refine truthful_tryCatch hp kp (fun e he => ?_) fun e he => ⟨(hm e he).1, fun w => ?_⟩
  · cases ht : taken e with
    | true => exact truthful_pure ()
    | false => exact truthful_throw (hd e he ht)
  · rw [(hm e he).2]
    exact ⟨[], rfl, (List.append_nil _).symm⟩

theorem truthful_forEach {f : α → Procedure ε (World κ) Unit} {as : List α}
    (hf : ∀ a ∈ as, Truthful P doc mis (f a)) (kf : ∀ a, Keeps P (f a)) :
    Truthful P doc mis (forEach f as) := by
  induction as with
  | nil => exact truthful_pure ()
  | cons a rest ih =>
    refine truthful_bind (hf a List.mem_cons_self) (kf a) fun _ => ih fun b hb => ?_
    exact hf b (List.mem_cons_of_mem _ hb)

/-! ## One direction -/

/-- If every reply on the way is well formed, a procedure fails in documented ways only. -/
def Sheltered (P : World κ → Prop) (doc : ε → Prop) (p : Procedure ε (World κ) α) : Prop :=
  ∀ w, P w → ∃ es, (p w).2.log = w.log ++ es ∧
    (WellFormed es → ∀ e, (p w).1 = .error e → doc e)

theorem Truthful.sheltered {p : Procedure ε (World κ) α} (h : Truthful P doc mis p) :
    Sheltered P doc p := by
  intro w hw
  obtain ⟨es, hl, hr⟩ := h w hw
  refine ⟨es, hl, fun hes e he => ?_⟩
  rw [he] at hr
  rcases hr with ⟨hd, -⟩ | ⟨-, hm⟩
  · exact hd
  · exact absurd hes.legible hm

theorem sheltered_throw {e : ε} (h : doc e) :
    Sheltered P doc (throw e : Procedure ε (World κ) α) :=
  fun _ _ => ⟨[], (List.append_nil _).symm, fun _ e' he => by cases he; exact h⟩

theorem Sheltered.mono {p : Procedure ε (World κ) α} (h : Sheltered P doc p)
    (hd : ∀ e, doc e → doc' e) : Sheltered P doc' p := by
  intro w hw
  obtain ⟨es, hl, hr⟩ := h w hw
  exact ⟨es, hl, fun hes e he => hd e (hr hes e he)⟩

/-- A procedure that only adds to what was observed. -/
theorem sheltered_of_grows {p : Procedure ε (World κ) α}
    (h : ∀ w, P w → w.log <+: (p w).2.log) : Sheltered P (fun _ => True) p := by
  intro w hw
  obtain ⟨es, hes⟩ := h w hw
  exact ⟨es, hes.symm, fun _ _ _ => trivial⟩

/-- The second part may rely on what well-formed replies made of the first. -/
theorem sheltered_bind {p : Procedure ε (World κ) α} {f : α → Procedure ε (World κ) β}
    {Q : α → Prop} (hp : Sheltered P doc p) (kp : Keeps P p)
    (hQ : ∀ w v a es, p w = (.ok a, v) → v.log = w.log ++ es → WellFormed es → Q a)
    (hf : ∀ a, Sheltered P (fun e => Q a → doc e) (f a)) : Sheltered P doc (p >>= f) := by
  intro w hw
  obtain ⟨es, hl, hr⟩ := hp w hw
  have hv := kp w hw
  rw [bind_apply]
  rcases hpw : p w with ⟨r, v⟩
  rw [hpw] at hl hr hv
  cases r with
  | error e =>
    refine ⟨es, hl, fun hes e' he => ?_⟩
    cases he
    exact hr hes e rfl
  | ok a =>
    obtain ⟨fs, hl', hr'⟩ := hf a v hv
    refine ⟨es ++ fs, ?_, fun hes e he => ?_⟩
    · rw [← List.append_assoc, ← hl]
      exact hl'
    · obtain ⟨hes, hfs⟩ := wellFormed_append.mp hes
      exact hr' hfs e he (hQ w v a es hpw hl hes)

/-- A handler may rely on the failure that it handles. -/
theorem sheltered_tryCatch {p : Procedure ε (World κ) α} {handler : ε → Procedure ε (World κ) α}
    (hp : Sheltered P doc' p) (kp : Keeps P p)
    (hh : ∀ e, Sheltered P (fun e' => doc' e → doc e') (handler e)) :
    Sheltered P doc (tryCatch p handler) := by
  intro w hw
  obtain ⟨es, hl, hr⟩ := hp w hw
  have hv := kp w hw
  rcases hpw : p w with ⟨r, v⟩
  rw [hpw] at hl hr hv
  cases r with
  | ok a =>
    rw [tryCatch_ok hpw]
    exact ⟨es, hl, fun _ e he => by cases he⟩
  | error e =>
    rw [tryCatch_error hpw]
    obtain ⟨fs, hl', hr'⟩ := hh e v hv
    refine ⟨es ++ fs, ?_, fun hes e' he => ?_⟩
    · rw [← List.append_assoc, ← hl]
      exact hl'
    · obtain ⟨hes, hfs⟩ := wellFormed_append.mp hes
      exact hr' hfs e' he (hr hes e rfl)

end BluetoothControl
