import BluetoothControl.Procedure

/-!
# What procedures keep

A property of states that a procedure keeps holds after it whatever came of it, an answer or a
failure.  What the parts keep the whole keeps.
-/

namespace BluetoothControl.Procedure

variable {ε σ α β : Type} {P : σ → Prop}

/-- From a state with `P` a procedure ends in a state with `P`, also if it fails. -/
def Keeps (P : σ → Prop) (p : Procedure ε σ α) : Prop := ∀ s, P s → P (p s).2

theorem keeps_pure (a : α) : Keeps P (pure a : Procedure ε σ α) := fun _ h => h

theorem keeps_throw (e : ε) : Keeps P (throw e : Procedure ε σ α) := fun _ h => h

theorem keeps_ofExcept (r : Except ε α) : Keeps P (ofExcept r : Procedure ε σ α) := fun _ h => h

theorem keeps_get : Keeps P (get : Procedure ε σ σ) := fun _ h => h

/-- What a first step ends with the rest keeps. -/
theorem keeps_rest {p : Procedure ε σ α} {f : α → Procedure ε σ β} {s : σ} (h : P (p s).2)
    (hf : ∀ a, Keeps P (f a)) : P ((p >>= f) s).2 := by
  rw [bind_apply]
  rcases hr : p s with ⟨r, t⟩
  rw [hr] at h
  cases r with
  | ok a => exact hf a t h
  | error e => exact h

theorem keeps_bind {p : Procedure ε σ α} {f : α → Procedure ε σ β} (hp : Keeps P p)
    (hf : ∀ a, Keeps P (f a)) : Keeps P (p >>= f) := fun s hs => keeps_rest (hp s hs) hf

theorem keeps_map {p : Procedure ε σ α} (f : α → β) (hp : Keeps P p) : Keeps P (f <$> p) := by
  rw [← bind_pure_comp]
  exact keeps_bind hp fun a => keeps_pure (f a)

theorem keeps_discard {p : Procedure ε σ α} (hp : Keeps P p) : Keeps P (discard p) :=
  keeps_map _ hp

theorem keeps_attempt {p : Procedure ε σ α} (hp : Keeps P p) : Keeps P p.attempt := hp

theorem keeps_tryCatch {p : Procedure ε σ α} {handler : ε → Procedure ε σ α} (hp : Keeps P p)
    (hh : ∀ e, Keeps P (handler e)) : Keeps P (tryCatch p handler) := by
  intro s hs
  have h := hp s hs
  rcases hr : p s with ⟨r, t⟩
  rw [hr] at h
  cases r with
  | ok a =>
    rw [tryCatch_ok hr]
    exact h
  | error e =>
    rw [tryCatch_error hr]
    exact hh e t h

theorem keeps_ignoring {taken : ε → Bool} {p : Procedure ε σ Unit} (hp : Keeps P p) :
    Keeps P (ignoring taken p) := by
  refine keeps_tryCatch hp fun e => ?_
  split
  · exact keeps_pure ()
  · exact keeps_throw e

theorem keeps_forEach_mem {f : α → Procedure ε σ Unit} {as : List α}
    (hf : ∀ a ∈ as, Keeps P (f a)) : Keeps P (forEach f as) := by
  induction as with
  | nil => exact keeps_pure ()
  | cons a rest ih =>
    exact keeps_bind (hf a List.mem_cons_self) fun _ =>
      ih fun b hb => hf b (List.mem_cons_of_mem a hb)

theorem keeps_forEach {f : α → Procedure ε σ Unit} (hf : ∀ a, Keeps P (f a)) (as : List α) :
    Keeps P (forEach f as) := keeps_forEach_mem fun a _ => hf a

theorem keeps_forAll {f : α → Procedure ε σ β} (hf : ∀ a, Keeps P (f a)) (as : List α) :
    Keeps P (forAll f as) := by
  induction as with
  | nil => exact keeps_pure []
  | cons a rest ih =>
    exact keeps_bind (hf a) fun _ => keeps_bind ih fun _ => keeps_pure _

/-- What is swallowed or not makes no difference to the state. -/
theorem ignoring_state (taken : ε → Bool) (p : Procedure ε σ Unit) (s : σ) :
    (ignoring taken p s).2 = (p s).2 := by
  rw [ignoring_apply]
  rcases p s with ⟨r, t⟩
  cases r <;> rfl

/-! ## Failures -/

/-- From whatever state, a procedure fails in these ways only. -/
def FailsOnly (D : ε → Prop) (p : Procedure ε σ α) : Prop := ∀ s e, (p s).1 = .error e → D e

section
variable {D : ε → Prop}

theorem failsOnly_pure (a : α) : FailsOnly D (pure a : Procedure ε σ α) := by
  intro s e h
  cases h

theorem failsOnly_throw {e : ε} (h : D e) : FailsOnly D (throw e : Procedure ε σ α) := by
  intro s e' he
  cases he
  exact h

theorem failsOnly_bind {p : Procedure ε σ α} {f : α → Procedure ε σ β} (hp : FailsOnly D p)
    (hf : ∀ a, FailsOnly D (f a)) : FailsOnly D (p >>= f) := by
  intro s e h
  rw [bind_apply] at h
  rcases hr : p s with ⟨r, t⟩
  rw [hr] at h
  cases r with
  | ok a => exact hf a t e h
  | error e' =>
    cases h
    exact hp s _ (congrArg Prod.fst hr)

/-- A failure that is swallowed leaves no trace but the state. -/
theorem ignoring_of_taken {taken : ε → Bool} {p : Procedure ε σ Unit} {s t : σ}
    {r : Except ε Unit} (hp : p s = (r, t)) (hr : ∀ e, r = .error e → taken e = true) :
    ignoring taken p s = (.ok (), t) := by
  rw [ignoring_apply, hp]
  cases r with
  | ok _ => rfl
  | error e =>
    dsimp only
    rw [if_pos (hr e rfl)]

theorem ignoring_failsOnly {taken : ε → Bool} {p : Procedure ε σ Unit}
    (hp : FailsOnly (taken · = true) p) (s : σ) : ignoring taken p s = (.ok (), (p s).2) :=
  ignoring_of_taken rfl (hp s)

end

/-! ## Stops -/

/-- From every state with `P` a procedure stops with the failure `e`. -/
def Stops (P : σ → Prop) (e : ε) (p : Procedure ε σ α) : Prop := ∀ s, P s → (p s).1 = .error e

section
variable {e : ε}

theorem stops_bind {p : Procedure ε σ α} {f : α → Procedure ε σ β} (hp : Stops P e p) :
    Stops P e (p >>= f) := by
  intro s hs
  rcases hr : p s with ⟨r, t⟩
  have h := hp s hs
  rw [hr] at h
  cases h
  rw [bind_error hr]

theorem stops_map {p : Procedure ε σ α} (f : α → β) (hp : Stops P e p) : Stops P e (f <$> p) := by
  rw [← bind_pure_comp]
  exact stops_bind hp

/-- What comes before a stop does not matter if it never fails. -/
theorem stops_after {p : Procedure ε σ α} {f : α → Procedure ε σ β}
    (hp : ∀ s, P s → ∃ a, (p s).1 = .ok a) (kp : Keeps P p) (hf : ∀ a, Stops P e (f a)) :
    Stops P e (p >>= f) := by
  intro s hs
  obtain ⟨a, ha⟩ := hp s hs
  have ht := kp s hs
  rcases hr : p s with ⟨r, t⟩
  rw [hr] at ha ht
  cases ha
  rw [bind_ok hr]
  exact hf a t ht

/-- A stop that is swallowed is none. -/
theorem ignoring_stops {taken : ε → Bool} {p : Procedure ε σ Unit} (hp : Stops P e p)
    (he : taken e = true) {s : σ} (hs : P s) : (ignoring taken p s).1 = .ok () := by
  have h := hp s hs
  rw [ignoring_apply]
  rcases hr : p s with ⟨r, t⟩
  rw [hr] at h
  cases h
  dsimp only
  rw [if_pos he]

end

/-! ## Answers -/

/-- What answers in two steps answers in the first. -/
theorem of_bind_ok {p : Procedure ε σ α} {f : α → Procedure ε σ β} {s t : σ} {b : β}
    (h : (p >>= f) s = (.ok b, t)) : ∃ a u, p s = (.ok a, u) ∧ f a u = (.ok b, t) := by
  rw [bind_apply] at h
  rcases hp : p s with ⟨r, u⟩
  rw [hp] at h
  cases r with
  | ok a => exact ⟨a, u, rfl, h⟩
  | error e => cases h

theorem of_map_ok {f : α → β} {p : Procedure ε σ α} {s t : σ} {b : β}
    (h : (f <$> p) s = (.ok b, t)) : ∃ a, p s = (.ok a, t) ∧ f a = b := by
  rw [map_apply] at h
  rcases hp : p s with ⟨r, u⟩
  rw [hp] at h
  cases r with
  | ok a =>
    cases h
    exact ⟨a, rfl, rfl⟩
  | error e => cases h

theorem eq_ok_of_toOption {r : Except ε α} {a : α} (h : r.toOption = some a) : r = .ok a := by
  cases r with
  | error e => cases h
  | ok b => exact congrArg _ (Option.some.inj h)

/-! ## Runs over lists -/

theorem forEach_append (f : α → Procedure ε σ Unit) (as bs : List α) :
    forEach f (as ++ bs) = forEach f as >>= fun _ => forEach f bs := by
  induction as with
  | nil => exact (pure_bind (m := Procedure ε σ) () fun _ => forEach f bs).symm
  | cons a rest ih =>
    show (f a >>= fun _ => forEach f (rest ++ bs)) = (f a >>= fun _ => forEach f rest) >>= _
    rw [ih, bind_assoc]

/-- What never fails for an item never fails for a list of them. -/
theorem forEach_ok {f : α → Procedure ε σ Unit} (hf : ∀ a s, (f a s).1 = .ok ()) (as : List α)
    (s : σ) : (forEach f as s).1 = .ok () := by
  induction as generalizing s with
  | nil => rfl
  | cons a rest ih =>
    rcases hr : f a s with ⟨r, t⟩
    have h := hf a s
    rw [hr] at h
    cases h
    show ((f a >>= fun _ => forEach f rest) s).1 = .ok ()
    rw [bind_ok hr]
    exact ih t

/-- What does the same for every item, as long as a property holds that it keeps, does the same for
a list of them. -/
theorem forEach_congr {P : σ → Prop} {f g : α → Procedure ε σ Unit}
    (hfg : ∀ a s, P s → f a s = g a s) (hg : ∀ a, Keeps P (g a)) (as : List α) {s : σ} (hs : P s) :
    forEach f as s = forEach g as s := by
  induction as generalizing s with
  | nil => rfl
  | cons a rest ih =>
    have ht := hg a s hs
    show (f a >>= fun _ => forEach f rest) s = (g a >>= fun _ => forEach g rest) s
    rw [bind_apply, bind_apply, hfg a s hs]
    rcases hr : g a s with ⟨r, t⟩
    rw [hr] at ht
    cases r with
    | ok _ => exact ih ht
    | error e => rfl

/-! ## Two runs -/

/-- From related states two procedures come to the same, and the states they leave are related. -/
def Parallel {τ : Type} (R : σ → τ → Prop) (p : Procedure ε σ α) (q : Procedure ε τ α) : Prop :=
  ∀ s t, R s t → (p s).1 = (q t).1 ∧ R (p s).2 (q t).2

section
variable {τ : Type} {R : σ → τ → Prop}

theorem parallel_pure (a : α) :
    Parallel R (pure a : Procedure ε σ α) (pure a : Procedure ε τ α) :=
  fun _ _ h => ⟨rfl, h⟩

theorem parallel_throw (e : ε) :
    Parallel R (throw e : Procedure ε σ α) (throw e : Procedure ε τ α) :=
  fun _ _ h => ⟨rfl, h⟩

theorem parallel_ofExcept (r : Except ε α) :
    Parallel R (ofExcept r : Procedure ε σ α) (ofExcept r : Procedure ε τ α) :=
  fun _ _ h => ⟨rfl, h⟩

theorem parallel_bind {p : Procedure ε σ α} {q : Procedure ε τ α} {f : α → Procedure ε σ β}
    {g : α → Procedure ε τ β} (hp : Parallel R p q) (hf : ∀ a, Parallel R (f a) (g a)) :
    Parallel R (p >>= f) (q >>= g) := by
  intro s t h
  obtain ⟨hr, hv⟩ := hp s t h
  rw [bind_apply, bind_apply]
  rcases hps : p s with ⟨r, u⟩
  rcases hqt : q t with ⟨r', v⟩
  rw [hps, hqt] at hr hv
  cases hr
  cases r with
  | ok a => exact hf a u v hv
  | error e => exact ⟨rfl, hv⟩

theorem parallel_map {p : Procedure ε σ α} {q : Procedure ε τ α} (f : α → β)
    (h : Parallel R p q) : Parallel R (f <$> p) (f <$> q) := by
  rw [← bind_pure_comp, ← bind_pure_comp]
  exact parallel_bind h fun a => parallel_pure (f a)

theorem parallel_discard {p : Procedure ε σ α} {q : Procedure ε τ α} (h : Parallel R p q) :
    Parallel R (discard p) (discard q) := parallel_map _ h

theorem parallel_tryCatch {p : Procedure ε σ α} {q : Procedure ε τ α} {f : ε → Procedure ε σ α}
    {g : ε → Procedure ε τ α} (hp : Parallel R p q) (hf : ∀ e, Parallel R (f e) (g e)) :
    Parallel R (tryCatch p f) (tryCatch q g) := by
  intro s t h
  obtain ⟨hr, hv⟩ := hp s t h
  rcases hps : p s with ⟨r, u⟩
  rcases hqt : q t with ⟨r', v⟩
  rw [hps, hqt] at hr hv
  cases hr
  cases r with
  | ok a =>
    rw [tryCatch_ok hps, tryCatch_ok hqt]
    exact ⟨rfl, hv⟩
  | error e =>
    rw [tryCatch_error hps, tryCatch_error hqt]
    exact hf e u v hv

theorem parallel_ignoring {taken : ε → Bool} {p : Procedure ε σ Unit} {q : Procedure ε τ Unit}
    (h : Parallel R p q) : Parallel R (ignoring taken p) (ignoring taken q) := by
  refine parallel_tryCatch h fun e => ?_
  split
  · exact parallel_pure ()
  · exact parallel_throw e

theorem parallel_attempt {p : Procedure ε σ α} {q : Procedure ε τ α} (h : Parallel R p q) :
    Parallel R p.attempt q.attempt := by
  intro s t hst
  obtain ⟨hr, hv⟩ := h s t hst
  exact ⟨congrArg Except.ok hr, hv⟩

theorem parallel_forEach {f : α → Procedure ε σ Unit} {g : α → Procedure ε τ Unit}
    (h : ∀ a, Parallel R (f a) (g a)) (as : List α) :
    Parallel R (forEach f as) (forEach g as) := by
  induction as with
  | nil => exact parallel_pure ()
  | cons a rest ih => exact parallel_bind (h a) fun _ => ih

theorem parallel_forAll {f : α → Procedure ε σ β} {g : α → Procedure ε τ β}
    (h : ∀ a, Parallel R (f a) (g a)) (as : List α) :
    Parallel R (forAll f as) (forAll g as) := by
  induction as with
  | nil => exact parallel_pure []
  | cons a rest ih =>
    exact parallel_bind (h a) fun b => parallel_bind ih fun bs => parallel_pure (b :: bs)

end

end BluetoothControl.Procedure
