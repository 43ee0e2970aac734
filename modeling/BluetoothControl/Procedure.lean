/-!
# Procedures

A procedure over a state answers or stops with a failure, and either way leaves a state behind:
what it did before it stopped stays done.
-/

namespace BluetoothControl

/-- A procedure over states `σ` that answers with an `α` or stops with an `ε`. -/
def Procedure (ε σ α : Type) : Type := σ → Except ε α × σ

namespace Procedure

variable {ε σ α β : Type}

instance : Monad (Procedure ε σ) where
  pure a := fun s => (.ok a, s)
  bind p f := fun s =>
    match p s with
    | (.ok a, t) => f a t
    | (.error e, t) => (.error e, t)

instance : MonadExceptOf ε (Procedure ε σ) where
  throw e := fun s => (.error e, s)
  tryCatch p handler := fun s =>
    match p s with
    | (.ok a, t) => (.ok a, t)
    | (.error e, t) => handler e t

instance : MonadStateOf σ (Procedure ε σ) where
  get := fun s => (.ok s, s)
  set t := fun _ => (.ok (), t)
  modifyGet f := fun s => let (a, t) := f s; (.ok a, t)

/-- A procedure whose failure is part of its answer. -/
def attempt (p : Procedure ε σ α) : Procedure ε σ (Except ε α) := fun s =>
  let (r, t) := p s
  (.ok r, t)

/-- A result as a procedure. -/
def ofExcept (r : Except ε α) : Procedure ε σ α := fun s => (r, s)

/-- A procedure with the failures that `taken` accepts swallowed. -/
def ignoring (taken : ε → Bool) (p : Procedure ε σ Unit) : Procedure ε σ Unit :=
  tryCatch p fun e => if taken e then pure () else throw e

/-- A procedure run for each item in turn. -/
def forEach (f : α → Procedure ε σ Unit) : List α → Procedure ε σ Unit
  | [] => pure ()
  | a :: rest => do
    f a
    forEach f rest

/-- The answers to each item in turn. -/
def forAll (f : α → Procedure ε σ β) : List α → Procedure ε σ (List β)
  | [] => pure []
  | a :: rest => do
    let b ← f a
    let bs ← forAll f rest
    return b :: bs

/-! ## Lemmas -/

theorem pure_apply (a : α) (s : σ) : (pure a : Procedure ε σ α) s = (.ok a, s) := rfl

theorem throw_apply (e : ε) (s : σ) : (throw e : Procedure ε σ α) s = (.error e, s) := rfl

theorem get_apply (s : σ) : (get : Procedure ε σ σ) s = (.ok s, s) := rfl

theorem modify_apply (f : σ → σ) (s : σ) : (modify f : Procedure ε σ Unit) s = (.ok (), f s) := rfl

theorem modifyGet_apply (f : σ → α × σ) (s : σ) :
    (modifyGet f : Procedure ε σ α) s = (.ok (f s).1, (f s).2) := rfl

theorem ofExcept_apply (r : Except ε α) (s : σ) : (ofExcept r : Procedure ε σ α) s = (r, s) := rfl

theorem bind_ok {p : Procedure ε σ α} {f : α → Procedure ε σ β} {s t : σ} {a : α}
    (h : p s = (.ok a, t)) : (p >>= f) s = f a t := by
  show (match p s with | (.ok a, t) => f a t | (.error e, t) => (.error e, t)) = _
  rw [h]

theorem bind_error {p : Procedure ε σ α} {f : α → Procedure ε σ β} {s t : σ} {e : ε}
    (h : p s = (.error e, t)) : (p >>= f) s = (.error e, t) := by
  show (match p s with | (.ok a, t) => f a t | (.error e, t) => (.error e, t)) = _
  rw [h]

theorem bind_apply (p : Procedure ε σ α) (f : α → Procedure ε σ β) (s : σ) :
    (p >>= f) s = match p s with
      | (.ok a, t) => f a t
      | (.error e, t) => (.error e, t) := rfl

theorem id_map_apply (p : Procedure ε σ α) : id <$> p = p := by
  funext s
  show (match p s with
    | (.ok a, t) => ((.ok a, t) : Except ε α × σ)
    | (.error e, t) => (.error e, t)) = p s
  rcases p s with ⟨r, t⟩
  cases r <;> rfl

theorem map_apply (f : α → β) (p : Procedure ε σ α) (s : σ) :
    (f <$> p) s = ((p s).1.map f, (p s).2) := by
  show (match p s with
    | (.ok a, t) => ((.ok (f a), t) : Except ε β × σ)
    | (.error e, t) => (.error e, t)) = _
  rcases p s with ⟨r, t⟩
  cases r <;> rfl

theorem discard_apply (p : Procedure ε σ α) (s : σ) :
    discard p s = ((p s).1.map fun _ => (), (p s).2) := map_apply _ p s

instance : LawfulMonad (Procedure ε σ) :=
  LawfulMonad.mk' _ id_map_apply (fun _ _ => rfl) fun p _ _ => by
    funext s
    simp only [bind_apply]
    rcases p s with ⟨r, t⟩
    cases r <;> rfl

theorem tryCatch_ok {p : Procedure ε σ α} {handler : ε → Procedure ε σ α} {s t : σ} {a : α}
    (h : p s = (.ok a, t)) : tryCatch p handler s = (.ok a, t) := by
  show (match p s with
    | (.ok a, t) => (Except.ok a, t)
    | (.error e, t) => handler e t) = _
  rw [h]

theorem tryCatch_error {p : Procedure ε σ α} {handler : ε → Procedure ε σ α} {s t : σ} {e : ε}
    (h : p s = (.error e, t)) : tryCatch p handler s = handler e t := by
  show (match p s with
    | (.ok a, t) => (Except.ok a, t)
    | (.error e, t) => handler e t) = _
  rw [h]

/-- What is swallowed leaves the state that the failure left. -/
theorem ignoring_apply (taken : ε → Bool) (p : Procedure ε σ Unit) (s : σ) :
    ignoring taken p s = match p s with
      | (.ok (), t) => (.ok (), t)
      | (.error e, t) => (if taken e then .ok () else .error e, t) := by
  rcases h : p s with ⟨r, t⟩
  cases r with
  | ok _ => exact tryCatch_ok h
  | error e =>
    refine (tryCatch_error h).trans ?_
    dsimp only
    split <;> rfl

theorem attempt_apply (p : Procedure ε σ α) (s : σ) : attempt p s = (.ok (p s).1, (p s).2) := rfl

end Procedure

end BluetoothControl
