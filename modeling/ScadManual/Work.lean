import ScadManual.Error

/-!
# Work on a state

Steps that change a state and may stop with an error.  What was done before a step stopped stays done: an
error says why the work went no further, and not that it never began.
-/

namespace ScadManual

/-- Work on a state: it gives a value or stops with an error. -/
abbrev Work (S α : Type) := ExceptT Error (StateM S) α

namespace Work

variable {S α β : Type}

/-- What work on a state leads to: its value, or the error that stopped it, and the state afterwards. -/
def exec (x : Work S α) (s : S) : Except Error α × S := (ExceptT.run x).run s

/-- Looks something up in the state. -/
def read (f : S → α) : Work S α := return f (← get)

/-- Changes the state. -/
def update (f : S → S) : Work S Unit := modify f

/-- Does the work and goes on even if it stopped. -/
def attempt (x : Work S α) : Work S (Except Error α) :=
  ExceptT.mk (Except.ok <$> ExceptT.run x)

/-! ## What the steps lead to -/

@[simp] theorem exec_pure (a : α) (s : S) : (pure a : Work S α).exec s = (.ok a, s) := rfl

@[simp] theorem exec_throw (e : Error) (s : S) : (throw e : Work S α).exec s = (.error e, s) := rfl

@[simp] theorem exec_lift (x : Except Error α) (s : S) : (liftM x : Work S α).exec s = (x, s) := rfl

@[simp] theorem exec_read (f : S → α) (s : S) : (read f).exec s = (.ok (f s), s) := rfl

@[simp] theorem exec_update (f : S → S) (s : S) : (update f).exec s = (.ok (), f s) := rfl

@[simp] theorem exec_attempt (x : Work S α) (s : S) : (attempt x).exec s = (.ok (x.exec s).1, (x.exec s).2) := rfl

theorem exec_ite (c : Prop) [Decidable c] (x y : Work S α) (s : S) :
    (if c then x else y).exec s = if c then x.exec s else y.exec s := by
  split <;> rfl

/-- Work in a row: the second starts where the first ended, unless that stopped. -/
theorem exec_bind (x : Work S α) (f : α → Work S β) (s : S) :
    (x >>= f).exec s =
      match x.exec s with
      | (.ok a, s') => (f a).exec s'
      | (.error e, s') => (.error e, s') := by
  show (match x s with | (a, s') => ExceptT.bindCont f a s') =
    match x s with
    | (.ok a, s') => (f a).exec s'
    | (.error e, s') => (.error e, s')
  rcases x s with ⟨r, s'⟩
  cases r <;> rfl

theorem exec_bind_of_ok {x : Work S α} {s s' : S} {a : α} (h : x.exec s = (.ok a, s')) (f : α → Work S β) :
    (x >>= f).exec s = (f a).exec s' := by
  rw [exec_bind, h]

theorem exec_bind_of_error {x : Work S α} {s s' : S} {e : Error} (h : x.exec s = (.error e, s'))
    (f : α → Work S β) : (x >>= f).exec s = (.error e, s') := by
  rw [exec_bind, h]

/-- Work in a row gives a value when each part of it does. -/
theorem exec_bind_eq_ok {x : Work S α} {f : α → Work S β} {s s' : S} {b : β}
    (h : (x >>= f).exec s = (.ok b, s')) : ∃ a mid, x.exec s = (.ok a, mid) ∧ (f a).exec mid = (.ok b, s') := by
  rcases hx : x.exec s with ⟨r, mid⟩
  cases r with
  | error e =>
    rw [exec_bind_of_error hx] at h
    simp at h
  | ok a =>
    rw [exec_bind_of_ok hx] at h
    exact ⟨a, mid, rfl, h⟩

@[simp] theorem exec_read_bind (g : S → α) (f : α → Work S β) (s : S) : (read g >>= f).exec s = (f (g s)).exec s :=
  rfl

@[simp] theorem exec_update_bind (g : S → S) (f : Unit → Work S β) (s : S) :
    (update g >>= f).exec s = (f ()).exec (g s) :=
  rfl

/-- A check that fails stops the work at once. -/
theorem exec_lift_bind (x : Except Error α) (f : α → Work S β) (s : S) :
    ((liftM x : Work S α) >>= f).exec s =
      match x with
      | .ok a => (f a).exec s
      | .error e => (.error e, s) := by
  rw [exec_bind, exec_lift]
  cases x <;> rfl

theorem exec_lift_bind_eq_ok {x : Except Error α} {f : α → Work S β} {s s' : S} {b : β}
    (h : ((liftM x : Work S α) >>= f).exec s = (.ok b, s')) : ∃ a, x = .ok a ∧ (f a).exec s = (.ok b, s') := by
  rw [exec_lift_bind] at h
  cases x with
  | error e => simp at h
  | ok a => exact ⟨a, rfl, h⟩

end Work

end ScadManual
