/-!
# Methods that may return early

The body of a method mutates its receiver statement by statement, and a failed check
returns at once: what has been written by then stays written.  `Method` is that reading
of a body, so that leaving the receiver alone on failure is something to prove.

The rules of the file run a body from its receiver (`write_bind`, `read_bind`), and
compare it with a computation that is undone when it fails (`attempt`): the two agree as
long as the body only checks (`check_bind`).
-/

/-- A body over a receiver of type `σ`, which returns a value or an error. -/
structure Method (σ ε α : Type) where
  /-- What the body does to its receiver, and what it returns. -/
  run : σ → σ × Except ε α

namespace Method

variable {σ ε α β : Type}

instance : Monad (Method σ ε) where
  pure a := ⟨fun s ↦ (s, .ok a)⟩
  bind m f := ⟨fun s ↦
    match m.run s with
    | (s', .ok a) => (f a).run s'
    | (s', .error e) => (s', .error e)⟩

/-- A statement that reads the receiver and may fail. -/
def check (f : σ → Except ε α) : Method σ ε α := ⟨fun s ↦ (s, f s)⟩

/-- A statement that writes to the receiver. -/
def write (f : σ → σ) : Method σ ε Unit := ⟨fun s ↦ (f s, .ok ())⟩

/-- The value that a body reads off the receiver. -/
def read (f : σ → α) : Method σ ε α := ⟨fun s ↦ (s, .ok (f s))⟩

/-- Go on once the checks in front have passed. -/
def afterChecks {γ : Type} (s : σ) (checks : Except ε γ) (rest : γ → σ × Except ε α) :
    σ × Except ε α :=
  match checks with
  | .ok c => rest c
  | .error e => (s, .error e)

/-- The result of a computation that is undone when it fails. -/
def attempt (s : σ) (computation : Except ε (σ × α)) : σ × Except ε α :=
  afterChecks s computation fun result ↦ (result.1, .ok result.2)

section Run

variable {s s' : σ} {e : ε} {a : α} {m : Method σ ε α} {f : α → Method σ ε β}

theorem bind_of_ok (h : m.run s = (s', .ok a)) : (m >>= f).run s = (f a).run s' := by
  change (match m.run s with
    | (s', .ok a) => (f a).run s'
    | (s', .error e) => (s', .error e)) = _
  rw [h]

theorem bind_of_error (h : m.run s = (s', .error e)) : (m >>= f).run s = (s', .error e) := by
  change (match m.run s with
    | (s', .ok a) => (f a).run s'
    | (s', .error e) => (s', .error e)) = _
  rw [h]

@[simp] theorem run_pure : (pure a : Method σ ε α).run s = (s, .ok a) := rfl

@[simp] theorem write_bind {g : σ → σ} {f : Unit → Method σ ε β} :
    (write g >>= f).run s = (f ()).run (g s) := bind_of_ok rfl

@[simp] theorem read_bind {g : σ → α} : (read g >>= f).run s = (f (g s)).run s := bind_of_ok rfl

theorem check_bind_of_ok {g : σ → Except ε α} (h : g s = .ok a) :
    (check g >>= f).run s = (f a).run s :=
  bind_of_ok (congrArg (Prod.mk s) h)

theorem run_map {g : α → β} : (g <$> m).run s = ((m.run s).1, (m.run s).2.map g) := by
  cases h : m.run s with
  | mk s' r =>
    cases r with
    | ok a => exact bind_of_ok h
    | error e => exact bind_of_error h

/-- **A check** of the body is one of the checks in front. -/
theorem check_bind {γ : Type} {g : σ → Except ε α} {k : α → Except ε γ}
    {rest : γ → σ × Except ε β}
    (h : ∀ a, g s = .ok a → (f a).run s = afterChecks s (k a) rest) :
    (check g >>= f).run s = afterChecks s (g s >>= k) rest := by
  cases hg : g s with
  | error e => exact bind_of_error (congrArg (Prod.mk s) hg)
  | ok a => exact (check_bind_of_ok hg).trans (h a hg)

/-- The same for a check without a value. -/
theorem check_unit_bind {γ : Type} {g : σ → Except ε Unit} {f : Unit → Method σ ε β}
    {k : Except ε γ} {rest : γ → σ × Except ε β}
    (h : g s = .ok () → (f ()).run s = afterChecks s k rest) :
    (check g >>= f).run s = afterChecks s (g s >>= fun _ ↦ k) rest :=
  check_bind fun _ ha ↦ h ha

end Run

end Method
