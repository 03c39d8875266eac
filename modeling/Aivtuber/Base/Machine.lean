import Mathlib.Data.List.Perm.Subperm

/-!
# Deterministic machines and the monitors that watch them

A `Machine` moves from a state on an input and emits an output.  A property of
whole runs is rarely a property of states alone: which tokens were handed out,
which plans were accepted, what was drained.  Such history is kept in a
*monitor*, a ghost value updated from each observed step (`Event`), so that the
machine itself carries no field its program does not have.

The rules of the file are the induction rules for runs:

* `run_invariant` for a property of states;
* `invariant` for a relation between the state and a monitor, along runs all of
  whose steps meet a side condition (`Meets`), and `meets_of_invariant` for what
  such a relation gives at each step.
-/

universe u v w x

/-- A deterministic machine with states `σ`, inputs `ι` and outputs `ο`. -/
structure Machine (σ : Type u) (ι : Type v) (ο : Type w) where
  /-- The next state and the output on an input. -/
  step : σ → ι → σ × ο

namespace Machine

variable {σ : Type u} {ι : Type v} {ο : Type w} {γ : Type x}

/-- One observed step of a machine. -/
structure Event (σ : Type u) (ι : Type v) (ο : Type w) where
  /-- The state before the step. -/
  pre : σ
  /-- The input of the step. -/
  input : ι
  /-- The state after the step. -/
  post : σ
  /-- The output of the step. -/
  output : ο

variable (M : Machine σ ι ο)

/-- The state after one step. -/
def next (s : σ) (i : ι) : σ := (M.step s i).1

/-- The step from `s` on `i`, as a monitor sees it. -/
def event (s : σ) (i : ι) : Event σ ι ο := ⟨s, i, (M.step s i).1, (M.step s i).2⟩

/-- The state after a list of inputs. -/
def run (s : σ) (is : List ι) : σ := is.foldl M.next s

/-- The value of the monitor `u`, started at `g`, after a run from `s`. -/
def watch (u : γ → Event σ ι ο → γ) : σ → γ → List ι → γ
  | _, g, [] => g
  | s, g, i :: is => watch u (M.next s i) (u g (M.event s i)) is

/-- Every step of the run from `s` meets `C`, which sees the value of the
monitor before the step. -/
def Meets (u : γ → Event σ ι ο → γ) (C : γ → Event σ ι ο → Prop) : σ → γ → List ι → Prop
  | _, _, [] => True
  | s, g, i :: is => C g (M.event s i) ∧ Meets u C (M.next s i) (u g (M.event s i)) is

instance Meets.decidable (u : γ → Event σ ι ο → γ) (C : γ → Event σ ι ο → Prop)
    [∀ g e, Decidable (C g e)] : ∀ (s : σ) (g : γ) (is : List ι), Decidable (M.Meets u C s g is)
  | _, _, [] => inferInstanceAs (Decidable True)
  | s, g, i :: is =>
    have := Meets.decidable u C (M.next s i) (u g (M.event s i)) is
    inferInstanceAs (Decidable (_ ∧ _))

/-- The outputs of a run. -/
def outputs : σ → List ι → List ο
  | _, [] => []
  | s, i :: is => (M.step s i).2 :: outputs (M.next s i) is

@[simp] theorem run_nil (s : σ) : M.run s [] = s := rfl

@[simp] theorem run_cons (s : σ) (i : ι) (is : List ι) :
    M.run s (i :: is) = M.run (M.next s i) is := rfl

theorem run_append (s : σ) (is js : List ι) : M.run s (is ++ js) = M.run (M.run s is) js :=
  List.foldl_append

theorem run_concat (s : σ) (is : List ι) (i : ι) :
    M.run s (is ++ [i]) = M.next (M.run s is) i := by rw [run_append]; rfl

@[simp] theorem watch_nil (u : γ → Event σ ι ο → γ) (s : σ) (g : γ) : M.watch u s g [] = g := rfl

@[simp] theorem watch_cons (u : γ → Event σ ι ο → γ) (s : σ) (g : γ) (i : ι) (is : List ι) :
    M.watch u s g (i :: is) = M.watch u (M.next s i) (u g (M.event s i)) is := rfl

theorem watch_append (u : γ → Event σ ι ο → γ) (s : σ) (g : γ) (is js : List ι) :
    M.watch u s g (is ++ js) = M.watch u (M.run s is) (M.watch u s g is) js := by
  induction is generalizing s g with
  | nil => rfl
  | cons i is ih => exact ih _ _

theorem watch_concat (u : γ → Event σ ι ο → γ) (s : σ) (g : γ) (is : List ι) (i : ι) :
    M.watch u s g (is ++ [i]) = u (M.watch u s g is) (M.event (M.run s is) i) := by
  rw [watch_append]; rfl

@[simp] theorem meets_nil (u : γ → Event σ ι ο → γ) (C : γ → Event σ ι ο → Prop) (s : σ) (g : γ) :
    M.Meets u C s g [] := trivial

@[simp] theorem meets_cons {u : γ → Event σ ι ο → γ} {C : γ → Event σ ι ο → Prop} {s : σ} {g : γ}
    {i : ι} {is : List ι} : M.Meets u C s g (i :: is) ↔
      C g (M.event s i) ∧ M.Meets u C (M.next s i) (u g (M.event s i)) is := Iff.rfl

theorem meets_append {u : γ → Event σ ι ο → γ} {C : γ → Event σ ι ο → Prop} {s : σ} {g : γ}
    {is js : List ι} : M.Meets u C s g (is ++ js) ↔
      M.Meets u C s g is ∧ M.Meets u C (M.run s is) (M.watch u s g is) js := by
  induction is generalizing s g with
  | nil => simp
  | cons i is ih => simp [ih, and_assoc]

theorem Meets.imp {u : γ → Event σ ι ο → γ} {C D : γ → Event σ ι ο → Prop} {s : σ} {g : γ}
    {is : List ι} (h : M.Meets u C s g is) (hCD : ∀ s g i, C g (M.event s i) → D g (M.event s i)) :
    M.Meets u D s g is := by
  induction is generalizing s g with
  | nil => trivial
  | cons i is ih => exact ⟨hCD s g i h.1, ih h.2⟩

theorem meets_and {u : γ → Event σ ι ο → γ} {C D : γ → Event σ ι ο → Prop} {s : σ} {g : γ}
    {is : List ι} : M.Meets u (fun g e ↦ C g e ∧ D g e) s g is ↔
      M.Meets u C s g is ∧ M.Meets u D s g is := by
  induction is generalizing s g with
  | nil => simp
  | cons i is ih => rw [meets_cons, meets_cons, meets_cons, ih, and_and_and_comm]

/-- Every step meets `C` exactly when `C` holds at each step of the run, read off
at the prefix that leads to it. -/
theorem meets_iff_prefix {u : γ → Event σ ι ο → γ} {C : γ → Event σ ι ο → Prop} {s : σ} {g : γ}
    {is : List ι} : M.Meets u C s g is ↔
      ∀ js i ks, is = js ++ i :: ks → C (M.watch u s g js) (M.event (M.run s js) i) := by
  constructor
  · rintro h js i ks rfl
    exact (M.meets_append.mp h).2.1
  · intro h
    induction is generalizing s g with
    | nil => trivial
    | cons i is ih =>
      refine ⟨h [] i is rfl, ih fun js j ks hjs ↦ ?_⟩
      exact h (i :: js) j ks (by rw [hjs]; rfl)

/-- **Invariants of states.**  What every step preserves holds after every run. -/
theorem run_invariant {P : σ → Prop} (hstep : ∀ s i, P s → P (M.next s i)) {s : σ} (h : P s)
    (is : List ι) : P (M.run s is) := by
  induction is generalizing s with
  | nil => exact h
  | cons i is ih => exact ih (hstep s i h)

/-- **Invariants with history.**  What every step meeting `C` preserves, between
the state and the monitor, holds after every run all of whose steps meet `C`. -/
theorem invariant {u : γ → Event σ ι ο → γ} {C : γ → Event σ ι ο → Prop} {P : σ → γ → Prop}
    (hstep : ∀ s g i, P s g → C g (M.event s i) → P (M.next s i) (u g (M.event s i)))
    {s : σ} {g : γ} (h : P s g) {is : List ι} (hC : M.Meets u C s g is) :
    P (M.run s is) (M.watch u s g is) := by
  induction is generalizing s g with
  | nil => exact h
  | cons i is ih => exact ih (hstep s g i h hC.1) hC.2

/-- **Step properties.**  What an invariant gives at each step meeting `C` holds at
every step of a run all of whose steps meet `C`. -/
theorem meets_of_invariant {u : γ → Event σ ι ο → γ} {C Q : γ → Event σ ι ο → Prop}
    {P : σ → γ → Prop}
    (hstep : ∀ s g i, P s g → C g (M.event s i) → P (M.next s i) (u g (M.event s i)))
    (hprop : ∀ s g i, P s g → C g (M.event s i) → Q g (M.event s i))
    {s : σ} {g : γ} (h : P s g) {is : List ι} (hC : M.Meets u C s g is) : M.Meets u Q s g is := by
  induction is generalizing s g with
  | nil => trivial
  | cons i is ih => exact ⟨hprop s g i h hC.1, ih (hstep s g i h hC.1) hC.2⟩

/-- The invariant rule for runs without a side condition. -/
theorem watch_invariant {u : γ → Event σ ι ο → γ} {P : σ → γ → Prop}
    (hstep : ∀ s g i, P s g → P (M.next s i) (u g (M.event s i)))
    {s : σ} {g : γ} (h : P s g) (is : List ι) : P (M.run s is) (M.watch u s g is) := by
  induction is generalizing s g with
  | nil => exact h
  | cons i is ih => exact ih (hstep s g i h)

/-- The rule for step properties of runs without a side condition. -/
theorem meets_of_watch {u : γ → Event σ ι ο → γ} {Q : γ → Event σ ι ο → Prop} {P : σ → γ → Prop}
    (hstep : ∀ s g i, P s g → P (M.next s i) (u g (M.event s i)))
    (hprop : ∀ s g i, P s g → Q g (M.event s i))
    {s : σ} {g : γ} (h : P s g) (is : List ι) : M.Meets u Q s g is := by
  induction is generalizing s g with
  | nil => trivial
  | cons i is ih => exact ⟨hprop s g i h, ih (hstep s g i h)⟩

/-- Two step properties that an invariant makes equivalent hold of the same runs.  The
invariant may be kept only by the steps with the property. -/
theorem meets_congr_of_watch {u : γ → Event σ ι ο → γ} {Q R : γ → Event σ ι ο → Prop}
    {P : σ → γ → Prop}
    (hstep : ∀ s g i, P s g → Q g (M.event s i) → P (M.next s i) (u g (M.event s i)))
    (hiff : ∀ s g i, P s g → (Q g (M.event s i) ↔ R g (M.event s i)))
    {s : σ} {g : γ} (h : P s g) (is : List ι) : M.Meets u Q s g is ↔ M.Meets u R s g is := by
  induction is generalizing s g with
  | nil => exact Iff.rfl
  | cons i is ih =>
    rw [meets_cons, meets_cons, ← hiff s g i h]
    exact and_congr_right fun hQ ↦ ih (hstep s g i h hQ)

/-- **Conservation.**  If no step lets out more than is held and comes in, nothing that a
run lets out was neither held at its start nor came in. -/
theorem flatMap_outputs_subperm {α : Type*} {held : σ → List α} {out inp : ο → List α}
    (hstep : ∀ s i, (out (M.step s i).2 ++ held (M.next s i)).Subperm
      (held s ++ inp (M.step s i).2)) (s : σ) (is : List ι) :
    ((M.outputs s is).flatMap out).Subperm (held s ++ (M.outputs s is).flatMap inp) := by
  induction is generalizing s with
  | nil => exact List.nil_subperm
  | cons i is ih =>
    rw [outputs, List.flatMap_cons, List.flatMap_cons, ← List.append_assoc]
    refine ((List.subperm_append_left _).mpr (ih _)).trans ?_
    rw [← List.append_assoc]
    exact (List.subperm_append_right _).mpr (hstep s i)

end Machine
