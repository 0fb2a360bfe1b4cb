import Mathlib.Algebra.BigOperators.Group.List.Basic
import Mathlib.Algebra.Order.Monoid.Defs
import Mathlib.Data.List.Induction
import Mathlib.Logic.Relation

/-! # Runs of a transition system

A transition system is its step relation `step s e t`: in state `s` the event `e` may happen and
leads to `t`. A *run* `Run step s₀ tr s` leads from `s₀` to `s`; its trace `tr` lists every step as
the state it was taken in and the event, so that a condition on single steps is a condition on the
entries of the trace (`Along`) and a property of every state passed is one of the entries and the
last state (`Always`).

* `Run.invariant`: what one step keeps, under a condition on the step, holds in every state of a
  run whose steps meet the condition.
* `Run.always_along_iff`: if a step from a good state is good and leads to a good state exactly when
  it meets the condition, a run stays good exactly when all its steps meet it.
* `Run.simulates`: if every step is matched by steps of an abstract system, so is every run.
* `Run.le_add_sum`: if no step lets a potential fall by more than it costs, no run does. -/

namespace LanternProject.Lib.Runs

variable {σ ε α : Type*}

/-- A run from `s₀`, with the steps it took. -/
inductive Run (step : σ → ε → σ → Prop) (s₀ : σ) : List (σ × ε) → σ → Prop
  | nil : Run step s₀ [] s₀
  | snoc {tr : List (σ × ε)} {s t : σ} {e : ε} (hr : Run step s₀ tr s) (hs : step s e t) :
      Run step s₀ (tr ++ [(s, e)]) t

/-- Every step of the trace meets the condition `C`. -/
def Along (C : σ → ε → Prop) (tr : List (σ × ε)) : Prop := ∀ p ∈ tr, C p.1 p.2

/-- Every state of a run with trace `tr` and last state `s` has the property `P`. -/
def Always (P : σ → Prop) (tr : List (σ × ε)) (s : σ) : Prop := (∀ p ∈ tr, P p.1) ∧ P s

@[simp] theorem along_nil (C : σ → ε → Prop) : Along C [] := by simp [Along]

@[simp] theorem along_snoc {C : σ → ε → Prop} {tr : List (σ × ε)} {s : σ} {e : ε} :
    Along C (tr ++ [(s, e)]) ↔ Along C tr ∧ C s e := by
  simp only [Along, List.mem_append, List.mem_singleton]
  constructor
  · intro h
    exact ⟨fun p hp => h p (Or.inl hp), h (s, e) (Or.inr rfl)⟩
  · rintro ⟨h, he⟩ p (hp | rfl)
    · exact h p hp
    · exact he

@[simp] theorem always_nil {P : σ → Prop} {s : σ} : Always P ([] : List (σ × ε)) s ↔ P s := by
  simp [Always]

@[simp] theorem always_snoc {P : σ → Prop} {tr : List (σ × ε)} {s t : σ} {e : ε} :
    Always P (tr ++ [(s, e)]) t ↔ Always P tr s ∧ P t := by
  simp only [Always, List.mem_append, List.mem_singleton]
  constructor
  · rintro ⟨h, ht⟩
    exact ⟨⟨fun p hp => h p (Or.inl hp), h (s, e) (Or.inr rfl)⟩, ht⟩
  · rintro ⟨⟨h, hs⟩, ht⟩
    refine ⟨?_, ht⟩
    rintro p (hp | rfl)
    · exact h p hp
    · exact hs

theorem Always.last {P : σ → Prop} {tr : List (σ × ε)} {s : σ} (h : Always P tr s) : P s := h.2

section Rules
variable {step : σ → ε → σ → Prop} {s₀ s : σ} {tr : List (σ × ε)}

/-- **Invariants of runs**: what a step under the condition `C` keeps holds in every state of a
run along which `C` holds. -/
theorem Run.invariant {I : σ → Prop} {C : σ → ε → Prop} (h0 : I s₀)
    (hstep : ∀ s e t, I s → C s e → step s e t → I t) (hr : Run step s₀ tr s) (hC : Along C tr) :
    Always I tr s := by
  induction hr with
  | nil => exact always_nil.mpr h0
  | snoc _ hs ih =>
    obtain ⟨hC, he⟩ := along_snoc.mp hC
    have hI := ih hC
    exact always_snoc.mpr ⟨hI, hstep _ _ _ hI.last he hs⟩

/-- The same for what every step keeps. -/
theorem Run.invariant' {I : σ → Prop} (h0 : I s₀) (hstep : ∀ s e t, I s → step s e t → I t)
    (hr : Run step s₀ tr s) : I s :=
  (hr.invariant (C := fun _ _ => True) h0 (fun s e t hI _ hs => hstep s e t hI hs)
    (fun _ _ => trivial)).last

/-- **Exact conditions**: under the invariant `I` and the standing assumption `A` on steps, let a
step from a state with `P` have the property `Q` and lead to a state with `P` exactly when it meets
`C`. Then all states of a run have `P` and all its steps `Q` exactly when all its steps meet `C`. -/
theorem Run.always_along_iff {I P : σ → Prop} {A Q C : σ → ε → Prop} (h0 : I s₀) (hP0 : P s₀)
    (hI : ∀ s e t, I s → P s → A s e → step s e t → P t → I t)
    (hP : ∀ s e t, I s → P s → A s e → step s e t → (Q s e ∧ P t ↔ C s e))
    (hr : Run step s₀ tr s) (hA : Along A tr) :
    Along Q tr ∧ Always P tr s ↔ Along C tr := by
  have key : (Along Q tr ∧ Always P tr s ↔ Along C tr) ∧ (Always P tr s → I s) := by
    induction hr with
    | nil => exact ⟨by simp [hP0], fun _ => h0⟩
    | snoc _ hs ih =>
      obtain ⟨hA, he⟩ := along_snoc.mp hA
      obtain ⟨ih1, ih2⟩ := ih hA
      rw [always_snoc, along_snoc, along_snoc]
      refine ⟨?_, ?_⟩
      · constructor
        · rintro ⟨⟨hQ, hq⟩, h, ht⟩
          exact ⟨ih1.mp ⟨hQ, h⟩, (hP _ _ _ (ih2 h) h.last he hs).mp ⟨hq, ht⟩⟩
        · rintro ⟨h, hc⟩
          obtain ⟨hQ, h'⟩ := ih1.mpr h
          obtain ⟨hq, ht⟩ := (hP _ _ _ (ih2 h') h'.last he hs).mpr hc
          exact ⟨⟨hQ, hq⟩, h', ht⟩
      · rintro ⟨h, ht⟩
        exact hI _ _ _ (ih2 h) h.last he hs ht
  exact key.1

/-- The same for a property of states alone. -/
theorem Run.always_iff_along {I P : σ → Prop} {A C : σ → ε → Prop} (h0 : I s₀) (hP0 : P s₀)
    (hI : ∀ s e t, I s → P s → A s e → step s e t → P t → I t)
    (hP : ∀ s e t, I s → P s → A s e → step s e t → (P t ↔ C s e))
    (hr : Run step s₀ tr s) (hA : Along A tr) :
    Always P tr s ↔ Along C tr := by
  have hboth := hr.always_along_iff (Q := fun _ _ => True) h0 hP0 hI
    (fun s e t hi hp ha hs => (iff_of_eq (true_and _)).trans (hP s e t hi hp ha hs)) hA
  rw [← hboth]
  exact ⟨fun h => ⟨fun _ _ => trivial, h⟩, fun h => h.2⟩

/-- **Simulation**: let every step under the condition `C` from a state with the invariant `I` be
matched, along the abstraction `f`, by steps of `R`. Then so is every run along which `C` holds. -/
theorem Run.simulates {I : σ → Prop} {C : σ → ε → Prop} {f : σ → α} {R : α → α → Prop}
    (h0 : I s₀) (hstep : ∀ s e t, I s → C s e → step s e t → I t)
    (hsim : ∀ s e t, I s → C s e → step s e t → Relation.ReflTransGen R (f s) (f t))
    (hr : Run step s₀ tr s) (hC : Along C tr) : Relation.ReflTransGen R (f s₀) (f s) := by
  induction hr with
  | nil => exact Relation.ReflTransGen.refl
  | snoc hr hs ih =>
    obtain ⟨hC, he⟩ := along_snoc.mp hC
    have hI := (hr.invariant h0 hstep hC).last
    exact (ih hC).trans (hsim _ _ _ hI he hs)

/-- A run of the steps that meet `C` is a run all of whose steps meet `C`. -/
theorem Run.of_restricted {C : σ → ε → Prop} (hr : Run (fun s e t => C s e ∧ step s e t) s₀ tr s) :
    Run step s₀ tr s ∧ Along C tr := by
  induction hr with
  | nil => exact ⟨Run.nil, by simp⟩
  | snoc _ hs ih => exact ⟨ih.1.snoc hs.2, along_snoc.mpr ⟨ih.2, hs.1⟩⟩

/-- Conditions that agree on steps hold along the same runs. -/
theorem Run.along_congr {C D : σ → ε → Prop} (h : ∀ s e t, step s e t → (C s e ↔ D s e))
    (hr : Run step s₀ tr s) : Along C tr ↔ Along D tr := by
  induction hr with
  | nil => simp
  | snoc _ hs ih => rw [along_snoc, along_snoc, ih, h _ _ _ hs]

/-- The last step of a run. -/
theorem Run.of_snoc {u : σ} {e : ε} (hr : Run step s₀ (tr ++ [(u, e)]) s) :
    Run step s₀ tr u ∧ step u e s := by
  generalize h : tr ++ [(u, e)] = tr' at hr
  rcases hr with _ | ⟨hr, hs⟩
  · exact absurd h (by simp)
  · obtain ⟨rfl, he⟩ := List.append_inj' h rfl
    obtain ⟨rfl, rfl⟩ := Prod.mk.inj (List.singleton_inj.mp he)
    exact ⟨hr, hs⟩

/-- A run is a run to any of its steps, the step, and a run from there. -/
theorem Run.split {pre mid : List (σ × ε)} {u : σ} {e : ε}
    (hr : Run step s₀ (pre ++ (u, e) :: mid) s) :
    ∃ t, Run step s₀ pre u ∧ step u e t ∧ Run step t mid s := by
  induction mid using List.reverseRecOn generalizing s with
  | nil =>
    obtain ⟨hr, hs⟩ := hr.of_snoc
    exact ⟨s, hr, hs, Run.nil⟩
  | append_singleton mid p ih =>
    have hassoc : pre ++ (u, e) :: (mid ++ [p]) = (pre ++ (u, e) :: mid) ++ [(p.1, p.2)] := by simp
    rw [hassoc] at hr
    obtain ⟨hr, hp⟩ := hr.of_snoc
    obtain ⟨t, hpre, he, hmid⟩ := ih hr
    exact ⟨t, hpre, he, hmid.snoc hp⟩

/-- **Potentials**: along a run a potential falls by at most what the steps cost. -/
theorem Run.le_add_sum {M : Type*} [AddCommMonoid M] [Preorder M] [IsOrderedAddMonoid M]
    {f : σ → M} {cost : ε → M} (hstep : ∀ s e t, step s e t → f s ≤ f t + cost e)
    (hr : Run step s₀ tr s) : f s₀ ≤ f s + (tr.map fun p => cost p.2).sum := by
  induction hr with
  | nil => simp
  | snoc _ hs ih =>
    rename_i u t e _
    rw [List.map_append, List.sum_append, List.map_singleton, List.sum_singleton]
    calc f s₀ ≤ f u + _ := ih
      _ ≤ (f t + cost e) + _ := by gcongr; exact hstep _ _ _ hs
      _ = _ := by rw [add_assoc, add_comm (cost e)]

end Rules

/-! ### Systems given by a step function -/

/-- If the partial function `f` computes steps, a list of events that can be played from `s₀` is a
run with these events. -/
theorem run_of_foldlM {step : σ → ε → σ → Prop} {f : σ → ε → Option σ} {s₀ : σ}
    (hf : ∀ s e t, f s e = some t → step s e t) :
    ∀ (es : List ε) {s : σ}, es.foldlM f s₀ = some s →
      ∃ tr, Run step s₀ tr s ∧ tr.map Prod.snd = es := by
  intro es
  induction es using List.reverseRecOn with
  | nil =>
    intro s h
    cases h
    exact ⟨[], Run.nil, rfl⟩
  | append_singleton es e ih =>
    intro s h
    rw [List.foldlM_append] at h
    obtain ⟨u, hu, he⟩ := Option.bind_eq_some_iff.mp h
    obtain ⟨tr, hr, htr⟩ := ih hu
    have hs : f u e = some s := by simpa using he
    exact ⟨tr ++ [(u, e)], hr.snoc (hf u e s hs), by simp [htr]⟩

/-- The same, with the condition `C` checked before every event. -/
theorem run_of_foldlM_along {step : σ → ε → σ → Prop} {f : σ → ε → Option σ} {s₀ : σ}
    (hf : ∀ s e t, f s e = some t → step s e t) {C : σ → ε → Prop} [∀ s e, Decidable (C s e)]
    (es : List ε) {s : σ}
    (h : es.foldlM (fun s e => if C s e then f s e else none) s₀ = some s) :
    ∃ tr, (Run step s₀ tr s ∧ Along C tr) ∧ tr.map Prod.snd = es := by
  have hstep : ∀ (s : σ) (e : ε) (t : σ), (if C s e then f s e else none) = some t →
      C s e ∧ step s e t := by
    intro s e t hs
    obtain ⟨hC, hs⟩ := Option.ite_none_right_eq_some.mp hs
    exact ⟨hC, hf s e t hs⟩
  obtain ⟨tr, hr, htr⟩ := run_of_foldlM hstep es h
  exact ⟨tr, hr.of_restricted, htr⟩

/-- The trace of a list of events, where `f` computes the next state. -/
def traceOf (f : σ → ε → σ) : σ → List ε → List (σ × ε)
  | _, [] => []
  | s, e :: es => (s, e) :: traceOf f (f s e) es

/-- If the total function `f` computes steps, every list of events is a run. -/
theorem run_traceOf {step : σ → ε → σ → Prop} {f : σ → ε → σ} {s₀ : σ}
    (hf : ∀ s e, step s e (f s e)) : ∀ (es : List ε) {tr : List (σ × ε)} {s : σ},
      Run step s₀ tr s → Run step s₀ (tr ++ traceOf f s es) (es.foldl f s)
  | [], tr, s, hr => by
    rw [traceOf, List.append_nil]
    exact hr
  | e :: es, tr, s, hr => by
    have hrest := run_traceOf hf es (hr.snoc (hf s e))
    rw [List.append_assoc] at hrest
    exact hrest

/-- A condition on events alone. -/
theorem along_events {C : ε → Prop} {tr : List (σ × ε)} :
    Along (fun _ e => C e) tr ↔ ∀ e ∈ tr.map Prod.snd, C e := by
  simp only [Along, List.forall_mem_map]

end LanternProject.Lib.Runs
