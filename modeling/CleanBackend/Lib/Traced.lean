import Mathlib.Data.List.Infix

/-!
# Programs and their events

A program with exceptions changes a part of its state (`obs`) only by events, each of which is possible in the state
it meets (`act`).  `Traced act obs x Q`: from every state, what `x` does to that part is a list of events that meets
`Q` together with how `x` ends.  The rules follow the program: a value, an exception, one program after another, and a
handler.
-/

namespace CleanBackend

/-- The events lead from one state to another. -/
inductive Performs {δ η : Type} (act : δ → η → δ → Prop) : δ → List η → δ → Prop where
  | nil (d : δ) : Performs act d [] d
  | cons {d d' d'' : δ} {e : η} {es : List η} (h : act d e d') (hs : Performs act d' es d'') :
      Performs act d (e :: es) d''

namespace Performs

variable {δ η : Type} {act : δ → η → δ → Prop} {d d' d'' : δ} {es es' : List η}

theorem single {e : η} (h : act d e d') : Performs act d [e] d' := .cons h (.nil d')

theorem append (h : Performs act d es d') (h' : Performs act d' es' d'') : Performs act d (es ++ es') d'' := by
  induction h with
  | nil d => exact h'
  | cons ha _ ih => exact .cons ha (ih h')

end Performs

variable {δ η ε σ α β : Type} {act : δ → η → δ → Prop} {obs : σ → δ}

/-- How a program ends. -/
def outcome : EStateM.Result ε σ α → Except ε α
  | .ok a _ => .ok a
  | .error e _ => .error e

def finalState : EStateM.Result ε σ α → σ
  | .ok _ s => s
  | .error _ s => s

def Traced (act : δ → η → δ → Prop) (obs : σ → δ) (x : EStateM ε σ α) (Q : List η → Except ε α → Prop) : Prop :=
  ∀ s, ∃ es, Performs act (obs s) es (obs (finalState (x s))) ∧ Q es (outcome (x s))

namespace Traced

variable {x : EStateM ε σ α} {f : α → EStateM ε σ β} {P Q : List η → Except ε α → Prop}
  {R : List η → Except ε β → Prop}

theorem mono (h : Traced act obs x P) (hPQ : ∀ es r, P es r → Q es r) : Traced act obs x Q := fun s =>
  let ⟨es, hes, hP⟩ := h s
  ⟨es, hes, hPQ _ _ hP⟩

theorem pure {a : α} (h : Q [] (.ok a)) : Traced act obs (Pure.pure a : EStateM ε σ α) Q := fun _ => ⟨[], .nil _, h⟩

theorem throw {e : ε} (h : Q [] (.error e)) : Traced act obs (MonadExcept.throw e : EStateM ε σ α) Q :=
  fun _ => ⟨[], .nil _, h⟩

theorem bind (hx : Traced act obs x P) (hf : ∀ es a, P es (.ok a) → Traced act obs (f a) fun es' r => R (es ++ es') r)
    (he : ∀ es e, P es (.error e) → R es (.error e)) : Traced act obs (x >>= f) R := by
  intro s
  obtain ⟨es, hes, hP⟩ := hx s
  show ∃ es, Performs act (obs s) es (obs (finalState (EStateM.bind x f s))) ∧ R es (outcome (EStateM.bind x f s))
  unfold EStateM.bind
  cases hr : x s with
  | ok a s' =>
    rw [hr] at hes hP
    obtain ⟨es', hes', hR⟩ := hf es a hP s'
    exact ⟨es ++ es', hes.append hes', hR⟩
  | error e s' =>
    rw [hr] at hes hP
    exact ⟨es, hes, he es e hP⟩

theorem tryCatch {h : ε → EStateM ε σ α} (hx : Traced act obs x P) (hok : ∀ es a, P es (.ok a) → Q es (.ok a))
    (hh : ∀ es e, P es (.error e) → Traced act obs (h e) fun es' r => Q (es ++ es') r) :
    Traced act obs (MonadExcept.tryCatch x h) Q := by
  intro s
  obtain ⟨es, hes, hP⟩ := hx s
  show ∃ es, Performs act (obs s) es (obs (finalState (EStateM.tryCatch x h s))) ∧
      Q es (outcome (EStateM.tryCatch x h s))
  unfold EStateM.tryCatch
  cases hr : x s with
  | ok a s' =>
    rw [hr] at hes hP
    exact ⟨es, hes, hok es a hP⟩
  | error e s' =>
    rw [hr] at hes hP
    obtain ⟨es', hes', hQ⟩ := hh es e hP s'
    exact ⟨es ++ es', hes.append hes', hQ⟩

end Traced

end CleanBackend
