import Mathlib.Data.List.Basic

/-!
# Runs of a store that owners share

A store answers one call after another; each call has an owner, and `part t s` is what of the store belongs to `t`.
Where a call of an owner acts on its part as it acts on the store (`Owned.own`), and leaves the parts of the others
alone (`Owned.other`), the answers to the calls of one owner are those of a run without the others (`Owned.alone`).
-/

namespace CleanBackend

variable {σ γ ρ τ : Type}

/-- The answers to a list of calls. -/
inductive Replies (step : σ → γ → ρ → σ → Prop) : σ → List γ → List ρ → σ → Prop where
  | nil (s : σ) : Replies step s [] [] s
  | cons {s s' s'' : σ} {c : γ} {r : ρ} {cs : List γ} {rs : List ρ} (h : step s c r s')
    (hs : Replies step s' cs rs s'') :
      Replies step s (c :: cs) (r :: rs) s''

theorem Replies.mono {step step' : σ → γ → ρ → σ → Prop} {s s' : σ} {cs : List γ} {rs : List ρ}
    (h : Replies step s cs rs s') (hstep : ∀ {s c r s'}, step s c r s' → step' s c r s') :
      Replies step' s cs rs s' := by
  induction h with
  | nil s => exact .nil s
  | cons h _ ih => exact .cons (hstep h) ih

/-- The answers to the calls that are kept. -/
def keptAnswers (keep : γ → Bool) (cs : List γ) (rs : List ρ) : List ρ :=
  ((cs.zip rs).filter fun p => keep p.1).map Prod.snd

private theorem keptAnswers_cons (keep : γ → Bool) (c : γ) (r : ρ) (cs : List γ) (rs : List ρ) :
    keptAnswers keep (c :: cs) (r :: rs) =
      if keep c then r :: keptAnswers keep cs rs else keptAnswers keep cs rs := by
  unfold keptAnswers
  cases hc : keep c <;> simp [hc]

/-- The calls of an owner see and change no more than its part. -/
structure Owned [DecidableEq τ] (step : σ → γ → ρ → σ → Prop) (owner : γ → τ) (part : τ → σ → σ) : Prop where
  own : ∀ {s s' c r}, step s c r s' → step (part (owner c) s) c r (part (owner c) s')
  other : ∀ {s s' c r t}, step s c r s' → owner c ≠ t → part t s' = part t s

theorem Owned.alone [DecidableEq τ] {step : σ → γ → ρ → σ → Prop} {owner : γ → τ} {part : τ → σ → σ}
    (h : Owned step owner part) {s s' : σ} {cs : List γ} {rs : List ρ} (hrun : Replies step s cs rs s') (t : τ) :
    Replies step (part t s) (cs.filter fun c => owner c = t) (keptAnswers (fun c => owner c = t) cs rs)
      (part t s') := by
  induction hrun with
  | nil s => exact .nil _
  | @cons s s' s'' c r cs rs hstep _ ih =>
    rw [keptAnswers_cons]
    by_cases hc : owner c = t
    · subst hc
      rw [List.filter_cons_of_pos (by simp), if_pos (by simp)]
      exact .cons (h.own hstep) ih
    · rw [List.filter_cons_of_neg (by simpa using hc), if_neg (by simpa using hc), ← h.other hstep hc]
      exact ih

end CleanBackend
