import CleanBackend.Lib.Machine
import Mathlib.Algebra.GroupWithZero.Nat

/-!
# Workers on a pool of units

Workers move one at a time, each by its own step function.  A step may take a unit of a common pool, give one back, or
be impossible while the worker waits for one.  In a pool that is used by these rules (`PoolRules`), a worker first
takes a unit from where it arrives, and may then want a second one.  A reachable state in which nobody moves and
somebody is not done has given every unit to a worker that wants a second (`PoolRules.greedy_of_stuck`), and such a
state can be reached where enough workers are greedy (`PoolRules.reach_exhausted`): the pool is free of deadlock
exactly when fewer workers than units ever want a second one (`PoolRules.deadlockFree_iff_greedy`).
-/

namespace CleanBackend

variable {ω φ : Type}

/-- The units that are free, and the workers with their phases. -/
structure Workers (ω φ : Type) where
  free : Nat
  workers : List (ω × φ)
  deriving DecidableEq, Repr

/-- The interleaving of the workers: an action is the position of the worker that moves. -/
def workersMachine (advance : ω → Nat → φ → Option (Nat × φ)) : Machine (Workers ω φ) Nat where
  step s i :=
    match s.workers[i]? with
    | none => none
    | some (w, p) =>
      match advance w s.free p with
      | none => none
      | some (free, p') => some ⟨free, s.workers.set i (w, p')⟩

namespace Workers

variable {advance : ω → Nat → φ → Option (Nat × φ)} {s s' t : Workers ω φ} {as : List Nat}

/-- All workers in one phase. -/
def initial (size : Nat) (ws : List ω) (p : φ) : Workers ω φ := ⟨size, ws.map fun w => (w, p)⟩

/-- In every reachable state in which somebody is not done, somebody can move. -/
def DeadlockFree (advance : ω → Nat → φ → Option (Nat × φ)) (done : φ → Bool) (s : Workers ω φ) : Prop :=
  ∀ t, (workersMachine advance).Reachable s t → (∃ x ∈ t.workers, done x.2 = false) →
    ∃ i t', (workersMachine advance).step t i = some t'

theorem step_cases {i : Nat} (h : (workersMachine advance).step s i = some s') :
    ∃ l₁ w p l₂ free p', s.workers = l₁ ++ (w, p) :: l₂ ∧ advance w s.free p = some (free, p') ∧
      s' = ⟨free, l₁ ++ (w, p') :: l₂⟩ := by
  simp only [workersMachine] at h
  split at h
  · cases h
  · rename_i w p hi
    split at h
    · cases h
    · rename_i free p' ha
      cases h
      obtain ⟨hlt, he⟩ := List.getElem?_eq_some_iff.1 hi
      obtain ⟨l₁, l₂, h₁, -, h₂⟩ := @List.exists_of_set _ _ (w, p') _ hlt
      rw [he] at h₁
      exact ⟨l₁, w, p, l₂, free, p', h₁, ha, by rw [h₂]⟩

theorem step_at {l₁ l₂ : List (ω × φ)} {w : ω} {p p' : φ} {free : Nat} (hs : s.workers = l₁ ++ (w, p) :: l₂)
    (ha : advance w s.free p = some (free, p')) :
    (workersMachine advance).step s l₁.length = some ⟨free, l₁ ++ (w, p') :: l₂⟩ := by
  simp [workersMachine, hs, ha]

/-- Where nobody moves, every worker waits. -/
private theorem waits_of_stuck (hs : ∀ i s', (workersMachine advance).step s i ≠ some s') :
    ∀ x ∈ s.workers, advance x.1 s.free x.2 = none := by
  intro ⟨w, p⟩ hx
  obtain ⟨l₁, l₂, he⟩ := List.append_of_mem hx
  cases ha : advance w s.free p with
  | none => rfl
  | some fp => exact absurd (step_at he ha) (hs _ _)

theorem fst_of_reachable (h : (workersMachine advance).Reachable s t) :
    t.workers.map Prod.fst = s.workers.map Prod.fst := by
  refine h.invariant (P := fun u => u.workers.map Prod.fst = s.workers.map Prod.fst) (fun u _ u' hu hs => ?_) rfl
  obtain ⟨l₁, w, p, l₂, free, p', he, -, rfl⟩ := step_cases hs
  rw [he] at hu
  simpa using hu

/-- What the steps of each worker keep, every run keeps. -/
theorem forall_of_reachable {Fits : ω → φ → Prop}
    (hstep : ∀ w free p free' p', Fits w p → advance w free p = some (free', p') → Fits w p')
    (h : (workersMachine advance).Reachable s t) (hs : ∀ x ∈ s.workers, Fits x.1 x.2) :
    ∀ x ∈ t.workers, Fits x.1 x.2 := by
  refine h.invariant (P := fun u => ∀ x ∈ u.workers, Fits x.1 x.2) (fun u _ u' hu hs x hx => ?_) hs
  obtain ⟨l₁, w, p, l₂, free, p', he, ha, rfl⟩ := step_cases hs
  rw [he] at hu
  rcases List.mem_append.1 hx with hx | hx
  · exact hu x (List.mem_append_left _ hx)
  · rcases List.mem_cons.1 hx with rfl | hx
    · exact hstep w _ p _ p' (hu (w, p) (List.mem_append_right _ List.mem_cons_self)) ha
    · exact hu x (List.mem_append_right _ (List.mem_cons_of_mem _ hx))

/-- A rank that every step lowers bounds the length of the runs. -/
theorem run_length {rank : φ → Nat}
    (hrank : ∀ w free p free' p', advance w free p = some (free', p') → rank p' < rank p)
    (h : (workersMachine advance).run s as = some t) :
    as.length + (t.workers.map fun x => rank x.2).sum ≤ (s.workers.map fun x => rank x.2).sum := by
  induction as generalizing s with
  | nil =>
    cases h
    exact Nat.le_of_eq (Nat.zero_add _)
  | cons i as ih =>
    obtain ⟨s', hstep, hrun⟩ := Machine.run_cons.1 h
    have hrest := ih hrun
    obtain ⟨l₁, w, p, l₂, free, p', he, ha, rfl⟩ := step_cases hstep
    have hlt := hrank _ _ _ _ _ ha
    rw [he]
    simp only [List.map_append, List.map_cons, List.sum_append, List.sum_cons, List.length_cons] at hrest ⊢
    omega

end Workers

/-- How the workers use the pool: a worker of a phase holds `held` units, in phases that fit it.  The greedy ones are
those that want a second unit in some phase. -/
structure PoolRules (advance : ω → Nat → φ → Option (Nat × φ)) (arrived : φ) (held : φ → Nat) (done wants : φ → Bool)
    (greedy : ω → Bool) (Fits : ω → φ → Prop) : Prop where
  held_arrived : held arrived = 0
  held_done : ∀ {p}, done p = true → held p = 0
  held_wants : ∀ {p}, wants p = true → held p = 1
  fits_arrived : ∀ w, Fits w arrived
  conserved : ∀ {w free p free' p'}, Fits w p → advance w free p = some (free', p') → free' + held p' = free + held p
  fits : ∀ {w free p free' p'}, Fits w p → advance w free p = some (free', p') → Fits w p'
  greedy_of_wants : ∀ {w p}, Fits w p → wants p = true → greedy w = true
  /-- only a wait for a unit, or the end, stops a worker -/
  waits : ∀ {w free p}, Fits w p → advance w free p = none → done p = true ∨ free = 0 ∧ (p = arrived ∨ wants p = true)
  blocked : ∀ {w p}, p = arrived ∨ wants p = true → advance w 0 p = none
  /-- a greedy worker takes a unit and then wants a second one -/
  takes : ∀ {w}, greedy w = true → ∃ p', wants p' = true ∧ p' ≠ arrived ∧ ∀ n l₁ l₂,
    (workersMachine advance).Reachable ⟨n + 1, l₁ ++ (w, arrived) :: l₂⟩ ⟨n, l₁ ++ (w, p') :: l₂⟩

namespace PoolRules

variable {advance : ω → Nat → φ → Option (Nat × φ)} {arrived : φ} {held : φ → Nat} {done wants : φ → Bool}
  {greedy : ω → Bool} {Fits : ω → φ → Prop} {size : Nat} {ws : List ω} {s s' : Workers ω φ}

section Rules

variable (hrules : PoolRules advance arrived held done wants greedy Fits)
include hrules

private theorem fits_of_reachable (h : (workersMachine advance).Reachable (.initial size ws arrived) s) :
    ∀ x ∈ s.workers, Fits x.1 x.2 := by
  refine Workers.forall_of_reachable (fun _ _ _ _ _ hfits ha => hrules.fits hfits ha) h fun x hx => ?_
  obtain ⟨w, -, rfl⟩ := List.mem_map.1 hx
  exact hrules.fits_arrived w

/-- Units are conserved. -/
private theorem conserved_of_reachable (h : (workersMachine advance).Reachable (.initial size ws arrived) s) :
    s.free + (s.workers.map fun x => held x.2).sum = size := by
  have hstep : ∀ u i u', ((∀ x ∈ u.workers, Fits x.1 x.2) ∧ u.free + (u.workers.map fun x => held x.2).sum = size) →
      (workersMachine advance).step u i = some u' →
      (∀ x ∈ u'.workers, Fits x.1 x.2) ∧ u'.free + (u'.workers.map fun x => held x.2).sum = size := by
    intro u i u' ⟨hfits, hc⟩ hs
    refine ⟨Workers.forall_of_reachable (fun _ _ _ _ _ hw ha => hrules.fits hw ha) (.head hs (.refl u')) hfits, ?_⟩
    obtain ⟨l₁, w, p, l₂, free, p', he, ha, rfl⟩ := Workers.step_cases hs
    rw [he] at hc hfits
    have hfit : Fits w p := hfits (w, p) (List.mem_append_right _ List.mem_cons_self)
    have := hrules.conserved hfit ha
    simp only [List.map_append, List.map_cons, List.sum_append, List.sum_cons] at hc ⊢
    omega
  refine (h.invariant hstep ⟨hrules.fits_of_reachable (.refl _), ?_⟩).2
  have hzero : (ws.map fun _ => (0 : Nat)).sum = 0 := by rw [List.map_const', List.sum_replicate_nat, Nat.mul_zero]
  simp only [Workers.initial, List.map_map, Function.comp_def, hrules.held_arrived]
  rw [hzero, Nat.add_zero]

/-- Where the workers only wait, or are done, each unit that is held has a holder that wants a second. -/
private theorem held_of_waiting {l : List (ω × φ)} (h : ∀ x ∈ l, done x.2 = true ∨ x.2 = arrived ∨ wants x.2 = true) :
    (l.map fun x => held x.2).sum = l.countP fun x => wants x.2 := by
  induction l with
  | nil => rfl
  | cons x l ih =>
    have hx : held x.2 = if wants x.2 = true then 1 else 0 := by
      by_cases hw : wants x.2 = true
      · rw [if_pos hw, hrules.held_wants hw]
      · rw [if_neg hw]
        rcases h x List.mem_cons_self with he | he | he
        · exact hrules.held_done he
        · rw [he, hrules.held_arrived]
        · exact absurd he hw
    rw [List.map_cons, List.sum_cons, List.countP_cons, ih fun y hy => h y (List.mem_cons_of_mem _ hy),
      hx, Nat.add_comm]

private theorem wants_le {l : List (ω × φ)} (h : ∀ x ∈ l, Fits x.1 x.2) :
    (l.countP fun x => wants x.2) ≤ (l.map Prod.fst).countP greedy := by
  rw [List.countP_map]
  exact List.countP_mono_left fun x hx hw => hrules.greedy_of_wants (h x hx) hw

/-- Where nobody moves and somebody is not done, the greedy workers are no fewer than the units. -/
theorem greedy_of_stuck (h : (workersMachine advance).Reachable (.initial size ws arrived) s)
    (hstuck : ∀ i s', (workersMachine advance).step s i ≠ some s') {x : ω × φ} (hx : x ∈ s.workers)
    (hdone : done x.2 = false) : size ≤ ws.countP greedy := by
  have hfits := hrules.fits_of_reachable h
  have hwaits : ∀ y ∈ s.workers, done y.2 = true ∨ s.free = 0 ∧ (y.2 = arrived ∨ wants y.2 = true) := fun y hy =>
    hrules.waits (hfits y hy) (Workers.waits_of_stuck hstuck y hy)
  have hfree : s.free = 0 := by
    rcases hwaits x hx with hd | hw
    · rw [hdone] at hd
      cases hd
    · exact hw.1
  have hsame : s.workers.map Prod.fst = ws := by
    rw [Workers.fst_of_reachable h]
    simp [Workers.initial, Function.comp_def]
  have hheld := hrules.held_of_waiting fun y hy => (hwaits y hy).imp_right And.right
  have hle := hrules.wants_le hfits
  have hc := hrules.conserved_of_reachable h
  rw [hsame] at hle
  omega

/-- Enough greedy workers take the units one after the other, and then want more. -/
theorem reach_exhausted [DecidableEq φ] (n : Nat) {l : List (ω × φ)}
    (hearly : ∀ x ∈ l, x.2 = arrived ∨ wants x.2 = true)
    (hcount : n ≤ l.countP fun x => decide (x.2 = arrived) && greedy x.1) :
    ∃ t, (workersMachine advance).Reachable ⟨n, l⟩ t ∧ t.free = 0 ∧ ∀ x ∈ t.workers, x.2 = arrived ∨
      wants x.2 = true := by
  induction n generalizing l with
  | zero => exact ⟨⟨0, l⟩, .refl _, rfl, hearly⟩
  | succ n ih =>
    obtain ⟨⟨w, p⟩, hx, hw⟩ := List.countP_pos_iff.1 (Nat.lt_of_lt_of_le n.succ_pos hcount)
    rw [Bool.and_eq_true, decide_eq_true_eq] at hw
    obtain ⟨hp, hgreedy⟩ := hw
    subst hp
    obtain ⟨l₁, l₂, rfl⟩ := List.append_of_mem hx
    obtain ⟨p', hwants, hne, hreach⟩ := hrules.takes hgreedy
    have hearly' : ∀ x ∈ l₁ ++ (w, p') :: l₂, x.2 = p ∨ wants x.2 = true := by
      intro x hx
      rcases List.mem_append.1 hx with hx | hx
      · exact hearly x (List.mem_append_left _ hx)
      · rcases List.mem_cons.1 hx with rfl | hx
        · exact Or.inr hwants
        · exact hearly x (List.mem_append_right _ (List.mem_cons_of_mem _ hx))
    have hcount' : n ≤ (l₁ ++ (w, p') :: l₂).countP fun x => decide (x.2 = p) && greedy x.1 := by
      simp only [List.countP_append, List.countP_cons, decide_true, hgreedy, Bool.and_self, if_true,
        hne, decide_false, Bool.false_and, Bool.false_eq_true, if_false] at hcount ⊢
      omega
    obtain ⟨t, ht, hfree, hearlyt⟩ := ih hearly' hcount'
    exact ⟨t, (hreach n l₁ l₂).trans ht, hfree, hearlyt⟩

/-- A pool is free of deadlock exactly when fewer workers than units are greedy. -/
theorem deadlockFree_iff_greedy [DecidableEq φ] (hsize : 1 ≤ size) :
    Workers.DeadlockFree advance done (.initial size ws arrived) ↔ ws.countP greedy < size := by
  constructor
  · intro hlive
    rw [← Nat.not_le]
    intro hle
    have hearly : ∀ x ∈ (Workers.initial size ws arrived).workers, x.2 = arrived ∨ wants x.2 = true := by
      intro x hx
      obtain ⟨w, -, rfl⟩ := List.mem_map.1 hx
      exact Or.inl rfl
    have hcount : size ≤ (Workers.initial size ws arrived).workers.countP fun x =>
        decide (x.2 = arrived) && greedy x.1 := by
      simpa [Workers.initial, List.countP_map, Function.comp_def] using hle
    obtain ⟨t, ht, hfree, hwaiting⟩ := hrules.reach_exhausted size hearly hcount
    -- every unit is with a worker that wants a second one
    have hc := hrules.conserved_of_reachable ht
    rw [hfree, hrules.held_of_waiting fun x hx => Or.inr (hwaiting x hx)] at hc
    obtain ⟨x, hx, hwants⟩ := List.countP_pos_iff.1 (show 0 < t.workers.countP fun x => wants x.2 by omega)
    have hdone : done x.2 = false := by
      cases hd : done x.2 with
      | false => rfl
      | true => exact absurd ((hrules.held_done hd).symm.trans (hrules.held_wants hwants)) Nat.zero_ne_one
    obtain ⟨i, t', hs⟩ := hlive t ht ⟨x, hx, hdone⟩
    obtain ⟨l₁, w, p, l₂, free, p', he, ha, -⟩ := Workers.step_cases hs
    have hblocked := hrules.blocked (w := w) (hwaiting (w, p) (he ▸ List.mem_append_right _ List.mem_cons_self))
    rw [hfree, hblocked] at ha
    cases ha
  · intro hlt t ht ⟨x, hx, hdone⟩
    -- in a stuck state every unit is held by a greedy worker
    refine Classical.byContradiction fun hno => ?_
    have hle := hrules.greedy_of_stuck ht (fun i t' hs => hno ⟨i, t', hs⟩) hx hdone
    omega

end Rules

end PoolRules

end CleanBackend
