import Mathlib.Algebra.Order.Group.Defs
import Mathlib.Algebra.Order.Group.Basic
import Mathlib.Data.List.TakeWhile

/-!
# Fixed windows

Hits arrive at times of an ordered group.  A window of length `W` is opened by a hit, and holds the hits up to its
end; the first hit at or after the end opens the next window.  A counter that only keeps the end of the last window
and the number of its hits (`Window.hit`) numbers the hits window by window (`trace_none`).  When only the first `n`
hits of every window count, a half-open interval of length `W` holds at most `2 * n` of them, since it meets two
windows at most.
-/

namespace CleanBackend

/-- The end of a window, and how many hits it has had. -/
structure Window (T : Type) where
  expiresAt : T
  count : Int
deriving DecidableEq, Repr

variable {T : Type} [AddCommGroup T] [LinearOrder T]

/-- One hit at time `t`. -/
def Window.hit (W : T) (window : Option (Window T)) (t : T) : Window T :=
  match window with
  | none => ⟨t + W, 1⟩
  | some w => if w.expiresAt ≤ t then ⟨t + W, 1⟩ else ⟨w.expiresAt, w.count + 1⟩

namespace FixedWindow

variable (W : T)

/-- The counter after each hit. -/
def trace : Option (Window T) → List T → List (T × Window T)
  | _, [] => []
  | w, t :: ts => (t, Window.hit W w t) :: trace (some (Window.hit W w t)) ts

/-- The hits, window by window. -/
def windows : List T → List (List T)
  | [] => []
  | s :: ts => (s :: ts.takeWhile (· < s + W)) :: windows (ts.dropWhile (· < s + W))
termination_by ts => ts.length
decreasing_by exact Nat.lt_succ_of_le (List.length_dropWhile_le _ _)

/-- The hits of one window, with the counter after each. -/
def numbered : List T → List (T × Window T)
  | [] => []
  | s :: hits => ((s :: hits).zipIdx 1).map fun p => (p.1, ⟨s + W, p.2⟩)

/-- `ws` divides the hits `ts` into consecutive windows `[s, s + W)`, each opened by a hit at `s`. -/
structure Divides (ts : List T) (ws : List (List T)) : Prop where
  flatten : ws.flatten = ts
  opened : ∀ w ∈ ws, ∃ s, w.head? = some s ∧ ∀ t ∈ w, s ≤ t ∧ t < s + W
  disjoint : ws.Pairwise fun w w' => ∀ s ∈ w.head?, ∀ s' ∈ w'.head?, s + W ≤ s'

variable {W}

/-! ### The counter numbers the hits -/

/-- An open window takes the hits before its end, and the next one opens a window of its own. -/
private theorem trace_some (e : T) (c : Nat) (ts : List T) :
    trace W (some ⟨e, c⟩) ts =
      ((ts.takeWhile (· < e)).zipIdx (c + 1)).map (fun p => (p.1, ⟨e, p.2⟩)) ++
        trace W none (ts.dropWhile (· < e)) := by
  induction ts generalizing c with
  | nil => rfl
  | cons t ts ih =>
    by_cases ht : t < e
    · have hhit : Window.hit W (some ⟨e, c⟩) t = ⟨e, (c + 1 : Nat)⟩ := by
        simp [Window.hit, not_le.2 ht]
      rw [trace, hhit, ih (c + 1)]
      simp [ht]
    · have hhit : Window.hit W (some ⟨e, c⟩) t = Window.hit W none t := by
        simp [Window.hit, not_lt.1 ht]
      rw [trace, hhit]
      simp [ht, trace]

theorem trace_none (ts : List T) : trace W none ts = (windows W ts).flatMap (numbered W) := by
  induction ts using windows.induct W with
  | case1 => simp [windows, trace]
  | case2 s ts ih =>
    rw [windows, List.flatMap_cons, ← ih, trace]
    change (s, ⟨s + W, ((1 : Nat) : Int)⟩) :: trace W (some ⟨s + W, ((1 : Nat) : Int)⟩) ts = _
    rw [trace_some]
    simp [numbered]

omit [LinearOrder T] in
/-- The hits that are counted up to `n` are the first `n`. -/
theorem numbered_filter (n : Nat) (w : List T) :
    ((numbered W w).filter fun p => decide (p.2.count ≤ (n : Int))).map Prod.fst = w.take n := by
  have hidx : ∀ (k m : Nat) (hits : List T),
      ((hits.zipIdx k).filter fun p => decide (p.2 < k + m)).map Prod.fst = hits.take m := by
    intro k m hits
    induction hits generalizing k m with
    | nil => simp
    | cons t hits ih =>
      cases m with
      | zero =>
        have hnone : ∀ p ∈ (t :: hits).zipIdx k, ¬ p.2 < k + 0 := by
          intro p hp
          exact not_lt.2 (List.le_snd_of_mem_zipIdx hp)
        rw [List.filter_eq_nil_iff.2 (by simpa using hnone)]
        simp
      | succ m =>
        have hih := ih (k + 1) m
        rw [show k + 1 + m = k + (m + 1) by omega] at hih
        simp [hih]
  cases w with
  | nil => simp [numbered]
  | cons s hits =>
    have hcount := hidx 1 n (s :: hits)
    rw [← hcount, numbered, List.filter_map, List.map_map]
    congr 1
    refine List.filter_congr ?_
    intro p _
    simp only [Function.comp_apply, decide_eq_decide]
    omega

/-! ### The windows divide the hits -/

private theorem windows_flatten (ts : List T) : (windows W ts).flatten = ts := by
  induction ts using windows.induct W with
  | case1 => simp [windows]
  | case2 s ts ih =>
    rw [windows, List.flatten_cons, ih, List.cons_append, List.takeWhile_append_dropWhile]

/-- The windows of later hits open later. -/
private theorem le_head_of_mem_windows {ts : List T} {a : T} (h : ∀ t ∈ ts, a ≤ t) :
    ∀ w ∈ windows W ts, ∀ s ∈ w.head?, a ≤ s := by
  intro w hw s hs
  have hmem : s ∈ (windows W ts).flatten := List.mem_flatten.2 ⟨w, hw, List.mem_of_mem_head? hs⟩
  rw [windows_flatten] at hmem
  exact h s hmem

omit [AddCommGroup T] in
/-- Once a sorted list has reached `e` it stays there. -/
private theorem le_of_mem_dropWhile {ts : List T} (hts : ts.Pairwise (· ≤ ·)) (e : T) :
    ∀ t ∈ ts.dropWhile (· < e), e ≤ t := by
  induction ts with
  | nil => simp
  | cons t ts ih =>
    rw [List.pairwise_cons] at hts
    by_cases ht : t < e
    · simpa [ht] using ih hts.2
    · intro t' ht'
      rw [List.dropWhile_cons_of_neg (by simpa using ht)] at ht'
      rcases List.mem_cons.1 ht' with rfl | ht'
      · exact not_lt.1 ht
      · exact (not_lt.1 ht).trans (hts.1 t' ht')

private theorem windows_opened [IsOrderedAddMonoid T] (hW : 0 < W) {ts : List T} (hts : ts.Pairwise (· ≤ ·)) :
    ∀ w ∈ windows W ts, ∃ s, w.head? = some s ∧ ∀ t ∈ w, s ≤ t ∧ t < s + W := by
  induction ts using windows.induct W with
  | case1 => simp [windows]
  | case2 s ts ih =>
    rw [List.pairwise_cons] at hts
    intro w hw
    rw [windows] at hw
    rcases List.mem_cons.1 hw with rfl | hw
    · refine ⟨s, rfl, ?_⟩
      intro t ht
      rcases List.mem_cons.1 ht with rfl | ht
      · exact ⟨le_rfl, lt_add_of_pos_right t hW⟩
      · have hlt : t < s + W := by simpa using List.mem_takeWhile_imp ht
        exact ⟨hts.1 t ((List.takeWhile_sublist _).mem ht), hlt⟩
    · exact ih (hts.2.sublist (List.dropWhile_sublist _)) w hw

private theorem windows_disjoint {ts : List T} (hts : ts.Pairwise (· ≤ ·)) :
    (windows W ts).Pairwise fun w w' => ∀ s ∈ w.head?, ∀ s' ∈ w'.head?, s + W ≤ s' := by
  induction ts using windows.induct W with
  | case1 => simp [windows]
  | case2 s ts ih =>
    rw [List.pairwise_cons] at hts
    rw [windows, List.pairwise_cons]
    refine ⟨?_, ih (hts.2.sublist (List.dropWhile_sublist _))⟩
    intro w' hw' s₀ hs₀ s' hs'
    have heq : s = s₀ := by simpa using hs₀
    rw [← heq]
    exact le_head_of_mem_windows (le_of_mem_dropWhile hts.2 _) w' hw' s' hs'

theorem windows_divides [IsOrderedAddMonoid T] (hW : 0 < W) {ts : List T} (hts : ts.Pairwise (· ≤ ·)) :
    Divides W ts (windows W ts) where
  flatten := windows_flatten ts
  opened := windows_opened hW hts
  disjoint := windows_disjoint hts

/-! ### How many counted hits an interval holds -/

/-- The number of hits in `[a, a + W)` among the first `n` of every window. -/
def hitsWithin (W : T) (n : Nat) (a : T) (ws : List (List T)) : Nat :=
  (ws.flatMap (·.take n)).countP fun t => decide (a ≤ t ∧ t < a + W)

private theorem hitsWithin_cons (n : Nat) (a : T) (w : List T) (ws : List (List T)) :
    hitsWithin W n a (w :: ws) = (w.take n).countP (fun t => decide (a ≤ t ∧ t < a + W)) + hitsWithin W n a ws := by
  simp [hitsWithin]

omit [AddCommGroup T] [LinearOrder T] in
private theorem countP_take_le (n : Nat) (p : T → Bool) (w : List T) : (w.take n).countP p ≤ n :=
  List.countP_le_length.trans (List.length_take_le n w)

variable {ts : List T} {ws : List (List T)} {w : List T}

theorem Divides.tail (h : Divides W ts (w :: ws)) : Divides W ws.flatten ws where
  flatten := rfl
  opened w' hw' := h.opened w' (List.mem_cons_of_mem w hw')
  disjoint := (List.pairwise_cons.1 h.disjoint).2

/-- Windows that open after the interval hold none of its hits. -/
private theorem hitsWithin_eq_zero (h : Divides W ts ws) (n : Nat) {a : T} (ha : ∀ w ∈ ws, ∀ s ∈ w.head?, a + W ≤ s) :
    hitsWithin W n a ws = 0 := by
  refine List.countP_eq_zero.2 ?_
  intro t ht
  obtain ⟨w, hw, htw⟩ := List.mem_flatMap.1 ht
  obtain ⟨s, hs, hin⟩ := h.opened w hw
  have hlate : a + W ≤ t := (ha w hw s hs).trans (hin t (List.mem_of_mem_take htw)).1
  simpa using fun _ => hlate

/-- Of the windows that open inside the interval, only the first matters. -/
private theorem hitsWithin_le [IsOrderedAddMonoid T] (h : Divides W ts ws) (n : Nat) {a : T}
    (ha : ∀ w ∈ ws, ∀ s ∈ w.head?, a ≤ s) :
    hitsWithin W n a ws ≤ n := by
  cases ws with
  | nil => simp [hitsWithin]
  | cons w ws =>
    obtain ⟨s, hs, -⟩ := h.opened w List.mem_cons_self
    have hrest : hitsWithin W n a ws = 0 := by
      refine hitsWithin_eq_zero h.tail n ?_
      intro w' hw' s' hs'
      have hle : a + W ≤ s + W := add_le_add_left (ha w List.mem_cons_self s hs) W
      exact hle.trans ((List.pairwise_cons.1 h.disjoint).1 w' hw' s hs s' hs')
    rw [hitsWithin_cons, hrest, Nat.add_zero]
    exact countP_take_le n _ w

/-- An interval as long as a window meets two windows at most. -/
theorem hitsWithin_le_two_mul [IsOrderedAddMonoid T] (h : Divides W ts ws) (n : Nat) (a : T) :
    hitsWithin W n a ws ≤ 2 * n := by
  induction ws generalizing ts with
  | nil => simp [hitsWithin]
  | cons w ws ih =>
    obtain ⟨s, hs, hin⟩ := h.opened w List.mem_cons_self
    rw [hitsWithin_cons]
    by_cases hsa : s + W ≤ a
    · -- the first window ends before the interval
      have hnone : (w.take n).countP (fun t => decide (a ≤ t ∧ t < a + W)) = 0 := by
        refine List.countP_eq_zero.2 ?_
        intro t ht
        have hlt : t < a := (hin t (List.mem_of_mem_take ht)).2.trans_le hsa
        simpa using fun hat => absurd hlt (not_lt.2 hat)
      rw [hnone, Nat.zero_add]
      exact ih h.tail
    · -- the others open after its start
      have hrest : hitsWithin W n a ws ≤ n := by
        refine hitsWithin_le h.tail n ?_
        intro w' hw' s' hs'
        exact (not_le.1 hsa).le.trans ((List.pairwise_cons.1 h.disjoint).1 w' hw' s hs s' hs')
      have hfirst := countP_take_le n (fun t => decide (a ≤ t ∧ t < a + W)) w
      omega

end FixedWindow

end CleanBackend
