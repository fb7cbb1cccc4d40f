import CleanBackend.Lib.FixedWindow

/-!
# Fixed windows over an unreliable line

A hit may be refused before it is counted, or be counted while its answer is lost; in both cases a default decides
(`verdicts`).  Where the default is to refuse, what is admitted is among the first `n` counted hits of every window,
so that an interval of length `W` admits at most `2 * n` hits (`admitted_le`).  Where the default is to admit, a hit
is refused only when more than `n` hits arrived in one interval of length `W` (`refused_crowded`).
-/

namespace CleanBackend

/-- What becomes of a hit. -/
inductive HitFate where
  | served
  | refused
  | answerLost
  deriving DecidableEq, Repr

def HitFate.counted : HitFate → Bool
  | served | answerLost => true
  | refused => false

namespace FixedWindow

variable {T : Type} [AddCommGroup T] [LinearOrder T]

/-- The verdict on each hit: whether it is admitted. -/
def verdicts (W : T) (n : Nat) (default : Bool) : Option (Window T) → List (T × HitFate) → List (T × Bool)
  | _, [] => []
  | w, (t, .served) :: hits =>
    (t, decide ((Window.hit W w t).count ≤ n)) :: verdicts W n default (some (Window.hit W w t)) hits
  | w, (t, .refused) :: hits => (t, default) :: verdicts W n default w hits
  | w, (t, .answerLost) :: hits => (t, default) :: verdicts W n default (some (Window.hit W w t)) hits

/-- The hits that are counted. -/
def counted (hits : List (T × HitFate)) : List T := (hits.filter (·.2.counted)).map Prod.fst

variable {W : T} {n : Nat} {hits : List (T × HitFate)}

/-- The default decides nothing where no hit fails. -/
theorem verdicts_of_served (h : ∀ hit ∈ hits, hit.2 = .served) (w : Option (Window T)) (default default' : Bool) :
    verdicts W n default w hits = verdicts W n default' w hits := by
  induction hits generalizing w with
  | nil => rfl
  | cons hit hits ih =>
    obtain ⟨t, fate⟩ := hit
    obtain rfl : fate = .served := h _ List.mem_cons_self
    rw [verdicts, verdicts, ih fun hit hhit => h hit (List.mem_cons_of_mem _ hhit)]

/-- Where a failure refuses, every admitted hit has been counted, up to `n`. -/
private theorem admitted_sublist (w : Option (Window T)) :
    (((verdicts W n false w hits).filter Prod.snd).map Prod.fst).Sublist
      (((trace W w (counted hits)).filter fun p => decide (p.2.count ≤ (n : Int))).map Prod.fst) := by
  induction hits generalizing w with
  | nil => exact List.Sublist.slnil
  | cons hit hits ih =>
    obtain ⟨t, fate⟩ := hit
    cases fate with
    | served =>
      show (((_ :: verdicts W n false _ hits).filter Prod.snd).map Prod.fst).Sublist
        (((_ :: trace W _ (counted hits)).filter _).map Prod.fst)
      by_cases hc : (Window.hit W w t).count ≤ n
      · simpa [hc] using ih (some (Window.hit W w t))
      · simpa [hc] using ih (some (Window.hit W w t))
    | refused => exact ih w
    | answerLost =>
      show ((verdicts W n false _ hits).filter Prod.snd |>.map Prod.fst).Sublist
        (((_ :: trace W _ (counted hits)).filter _).map Prod.fst)
      refine (ih _).trans ?_
      by_cases hc : (Window.hit W w t).count ≤ n <;> simp [hc]

/-- At most `2 * n` hits are admitted in an interval as long as a window. -/
theorem admitted_le [IsOrderedAddMonoid T] (hW : 0 < W) (hsorted : (hits.map Prod.fst).Pairwise (· ≤ ·)) (a : T) :
    (((verdicts W n false none hits).filter Prod.snd).map Prod.fst).countP
      (fun t => decide (a ≤ t ∧ t < a + W)) ≤ 2 * n := by
  have hts : (counted hits).Pairwise (· ≤ ·) := hsorted.sublist (List.filter_sublist.map _)
  refine (admitted_sublist none).countP_le.trans ?_
  rw [trace_none, List.filter_flatMap, List.map_flatMap]
  simp only [numbered_filter]
  exact hitsWithin_le_two_mul (windows_divides hW hts) n a

/-- The open window was opened by a hit of `past`, and has counted no more than have arrived since. -/
def Holds (W : T) (w : Option (Window T)) (past : List T) : Prop :=
  ∀ window, w = some window → ∃ s ∈ past, window.expiresAt = s + W ∧ window.count ≤ past.countP fun t =>
    decide (s ≤ t)

variable {w : Option (Window T)} {past : List T} {t : T}

theorem Holds.cons (h : Holds W w past) (t : T) : Holds W w (t :: past) := by
  intro window hw
  obtain ⟨s, hs, he, hc⟩ := h window hw
  refine ⟨s, List.mem_cons_of_mem t hs, he, hc.trans ?_⟩
  exact_mod_cast (List.sublist_cons_self t past).countP_le

/-- The window of a hit is open, and has counted no more than have arrived since it opened. -/
theorem Holds.hit [IsOrderedAddMonoid T] (hW : 0 < W) (h : Holds W w past) (hlast : ∀ t' ∈ past, t' ≤ t) :
    Holds W (some (Window.hit W w t)) (t :: past) ∧ t < (Window.hit W w t).expiresAt := by
  have hnew : Holds W (some ⟨t + W, 1⟩) (t :: past) ∧ t < t + W := by
    refine ⟨fun window hw => ?_, lt_add_of_pos_right t hW⟩
    cases hw
    refine ⟨t, List.mem_cons_self, rfl, ?_⟩
    rw [List.countP_cons_of_pos (by simp)]
    push_cast
    omega
  unfold Window.hit
  cases hw : w with
  | none => exact hnew
  | some window =>
    dsimp only
    split
    · exact hnew
    · rename_i hopen
      obtain ⟨s, hs, he, hc⟩ := h window hw
      refine ⟨fun window' hw' => ?_, not_le.1 hopen⟩
      cases hw'
      refine ⟨s, List.mem_cons_of_mem t hs, he, ?_⟩
      rw [List.countP_cons_of_pos (by simpa using hlast s hs)]
      push_cast
      omega

/-- Where a failure admits, a hit is refused only in an interval of length `W` with more than `n` hits. -/
private theorem refused_crowded_from [IsOrderedAddMonoid T] (past : List T) (hW : 0 < W) (h : Holds W w past)
    (hsorted : (hits.map Prod.fst).Pairwise (· ≤ ·)) (hlast : ∀ t' ∈ past, ∀ hit ∈ hits, t' ≤ hit.1)
    (hr : (t, false) ∈ verdicts W n true w hits) :
    ∃ a, n < (past ++ hits.map Prod.fst).countP fun t => decide (a ≤ t ∧ t < a + W) := by
  induction hits generalizing w past with
  | nil => cases hr
  | cons hit hits ih =>
    obtain ⟨t₀, fate⟩ := hit
    rw [List.map_cons, List.pairwise_cons] at hsorted
    have hlast₀ : ∀ t' ∈ past, t' ≤ t₀ := fun t' ht' => hlast t' ht' _ List.mem_cons_self
    have hnext : ∀ t' ∈ t₀ :: past, ∀ hit ∈ hits, t' ≤ hit.1 := by
      intro t' ht' hit hhit
      rcases List.mem_cons.1 ht' with rfl | ht'
      · exact hsorted.1 hit.1 (List.mem_map_of_mem hhit)
      · exact hlast t' ht' hit (List.mem_cons_of_mem _ hhit)
    have hperm : ∀ a, (past ++ (t₀ :: hits.map Prod.fst)).countP (fun t => decide (a ≤ t ∧ t < a + W)) =
        ((t₀ :: past) ++ hits.map Prod.fst).countP fun t => decide (a ≤ t ∧ t < a + W) := fun a =>
      List.perm_middle.countP_eq _
    -- the hits after this one
    have hrest : ∀ w', Holds W w' (t₀ :: past) → (t, false) ∈ verdicts W n true w' hits →
        ∃ a, n < (past ++ (t₀ :: hits.map Prod.fst)).countP fun t => decide (a ≤ t ∧ t < a + W) := by
      intro w' hw' hmem
      obtain ⟨a, ha⟩ := ih (t₀ :: past) hw' hsorted.2 hnext hmem
      exact ⟨a, (hperm a).symm ▸ ha⟩
    obtain ⟨hhit, hopen⟩ := h.hit hW hlast₀
    rw [List.map_cons]
    cases fate with
    | served =>
      rcases List.mem_cons.1 hr with hnow | hr
      · obtain ⟨s, -, he, hc⟩ := hhit _ rfl
        have hover : (n : Int) < (Window.hit W w t₀).count := by
          have := (Prod.mk.inj hnow).2
          simpa using this
        refine ⟨s, ?_⟩
        rw [hperm, List.countP_append]
        have hcount : (t₀ :: past).countP (fun t => decide (s ≤ t)) =
            (t₀ :: past).countP fun t => decide (s ≤ t ∧ t < s + W) := by
          refine List.countP_congr fun t' ht' => ?_
          have hle : t' ≤ t₀ := by
            rcases List.mem_cons.1 ht' with rfl | ht'
            · exact le_rfl
            · exact hlast₀ t' ht'
          have hlt : t' < s + W := hle.trans_lt (he ▸ hopen)
          simp [hlt]
        rw [← hcount]
        omega
      · exact hrest _ hhit hr
    | refused =>
      rcases List.mem_cons.1 hr with hnow | hr
      · cases hnow
      · exact hrest _ (h.cons t₀) hr
    | answerLost =>
      rcases List.mem_cons.1 hr with hnow | hr
      · cases hnow
      · exact hrest _ hhit hr

theorem refused_crowded [IsOrderedAddMonoid T] (hW : 0 < W) (hsorted : (hits.map Prod.fst).Pairwise (· ≤ ·))
    (hr : (t, false) ∈ verdicts W n true none hits) :
    ∃ a, n < (hits.map Prod.fst).countP fun t => decide (a ≤ t ∧ t < a + W) :=
  refused_crowded_from [] hW (fun _ hw => by cases hw) hsorted (fun _ ht => by cases ht) hr

end FixedWindow

end CleanBackend
