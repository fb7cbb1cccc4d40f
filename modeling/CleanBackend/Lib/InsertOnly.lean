import CleanBackend.Lib.ReadCommitted
import Mathlib.Logic.Function.Basic

/-!
# Tables that are only inserted into

The rows of a store no transaction updates: nobody holds a row lock, and an open transaction owns at most one row, the
one it has inserted.  `InsertOnly key s held` says so, with `held t` the row of `t`.  Inserting a row with a new key,
committing and rolling back keep it (`InsertOnly.insert`, `InsertOnly.commit`, `InsertOnly.abort`), and a commit of
`t` adds exactly the row of `t` to the committed ones (`InsertOnly.rows_commit`).
-/

namespace CleanBackend

variable {τ ρ κ : Type} [DecidableEq τ]

/-- The version of the slot a statement of `t` sees. -/
def Slot.seenBy (t : τ) : Slot τ ρ → Option ρ
  | stored row none => some row
  | stored row (some (owner, draft)) => if owner = t then some draft else some row
  | pending owner row => if owner = t then some row else none

/-- What a statement of `t` sees: the committed rows and what `t` itself has written. -/
def Store.seenBy (s : Store τ ρ) (t : τ) : List ρ := s.filterMap (Slot.seenBy t)

structure InsertOnly (key : ρ → κ) (s : Store τ ρ) (held : τ → Option ρ) : Prop where
  keyed : s.WellKeyed key
  unlocked : ∀ r l, .stored r l ∈ s → l = none
  pending : ∀ t r, .pending t r ∈ s ↔ held t = some r

namespace InsertOnly

variable {key : ρ → κ} {s : Store τ ρ} {held : τ → Option ρ}

omit [DecidableEq τ] in
theorem ofRows {rows : List ρ} (h : UniqueBy key rows) : InsertOnly key (Store.ofRows rows : Store τ ρ)
    fun _ => none where
  keyed := .ofRows h
  unlocked r l hm := by
    obtain ⟨x, -, hx⟩ := List.mem_map.1 hm
    cases hx
    rfl
  pending t r := by
    constructor
    · intro hm
      obtain ⟨x, -, hx⟩ := List.mem_map.1 hm
      cases hx
    · intro hm
      cases hm

/-- `t` inserts its row, under a key no slot has. -/
theorem insert (h : InsertOnly key s held) {t : τ} {r : ρ} (hn : held t = none) (hr : ∀ x ∈ s, key x.row ≠ key r) :
    InsertOnly key (s.insert t r) (Function.update held t (some r)) where
  keyed := h.keyed.insert hr
  unlocked r' l hm := by
    rcases Store.mem_insert.1 hm with hm | hm
    · exact h.unlocked r' l hm
    · cases hm
  pending u r' := by
    rw [Store.mem_insert, h.pending]
    by_cases hu : u = t
    · subst hu
      simp [hn, eq_comm]
    · simp [hu]

theorem commit (h : InsertOnly key s held) (t : τ) : InsertOnly key (s.commit t) (Function.update held t none) where
  keyed := h.keyed.commit t
  unlocked r l hm := by
    rcases l with _ | ⟨u, d⟩
    · rfl
    · have := h.unlocked _ _ (Store.locked_mem_commit.1 hm).1
      cases this
  pending u r := by
    rw [Store.pending_mem_commit, h.pending]
    by_cases hu : u = t
    · subst hu
      simp
    · simp [hu]

theorem abort (h : InsertOnly key s held) (t : τ) : InsertOnly key (s.abort t) (Function.update held t none) where
  keyed := h.keyed.abort t
  unlocked r l hm := by
    rcases l with _ | ⟨u, d⟩
    · rfl
    · have := h.unlocked _ _ (Store.locked_mem_abort.1 hm).1
      cases this
  pending u r := by
    rw [Store.pending_mem_abort, h.pending]
    by_cases hu : u = t
    · subst hu
      simp
    · simp [hu]

omit [DecidableEq τ] in
private theorem rows_nodup (h : InsertOnly key s held) : s.rows.Nodup := List.Nodup.of_map key h.keyed.uniqueBy_rows

omit [DecidableEq τ] in
/-- The key of the row `t` holds is not the key of a committed one. -/
theorem key_ne (h : InsertOnly key s held) {t : τ} {r r' : ρ} (hr : held t = some r) (hr' : r' ∈ s.rows) :
    key r' ≠ key r := by
  intro he
  obtain ⟨l, hl⟩ := Store.mem_rows.1 hr'
  have heq := h.keyed.eq_of_key hl ((h.pending t r).2 hr) he
  cases heq

/-- A commit of `t` adds the row of `t`. -/
theorem rows_commit (h : InsertOnly key s held) (t : τ) : (s.commit t).rows.Perm (s.rows ++ (held t).toList) := by
  have hnew : (s.rows ++ (held t).toList).Nodup := by
    rw [List.nodup_append]
    refine ⟨h.rows_nodup, by cases held t <;> simp, fun r hr r' hr' he => ?_⟩
    exact h.key_ne (Option.mem_toList.1 hr') hr (congrArg key he)
  refine (List.perm_ext_iff_of_nodup (h.commit t).rows_nodup hnew).2 fun r => ?_
  rw [List.mem_append, Option.mem_toList, ← h.pending]
  constructor
  · intro hr
    rcases Store.mem_rows_commit hr with hr | ⟨r₀, hr⟩ | hr
    · exact Or.inl hr
    · have hl := h.unlocked _ _ hr
      cases hl
    · exact Or.inr hr
  · rintro (hr | hr)
    · rcases Store.rows_commit_cases t hr with hr | ⟨d, hr⟩
      · exact hr
      · have hl := h.unlocked _ _ hr
        cases hl
    · exact Store.pending_mem_rows_commit hr

theorem mem_seenBy (h : InsertOnly key s held) {t : τ} {r : ρ} :
    r ∈ s.seenBy t ↔ r ∈ s.rows ∨ held t = some r := by
  rw [← h.pending, Store.mem_rows]
  simp only [Store.seenBy, List.mem_filterMap]
  constructor
  · rintro ⟨x, hx, he⟩
    rcases x with ⟨row, l⟩ | ⟨owner, row⟩
    · obtain rfl := h.unlocked row l hx
      cases he
      exact Or.inl ⟨none, hx⟩
    · simp only [Slot.seenBy] at he
      split at he <;> cases he
      rename_i ho
      subst ho
      exact Or.inr hx
  · rintro (⟨l, hx⟩ | hx)
    · obtain rfl := h.unlocked r l hx
      exact ⟨_, hx, rfl⟩
    · exact ⟨_, hx, by simp [Slot.seenBy]⟩

/-- A transaction that holds nothing sees the committed rows. -/
theorem seenBy_eq_rows (h : InsertOnly key s held) {t : τ} (hn : held t = none) : s.seenBy t = s.rows := by
  refine List.filterMap_congr fun x hx => ?_
  rcases x with ⟨row, l⟩ | ⟨owner, row⟩
  · obtain rfl := h.unlocked row l hx
    rfl
  · have ho : owner ≠ t := by
      rintro rfl
      rw [h.pending, hn] at hx
      cases hx
    simp [Slot.seenBy, Slot.committed, ho]

end InsertOnly

end CleanBackend
