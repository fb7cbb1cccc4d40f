import Mathlib.Order.Lattice

/-!
# `ORDER BY` and `LIMIT 1`

A query with an `ORDER BY` returns its rows in any order that agrees with the sort key (`OrderBy.Sorts`): the plan and
the physical order decide among rows of one key.  With `LIMIT 1` it returns some row that no row sorts before
(`OrderBy.First`, `OrderBy.first_iff_sorts`).  Which one is settled exactly when no two rows lead the order together
(`OrderBy.TieFree`, `OrderBy.existsUnique_first_iff`).
-/

namespace CleanBackend

namespace OrderBy

variable {α κ : Type} [LinearOrder κ] (key : α → κ)

/-- `out` is what the query may return. -/
structure Sorts (rows out : List α) : Prop where
  perm : out.Perm rows
  sorted : out.Pairwise fun a b => key a ≤ key b

/-- `LIMIT 1` may return `a`. -/
def First (rows : List α) (a : α) : Prop := a ∈ rows ∧ ∀ b ∈ rows, key a ≤ key b

/-- Of two rows with the same key, neither is first. -/
def TieFree (rows : List α) : Prop := ∀ a ∈ rows, ∀ b ∈ rows, a ≠ b → key a = key b → ∃ c ∈ rows, key c < key a

variable {key} {rows rows' : List α} {a b : α}

theorem exists_sorts (key : α → κ) (rows : List α) : ∃ out, Sorts key rows out := by
  let le : α → α → Bool := fun a b => decide (key a ≤ key b)
  have htrans : ∀ a b c, le a b → le b c → le a c := fun a b c hab hbc =>
    decide_eq_true (le_trans (of_decide_eq_true hab) (of_decide_eq_true hbc))
  have htotal : ∀ a b, le a b || le b a := by
    intro a b
    rcases le_total (key a) (key b) with hab | hba
    · simp [le, hab]
    · simp [le, hba]
  have hsorted := List.pairwise_mergeSort htrans htotal rows
  exact ⟨rows.mergeSort le, List.mergeSort_perm _ _, hsorted.imp of_decide_eq_true⟩

/-- The first row of an order the query may return. -/
theorem Sorts.first {out : List α} (h : Sorts key rows (a :: out)) : First key rows a := by
  obtain ⟨hperm, hsorted⟩ := h
  refine ⟨hperm.mem_iff.1 List.mem_cons_self, fun b hb => ?_⟩
  rcases List.mem_cons.1 (hperm.mem_iff.2 hb) with rfl | hb
  · exact le_refl _
  · exact (List.pairwise_cons.1 hsorted).1 b hb

/-- What `LIMIT 1` may return is what stands first in some order. -/
theorem first_iff_sorts : First key rows a ↔ ∃ out, Sorts key rows out ∧ out.head? = some a := by
  constructor
  · rintro ⟨ha, hle⟩
    obtain ⟨l, r, rfl⟩ := List.append_of_mem ha
    have hperm : (a :: (l ++ r)).Perm (l ++ a :: r) := List.perm_middle.symm
    obtain ⟨out, hout, hsorted⟩ := exists_sorts key (l ++ r)
    refine ⟨a :: out, ⟨(hout.cons a).trans hperm, List.pairwise_cons.2 ⟨fun b hb => ?_, hsorted⟩⟩, rfl⟩
    exact hle b (hperm.mem_iff.1 (List.mem_cons_of_mem a (hout.mem_iff.1 hb)))
  · rintro ⟨out, hsorts, hhead⟩
    obtain ⟨out, rfl⟩ := List.head?_eq_some_iff.1 hhead
    exact hsorts.first

theorem exists_first (key : α → κ) (h : rows ≠ []) : ∃ a, First key rows a := by
  obtain ⟨out, hsorts⟩ := exists_sorts key rows
  cases out with
  | nil => exact absurd hsorts.perm.nil_eq.symm h
  | cons a out => exact ⟨a, hsorts.first⟩

/-- The physical order of the rows does not matter. -/
theorem first_congr (h : ∀ a, a ∈ rows ↔ a ∈ rows') : First key rows a ↔ First key rows' a := by
  unfold First
  simp only [h]

private theorem First.key_eq (ha : First key rows a) (hb : First key rows b) : key a = key b :=
  le_antisymm (ha.2 b hb.1) (hb.2 a ha.1)

private theorem tieFree_iff : TieFree key rows ↔ ∀ a b, First key rows a → First key rows b → a = b := by
  constructor
  · intro h a b ha hb
    by_contra hne
    obtain ⟨c, hc, hlt⟩ := h a ha.1 b hb.1 hne (ha.key_eq hb)
    exact absurd (ha.2 c hc) (not_le_of_gt hlt)
  · intro h a ha b hb hne hkey
    by_contra hno
    have hle : ∀ c ∈ rows, key a ≤ key c := fun c hc => le_of_not_gt fun hlt => hno ⟨c, hc, hlt⟩
    exact hne (h a b ⟨ha, hle⟩ ⟨hb, fun c hc => hkey ▸ hle c hc⟩)

/-- There is one first row exactly when no two rows lead the order together. -/
theorem existsUnique_first_iff (h : rows ≠ []) : (∃! a, First key rows a) ↔ TieFree key rows := by
  rw [tieFree_iff]
  constructor
  · exact fun hunique a b ha hb => hunique.unique ha hb
  · intro hall
    obtain ⟨a, ha⟩ := exists_first key h
    exact ⟨a, ha, fun b hb => hall b a hb ha⟩

/-- A column that tells the rows apart is settled exactly when the first row is. -/
theorem exists_forall_first_iff {β : Type} {column : α → β} (hinj : ∀ a ∈ rows, ∀ b ∈ rows,
    column a = column b → a = b)
    (h : rows ≠ []) : (∃ v, ∀ a, First key rows a → column a = v) ↔ TieFree key rows := by
  rw [tieFree_iff]
  constructor
  · rintro ⟨v, hv⟩ a b ha hb
    exact hinj a ha.1 b hb.1 ((hv a ha).trans (hv b hb).symm)
  · intro hall
    obtain ⟨a, ha⟩ := exists_first key h
    exact ⟨column a, fun b hb => congrArg column (hall b a hb ha)⟩

end OrderBy

end CleanBackend
