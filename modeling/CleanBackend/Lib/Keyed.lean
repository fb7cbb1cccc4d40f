import Mathlib.Data.List.Forall2
import Mathlib.Data.List.Nodup

/-!
# Rows with a unique key

A table is a list of rows.  `findBy key k` is the first row with key `k`, `UniqueBy key` says that no two rows share a
key, so that the row with a given key is found whatever the order of the rows.
-/

namespace CleanBackend

variable {ρ κ : Type}

/-- No two rows have the same key. -/
def UniqueBy (key : ρ → κ) (rows : List ρ) : Prop := (rows.map key).Nodup

theorem UniqueBy.eq_of_key {key : ρ → κ} {rows : List ρ} (h : UniqueBy key rows) {r r' : ρ} (hr : r ∈ rows)
    (hr' : r' ∈ rows) (he : key r = key r') : r = r' :=
  List.inj_on_of_nodup_map h hr hr' he

theorem UniqueBy.append_singleton {key : ρ → κ} {rows : List ρ} (h : UniqueBy key rows) {r : ρ}
    (hr : ∀ r' ∈ rows, key r' ≠ key r) : UniqueBy key (rows ++ [r]) := by
  unfold UniqueBy
  rw [List.map_append, List.nodup_append]
  refine ⟨h, by simp, ?_⟩
  intro k hk k' hk' he
  obtain ⟨r', hr', rfl⟩ := List.mem_map.1 hk
  rw [List.map_singleton, List.mem_singleton] at hk'
  exact hr r' hr' (he.trans hk')

theorem UniqueBy.map {key : ρ → κ} {f : ρ → ρ} (hf : ∀ r, key (f r) = key r) {rows : List ρ}
    (h : UniqueBy key rows) : UniqueBy key (rows.map f) := by
  unfold UniqueBy
  rwa [List.map_map, show key ∘ f = key from funext hf]

variable [DecidableEq κ]

instance (key : ρ → κ) (rows : List ρ) : Decidable (UniqueBy key rows) :=
  inferInstanceAs (Decidable (rows.map key).Nodup)

/-- The first row whose key is `k`. -/
def findBy (key : ρ → κ) (k : κ) (rows : List ρ) : Option ρ := rows.find? fun r => decide (key r = k)

@[simp] theorem findBy_nil (key : ρ → κ) (k : κ) : findBy key k [] = none := rfl

theorem findBy_cons (key : ρ → κ) (k : κ) (r : ρ) (rows : List ρ) :
    findBy key k (r :: rows) = if key r = k then some r else findBy key k rows := by
  unfold findBy
  rw [List.find?_cons]
  by_cases h : key r = k <;> simp [h]

theorem findBy_some {key : ρ → κ} {k : κ} {rows : List ρ} {r : ρ} (h : findBy key k rows = some r) :
    r ∈ rows ∧ key r = k := by
  unfold findBy at h
  exact ⟨List.mem_of_find?_eq_some h, by simpa using List.find?_some h⟩

theorem findBy_eq_none {key : ρ → κ} {k : κ} {rows : List ρ} :
    findBy key k rows = none ↔ ∀ r ∈ rows, key r ≠ k := by
  simp [findBy]

theorem findBy_append (key : ρ → κ) (k : κ) (rows rows' : List ρ) :
    findBy key k (rows ++ rows') = (findBy key k rows).or (findBy key k rows') := by
  simp [findBy, List.find?_append]

/-- An update that keeps the keys acts on the row that is found. -/
theorem findBy_map {key : ρ → κ} {f : ρ → ρ} (hf : ∀ r, key (f r) = key r) (k : κ) (rows : List ρ) :
    findBy key k (rows.map f) = (findBy key k rows).map f := by
  induction rows with
  | nil => rfl
  | cons r rows ih =>
    rw [List.map_cons, findBy_cons, findBy_cons, hf, ih]
    split <;> rfl

/-- In two tables whose rows are related one by one, related rows are found. -/
theorem findBy_forall₂ {σ : Type} {key : ρ → κ} {key' : σ → κ} {R : ρ → σ → Prop}
    (hkey : ∀ r s, R r s → key r = key' s) (k : κ) {rows : List ρ} {rows' : List σ} (h : List.Forall₂ R rows rows') :
    (findBy key k rows = none ∧ findBy key' k rows' = none) ∨
      ∃ r s, findBy key k rows = some r ∧ findBy key' k rows' = some s ∧ R r s := by
  induction h with
  | nil => exact Or.inl ⟨rfl, rfl⟩
  | @cons r s rows rows' hr _ ih =>
    rw [findBy_cons, findBy_cons, ← hkey r s hr]
    by_cases hk : key r = k
    · rw [if_pos hk, if_pos hk]
      exact Or.inr ⟨r, s, rfl, rfl, hr⟩
    · rw [if_neg hk, if_neg hk]
      exact ih

theorem UniqueBy.findBy_of_mem {key : ρ → κ} {rows : List ρ} (h : UniqueBy key rows) {r : ρ} (hr : r ∈ rows) :
    findBy key (key r) rows = some r := by
  cases hf : findBy key (key r) rows with
  | none => exact absurd rfl (findBy_eq_none.1 hf r hr)
  | some r' =>
    obtain ⟨hm, hk⟩ := findBy_some hf
    rw [h.eq_of_key hm hr hk]

end CleanBackend
