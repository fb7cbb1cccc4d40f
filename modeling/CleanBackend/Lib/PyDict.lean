import CleanBackend.Lib.Keyed

/-!
# Python dictionaries

A `dict` in insertion order.  Setting a key that is present keeps its place.
-/

namespace CleanBackend

variable {κ ν : Type}

abbrev PyDict (κ ν : Type) := List (κ × ν)

namespace PyDict

variable [DecidableEq κ]

/-- `d.get(k)` -/
def get (d : PyDict κ ν) (k : κ) : Option ν := (findBy Prod.fst k d).map Prod.snd

/-- `d[k] = v` -/
def set : PyDict κ ν → κ → ν → PyDict κ ν
  | [], k, v => [(k, v)]
  | (k', v') :: d, k, v => if k' = k then (k, v) :: d else (k', v') :: set d k v

@[simp] theorem get_nil (k : κ) : get ([] : PyDict κ ν) k = none := rfl

theorem get_cons (k' : κ) (v : ν) (d : PyDict κ ν) (k : κ) :
    get ((k', v) :: d) k = if k' = k then some v else get d k := by
  unfold get
  rw [findBy_cons]
  by_cases h : k' = k <;> simp [h]

theorem get_set (d : PyDict κ ν) (k : κ) (v : ν) (k' : κ) :
    (d.set k v).get k' = if k = k' then some v else d.get k' := by
  induction d with
  | nil => exact get_cons k v [] k'
  | cons entry d ih =>
    obtain ⟨l, w⟩ := entry
    by_cases hl : l = k
    · subst hl
      simp only [set, if_true, get_cons]
      by_cases hk : l = k' <;> simp [hk]
    · simp only [set, if_neg hl, get_cons, ih]
      by_cases hk : k = k'
      · subst hk; simp [hl]
      · simp [hk]

theorem mem_set {d : PyDict κ ν} {k : κ} {v : ν} {e : κ × ν} (h : e ∈ d.set k v) : e = (k, v) ∨ e ∈ d := by
  induction d with
  | nil => exact Or.inl (List.mem_singleton.1 h)
  | cons entry d ih =>
    obtain ⟨l, w⟩ := entry
    rw [set] at h
    split at h
    · exact (List.mem_cons.1 h).imp_right (List.mem_cons_of_mem _)
    · rcases List.mem_cons.1 h with h | h
      · exact Or.inr (h ▸ List.mem_cons_self)
      · exact (ih h).imp_right (List.mem_cons_of_mem _)

/-- A new key goes to the end. -/
theorem set_of_get_none {d : PyDict κ ν} {k : κ} (h : d.get k = none) (v : ν) : d.set k v = d ++ [(k, v)] := by
  induction d with
  | nil => rfl
  | cons entry d ih =>
    obtain ⟨l, w⟩ := entry
    rw [get_cons] at h
    split at h
    · cases h
    · rename_i hl
      rw [set, if_neg hl, ih h, List.cons_append]

/-- Setting a key that is present commutes with setting a new one. -/
theorem set_comm {d : PyDict κ ν} {k k' : κ} {v : ν} (hk : d.get k = some v) (hk' : d.get k' = none) (w w' : ν) :
    (d.set k' w').set k w = (d.set k w).set k' w' := by
  have hne : k ≠ k' := by
    rintro rfl
    rw [hk] at hk'
    cases hk'
  have hnone : (d.set k w).get k' = none := by rw [get_set, if_neg hne, hk']
  rw [set_of_get_none hk', set_of_get_none hnone]
  clear hk' hnone
  induction d with
  | nil => cases hk
  | cons entry d ih =>
    obtain ⟨l, u⟩ := entry
    rw [get_cons] at hk
    rw [List.cons_append, set, set]
    by_cases hl : l = k
    · rw [if_pos hl, if_pos hl, List.cons_append]
    · rw [if_neg hl] at hk
      rw [if_neg hl, if_neg hl, List.cons_append, ih hk]

/-- Setting a key within a part of the keys. -/
theorem filter_set (d : PyDict κ ν) {k : κ} {p : κ → Bool} (hp : p k = true) (v : ν) :
    (d.set k v).filter (fun e => p e.1) = set (d.filter fun e => p e.1) k v := by
  induction d with
  | nil => simp [set, hp]
  | cons entry d ih =>
    obtain ⟨l, w⟩ := entry
    rw [set]
    by_cases hl : l = k
    · subst hl
      simp [set, hp]
    · rw [if_neg hl]
      cases hpl : p l with
      | true =>
        rw [List.filter_cons_of_pos (by exact hpl), List.filter_cons_of_pos (by exact hpl), set, if_neg hl, ih]
      | false =>
        rw [List.filter_cons_of_neg (by simp [hpl]), List.filter_cons_of_neg (by simp [hpl]), ih]

/-- Setting a key outside of a part of the keys. -/
theorem filter_set_of_not (d : PyDict κ ν) {k : κ} {p : κ → Bool} (hp : p k = false) (v : ν) :
    (d.set k v).filter (fun e => p e.1) = d.filter fun e => p e.1 := by
  induction d with
  | nil => simp [set, hp]
  | cons entry d ih =>
    obtain ⟨l, w⟩ := entry
    rw [set]
    by_cases hl : l = k
    · subst hl
      simp [hp]
    · rw [if_neg hl, List.filter_cons, List.filter_cons, ih]

/-- A key of a part is looked up in the part. -/
theorem get_filter (d : PyDict κ ν) {k : κ} {p : κ → Bool} (hp : p k = true) :
    get (d.filter fun e => p e.1) k = d.get k := by
  induction d with
  | nil => rfl
  | cons entry d ih =>
    obtain ⟨l, w⟩ := entry
    cases hpl : p l with
    | true => rw [List.filter_cons_of_pos (by exact hpl), get_cons, get_cons, ih]
    | false =>
      have hne : l ≠ k := by
        rintro rfl
        rw [hp] at hpl
        cases hpl
      rw [List.filter_cons_of_neg (by simp [hpl]), get_cons, if_neg hne, ih]

theorem mem_of_get {d : PyDict κ ν} {k : κ} {v : ν} (h : d.get k = some v) : (k, v) ∈ d := by
  obtain ⟨e, he, rfl⟩ := Option.map_eq_some_iff.1 h
  obtain ⟨hm, rfl⟩ := findBy_some he
  exact hm

end PyDict

end CleanBackend
