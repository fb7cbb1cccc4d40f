import CleanBackend.Lib.Keyed

/-!
# Lists with entries left out

`Thinned R P l l'`: the list `l'` is `l` without some of its entries that meet `P`, the others being related by `R` in
order.  When `P` says that an entry no longer counts, whatever counts in `l` counts in `l'`: it is found by its key
(`Thinned.findBy`) and counted (`Thinned.countP_eq`).
-/

namespace CleanBackend

variable {α β : Type} {R : α → β → Prop} {P : α → Prop} {l m : List α} {l' m' : List β}

inductive Thinned (R : α → β → Prop) (P : α → Prop) : List α → List β → Prop where
  | nil : Thinned R P [] []
  | keep {a : α} {b : β} {l : List α} {l' : List β} (hab : R a b) (h : Thinned R P l l') :
    Thinned R P (a :: l) (b :: l')
  | drop {a : α} {l : List α} {l' : List β} (ha : P a) (h : Thinned R P l l') : Thinned R P (a :: l) l'

namespace Thinned

theorem refl {S : α → α → Prop} (hS : ∀ a, S a a) (P : α → Prop) (l : List α) : Thinned S P l l := by
  induction l with
  | nil => exact .nil
  | cons a l ih => exact .keep (hS a) ih

theorem mono {P' : α → Prop} (h : Thinned R P l l') (hP : ∀ a, P a → P' a) : Thinned R P' l l' := by
  induction h with
  | nil => exact .nil
  | keep hab _ ih => exact .keep hab ih
  | drop ha _ ih => exact .drop (hP _ ha) ih

theorem append (h : Thinned R P l l') (h' : Thinned R P m m') : Thinned R P (l ++ m) (l' ++ m') := by
  induction h with
  | nil => exact h'
  | keep hab _ ih => exact .keep hab ih
  | drop ha _ ih => exact .drop ha ih

theorem singleton {a : α} {b : β} (hab : R a b) : Thinned R P [a] [b] := .keep hab .nil

/-- Every entry that is left comes from one of the list. -/
theorem exists_of_mem (h : Thinned R P l l') {b : β} (hb : b ∈ l') : ∃ a ∈ l, R a b := by
  induction h with
  | nil => cases hb
  | keep hab _ ih =>
    rcases List.mem_cons.1 hb with rfl | hb
    · exact ⟨_, List.mem_cons_self, hab⟩
    · obtain ⟨a, ha, hr⟩ := ih hb
      exact ⟨a, List.mem_cons_of_mem _ ha, hr⟩
  | drop _ _ ih =>
    obtain ⟨a, ha, hr⟩ := ih hb
    exact ⟨a, List.mem_cons_of_mem _ ha, hr⟩

/-- An update of both lists that agrees on related entries. -/
theorem map {γ δ : Type} {R' : γ → δ → Prop} {P' : γ → Prop} {f : α → γ} {g : β → δ} (h : Thinned R P l l')
    (hR : ∀ a ∈ l, ∀ b ∈ l', R a b → R' (f a) (g b)) (hP : ∀ a ∈ l, P a → P' (f a)) :
    Thinned R' P' (l.map f) (l'.map g) := by
  induction h with
  | nil => exact .nil
  | keep hab _ ih =>
    refine .keep (hR _ List.mem_cons_self _ List.mem_cons_self hab) (ih ?_ ?_)
    · exact fun a ha b hb => hR a (List.mem_cons_of_mem _ ha) b (List.mem_cons_of_mem _ hb)
    · exact fun a ha => hP a (List.mem_cons_of_mem _ ha)
  | drop ha _ ih =>
    refine .drop (hP _ List.mem_cons_self ha) (ih ?_ ?_)
    · exact fun a ha b hb => hR a (List.mem_cons_of_mem _ ha) b hb
    · exact fun a ha => hP a (List.mem_cons_of_mem _ ha)

/-- Entries that no longer count may be left out. -/
theorem filter_right {p : β → Bool} (h : Thinned R P l l') (hp : ∀ a b, R a b → p b = false → P a) :
    Thinned R P l (l'.filter p) := by
  induction h with
  | nil => exact .nil
  | @keep a b l l' hab _ ih =>
    cases hb : p b with
    | true => rw [List.filter_cons_of_pos hb]; exact .keep hab ih
    | false => rw [List.filter_cons_of_neg (by simp [hb])]; exact .drop (hp a b hab hb) ih
  | drop ha _ ih => exact .drop ha ih

theorem countP_eq {p : α → Bool} {q : β → Bool} (h : Thinned R P l l') (hR : ∀ a b, R a b → p a = q b)
    (hP : ∀ a, P a → p a = false) : l.countP p = l'.countP q := by
  induction h with
  | nil => rfl
  | keep hab _ ih => rw [List.countP_cons, List.countP_cons, ih, hR _ _ hab]
  | drop ha _ ih => rw [List.countP_cons_of_neg (by simp [hP _ ha]), ih]

/-! ### Entries by key -/

variable {κ : Type} [DecidableEq κ] {key : α → κ} {key' : β → κ} {k : κ}

theorem findBy_none (h : Thinned R P l l') (hkey : ∀ a b, R a b → key a = key' b) (hk : findBy key k l = none) :
    findBy key' k l' = none := by
  rw [findBy_eq_none] at hk ⊢
  intro b hb
  obtain ⟨a, ha, hab⟩ := h.exists_of_mem hb
  rw [← hkey a b hab]
  exact hk a ha

/-- The entry with a key is left, or it no longer counts. -/
theorem findBy (h : Thinned R P l l') (hkey : ∀ a b, R a b → key a = key' b) (hl : UniqueBy key l) {a : α}
    (ha : findBy key k l = some a) :
    (∃ b, CleanBackend.findBy key' k l' = some b ∧ R a b) ∨ (P a ∧ CleanBackend.findBy key' k l' = none) := by
  induction h with
  | nil => cases ha
  | @keep c d l l' hcd h ih =>
    rw [findBy_cons] at ha ⊢
    rw [← hkey c d hcd]
    by_cases hc : key c = k
    · rw [if_pos hc] at ha ⊢
      cases ha
      exact Or.inl ⟨d, rfl, hcd⟩
    · rw [if_neg hc] at ha ⊢
      exact ih (List.nodup_cons.1 hl).2 ha
  | @drop c l l' hc h ih =>
    rw [findBy_cons] at ha
    have htail := List.nodup_cons.1 hl
    by_cases hck : key c = k
    · rw [if_pos hck] at ha
      cases ha
      -- no other entry has its key
      have hnone : CleanBackend.findBy key k l = none := by
        rw [findBy_eq_none]
        intro a hmem hak
        exact htail.1 (hck ▸ hak ▸ List.mem_map_of_mem hmem)
      exact Or.inr ⟨hc, h.findBy_none hkey hnone⟩
    · rw [if_neg hck] at ha
      exact ih htail.2 ha

end Thinned

end CleanBackend
