import CleanBackend.Lib.Keyed

/-!
# Rows under READ COMMITTED

A store keeps, for every row, the committed version and, while a transaction holds the row lock, the version that
transaction has written; a row inserted by an open transaction is pending.  Readers see the committed rows only
(`Store.rows`).  A transaction that wants a row (`Store.access`) finds it free, its own, or held by another
transaction it has to wait for; what it then reads is the latest committed version.  An insert of a duplicate key
waits for a pending row and is refused by a stored one (`Store.clash`).

Writing, inserting and rolling back never change the committed rows, committing changes only the rows the transaction
holds.
-/

namespace CleanBackend

/-- A stored row with its lock (the holder, and the version it has written), or a row an open transaction inserted. -/
inductive Slot (τ ρ : Type) where
  | stored (row : ρ) (lock : Option (τ × ρ))
  | pending (owner : τ) (row : ρ)
  deriving DecidableEq, Repr

abbrev Store (τ ρ : Type) := List (Slot τ ρ)

/-- What a transaction finds when it wants to lock a row. -/
inductive Access (τ ρ : Type) where
  | absent
  | free (row : ρ)
  | mine (row : ρ)
  | heldBy (owner : τ)
  deriving DecidableEq, Repr

/-- What an insert meets in a unique index. -/
inductive Clash (τ : Type) where
  | none
  | waitFor (owner : τ)
  | duplicate
  deriving DecidableEq, Repr

variable {τ ρ κ : Type}

namespace Slot

def row : Slot τ ρ → ρ
  | stored row _ => row
  | pending _ row => row

def committed : Slot τ ρ → Option ρ
  | stored row _ => some row
  | pending _ _ => none

variable [DecidableEq τ] [DecidableEq κ]

/-- `t` locks the row with key `k`, if it is free or its own, and writes `f` of its latest version. -/
def write (key : ρ → κ) (t : τ) (k : κ) (f : ρ → ρ) : Slot τ ρ → Slot τ ρ
  | stored row none => if key row = k then stored row (some (t, f row)) else stored row none
  | stored row (some (owner, draft)) =>
    if key row = k ∧ owner = t then stored row (some (owner, f draft)) else stored row (some (owner, draft))
  | pending owner row => if key row = k ∧ owner = t then pending owner (f row) else pending owner row

/-- The version of `t` becomes the committed one. -/
def commit (t : τ) : Slot τ ρ → Slot τ ρ
  | stored row none => stored row none
  | stored row (some (owner, draft)) =>
    if owner = t then stored draft none else stored row (some (owner, draft))
  | pending owner row => if owner = t then stored row none else pending owner row

/-- The version of `t` is dropped, and with it a row `t` inserted. -/
def abort (t : τ) : Slot τ ρ → Option (Slot τ ρ)
  | stored row none => some (stored row none)
  | stored row (some (owner, draft)) =>
    if owner = t then some (stored row none) else some (stored row (some (owner, draft)))
  | pending owner row => if owner = t then none else some (pending owner row)

end Slot

namespace Store

/-- The committed rows. -/
def rows (s : Store τ ρ) : List ρ := s.filterMap Slot.committed

/-- The store after a load of committed rows. -/
def ofRows (rows : List ρ) : Store τ ρ := rows.map fun r => .stored r none

/-- `t` inserts a row. -/
def insert (s : Store τ ρ) (t : τ) (r : ρ) : Store τ ρ := s ++ [.pending t r]

variable [DecidableEq τ] [DecidableEq κ]

def write (s : Store τ ρ) (key : ρ → κ) (t : τ) (k : κ) (f : ρ → ρ) : Store τ ρ := s.map (Slot.write key t k f)

def commit (s : Store τ ρ) (t : τ) : Store τ ρ := s.map (Slot.commit t)

def abort (s : Store τ ρ) (t : τ) : Store τ ρ := s.filterMap (Slot.abort t)

def access (s : Store τ ρ) (key : ρ → κ) (t : τ) (k : κ) : Access τ ρ :=
  match findBy (fun x => key x.row) k s with
  | none => .absent
  | some (.stored row none) => .free row
  | some (.stored _ (some (owner, draft))) => if owner = t then .mine draft else .heldBy owner
  | some (.pending owner row) => if owner = t then .mine row else .absent

def clash (s : Store τ ρ) (key : ρ → κ) (t : τ) (k : κ) : Clash τ :=
  match findBy (fun x => key x.row) k s with
  | none => .none
  | some (.stored _ _) => .duplicate
  | some (.pending owner _) => if owner = t then .duplicate else .waitFor owner

/-! ### The committed rows -/

omit [DecidableEq τ] in
theorem mem_rows {s : Store τ ρ} {r : ρ} : r ∈ s.rows ↔ ∃ lock, .stored r lock ∈ s := by
  simp only [rows, List.mem_filterMap]
  constructor
  · rintro ⟨x, hx, hr⟩
    cases x with
    | stored row lock => cases hr; exact ⟨lock, hx⟩
    | pending owner row => cases hr
  · rintro ⟨lock, h⟩
    exact ⟨_, h, rfl⟩

omit [DecidableEq τ] in
@[simp] theorem rows_ofRows (l : List ρ) : (ofRows l : Store τ ρ).rows = l := by
  simp [rows, ofRows, List.filterMap_map, Function.comp_def, Slot.committed]

omit [DecidableEq τ] in
@[simp] theorem rows_insert (s : Store τ ρ) (t : τ) (r : ρ) : (s.insert t r).rows = s.rows := by
  simp [rows, insert, Slot.committed]

@[simp] theorem rows_write (s : Store τ ρ) (key : ρ → κ) (t : τ) (k : κ) (f : ρ → ρ) :
    (s.write key t k f).rows = s.rows := by
  unfold rows write
  rw [List.filterMap_map]
  congr 1
  funext x
  rcases x with ⟨row, _ | ⟨owner, draft⟩⟩ | ⟨owner, row⟩ <;> simp only [Function.comp_apply, Slot.write] <;>
    split <;> rfl

@[simp] theorem rows_abort (s : Store τ ρ) (t : τ) : (s.abort t).rows = s.rows := by
  unfold rows abort
  rw [List.filterMap_filterMap]
  congr 1
  funext x
  rcases x with ⟨row, _ | ⟨owner, draft⟩⟩ | ⟨owner, row⟩
  · rfl
  · simp only [Slot.abort]; split <;> rfl
  · simp only [Slot.abort]; split <;> rfl

/-! ### Where the slots of a changed store come from -/

omit [DecidableEq τ] in
theorem mem_insert {s : Store τ ρ} {t : τ} {r : ρ} {x : Slot τ ρ} :
    x ∈ s.insert t r ↔ x ∈ s ∨ x = .pending t r := by
  simp [insert]

/-- A lock after a write of `t` on `k`: an old lock elsewhere, or the lock of `t` on `k`. -/
theorem locked_mem_write {s : Store τ ρ} {key : ρ → κ} {t u : τ} {k : κ} {f : ρ → ρ} {r d : ρ} :
    .stored r (some (u, d)) ∈ s.write key t k f ↔
      (.stored r (some (u, d)) ∈ s ∧ (key r = k → u ≠ t)) ∨
      (key r = k ∧ u = t ∧ .stored r none ∈ s ∧ d = f r) ∨
      (key r = k ∧ u = t ∧ ∃ d₀, .stored r (some (t, d₀)) ∈ s ∧ d = f d₀) := by
  simp only [write, List.mem_map]
  constructor
  · rintro ⟨x, hx, he⟩
    rcases x with ⟨row, _ | ⟨owner, draft⟩⟩ | ⟨owner, row⟩ <;> simp only [Slot.write] at he
    · split at he
      · rename_i hk
        cases he
        exact Or.inr (Or.inl ⟨hk, rfl, hx, rfl⟩)
      · cases he
    · split at he
      · rename_i hk
        obtain ⟨hk, rfl⟩ := hk
        cases he
        exact Or.inr (Or.inr ⟨hk, rfl, draft, hx, rfl⟩)
      · rename_i hk
        cases he
        exact Or.inl ⟨hx, fun hk' hu => hk ⟨hk', hu⟩⟩
    · split at he <;> cases he
  · rintro (⟨hx, hk⟩ | ⟨hk, rfl, hx, rfl⟩ | ⟨hk, rfl, d₀, hx, rfl⟩)
    · refine ⟨_, hx, ?_⟩
      simp only [Slot.write]
      rw [if_neg fun h => hk h.1 h.2]
    · exact ⟨_, hx, by simp [Slot.write, hk]⟩
    · exact ⟨_, hx, by simp [Slot.write, hk]⟩

/-- A lock of `t` after its write on `k`: on another row, or on `k`, which was free or its own. -/
theorem own_mem_write {s : Store τ ρ} {key : ρ → κ} {t : τ} {k : κ} {f : ρ → ρ} {r d : ρ}
    (h : .stored r (some (t, d)) ∈ s.write key t k f) :
    (.stored r (some (t, d)) ∈ s ∧ key r ≠ k) ∨ (.stored r none ∈ s ∧ key r = k ∧ d = f r) ∨
    (∃ d₀, .stored r (some (t, d₀)) ∈ s ∧ key r = k ∧ d = f d₀) := by
  rcases locked_mem_write.1 h with ⟨hm, hk⟩ | ⟨hk, -, hm, hd⟩ | ⟨hk, -, d₀, hm, hd⟩
  · exact Or.inl ⟨hm, fun he => hk he rfl⟩
  · exact Or.inr (Or.inl ⟨hm, hk, hd⟩)
  · exact Or.inr (Or.inr ⟨d₀, hm, hk, hd⟩)

theorem pending_mem_write {s : Store τ ρ} {key : ρ → κ} {t u : τ} {k : κ} {f : ρ → ρ} {r : ρ} :
    .pending u r ∈ s.write key t k f ↔
      (.pending u r ∈ s ∧ (key r = k → u ≠ t)) ∨ (u = t ∧ ∃ r₀, .pending t r₀ ∈ s ∧ key r₀ = k ∧ r = f r₀) := by
  simp only [write, List.mem_map]
  constructor
  · rintro ⟨x, hx, he⟩
    rcases x with ⟨row, _ | ⟨owner, draft⟩⟩ | ⟨owner, row⟩ <;> simp only [Slot.write] at he
    · split at he <;> cases he
    · split at he <;> cases he
    · split at he
      · rename_i hk
        obtain ⟨hk, rfl⟩ := hk
        cases he
        exact Or.inr ⟨rfl, row, hx, hk, rfl⟩
      · rename_i hk
        cases he
        exact Or.inl ⟨hx, fun hk' hu => hk ⟨hk', hu⟩⟩
  · rintro (⟨hx, hk⟩ | ⟨rfl, r₀, hx, hk, rfl⟩)
    · refine ⟨_, hx, ?_⟩
      simp only [Slot.write]
      rw [if_neg fun h => hk h.1 h.2]
    · exact ⟨_, hx, by simp [Slot.write, hk]⟩

omit [DecidableEq κ] in
private theorem free_mem_commit {s : Store τ ρ} {t : τ} {r : ρ} :
    .stored r none ∈ s.commit t ↔
      .stored r none ∈ s ∨ (∃ r₀, .stored r₀ (some (t, r)) ∈ s) ∨ .pending t r ∈ s := by
  simp only [commit, List.mem_map]
  constructor
  · rintro ⟨x, hx, he⟩
    rcases x with ⟨row, _ | ⟨owner, draft⟩⟩ | ⟨owner, row⟩ <;> simp only [Slot.commit] at he
    · cases he; exact Or.inl hx
    · split at he <;> cases he
      rename_i ho
      subst ho
      exact Or.inr (Or.inl ⟨row, hx⟩)
    · split at he <;> cases he
      rename_i ho
      subst ho
      exact Or.inr (Or.inr hx)
  · rintro (hx | ⟨r₀, hx⟩ | hx)
    · exact ⟨_, hx, rfl⟩
    · exact ⟨_, hx, by simp [Slot.commit]⟩
    · exact ⟨_, hx, by simp [Slot.commit]⟩

omit [DecidableEq κ] in
theorem locked_mem_commit {s : Store τ ρ} {t u : τ} {r d : ρ} :
    .stored r (some (u, d)) ∈ s.commit t ↔ .stored r (some (u, d)) ∈ s ∧ u ≠ t := by
  simp only [commit, List.mem_map]
  constructor
  · rintro ⟨x, hx, he⟩
    rcases x with ⟨row, _ | ⟨owner, draft⟩⟩ | ⟨owner, row⟩ <;> simp only [Slot.commit] at he
    · cases he
    · split at he <;> cases he
      rename_i ho
      exact ⟨hx, ho⟩
    · split at he <;> cases he
  · rintro ⟨hx, hu⟩
    exact ⟨_, hx, by simp [Slot.commit, hu]⟩

omit [DecidableEq κ] in
theorem pending_mem_commit {s : Store τ ρ} {t u : τ} {r : ρ} :
    .pending u r ∈ s.commit t ↔ .pending u r ∈ s ∧ u ≠ t := by
  simp only [commit, List.mem_map]
  constructor
  · rintro ⟨x, hx, he⟩
    rcases x with ⟨row, _ | ⟨owner, draft⟩⟩ | ⟨owner, row⟩ <;> simp only [Slot.commit] at he
    · cases he
    · split at he <;> cases he
    · split at he <;> cases he
      rename_i ho
      exact ⟨hx, ho⟩
  · rintro ⟨hx, hu⟩
    exact ⟨_, hx, by simp [Slot.commit, hu]⟩

omit [DecidableEq κ] in
/-- A committed row after the commit of `t` was committed before, or is a version `t` wrote or a row it inserted. -/
theorem mem_rows_commit {s : Store τ ρ} {t : τ} {r : ρ} (h : r ∈ (s.commit t).rows) :
    r ∈ s.rows ∨ (∃ r₀, .stored r₀ (some (t, r)) ∈ s) ∨ .pending t r ∈ s := by
  obtain ⟨lock, hm⟩ := mem_rows.1 h
  rcases lock with _ | ⟨u, d⟩
  · exact (free_mem_commit.1 hm).imp_left fun hm => mem_rows.2 ⟨_, hm⟩
  · exact Or.inl (mem_rows.2 ⟨_, (locked_mem_commit.1 hm).1⟩)

omit [DecidableEq κ] in
/-- The version `t` wrote of a row is committed. -/
theorem draft_mem_rows_commit {s : Store τ ρ} {t : τ} {r d : ρ} (h : .stored r (some (t, d)) ∈ s) :
    d ∈ (s.commit t).rows := mem_rows.2 ⟨none, free_mem_commit.2 (Or.inr (Or.inl ⟨r, h⟩))⟩

omit [DecidableEq κ] in
theorem pending_mem_rows_commit {s : Store τ ρ} {t : τ} {r : ρ} (h : .pending t r ∈ s) : r ∈ (s.commit t).rows :=
  mem_rows.2 ⟨none, free_mem_commit.2 (Or.inr (Or.inr h))⟩

omit [DecidableEq κ] in
/-- A committed row stays, unless `t` has written it. -/
theorem rows_commit_cases {s : Store τ ρ} (t : τ) {r : ρ} (h : r ∈ s.rows) :
    r ∈ (s.commit t).rows ∨ ∃ d, .stored r (some (t, d)) ∈ s := by
  obtain ⟨lock, hm⟩ := mem_rows.1 h
  rcases lock with _ | ⟨u, d⟩
  · exact Or.inl (mem_rows.2 ⟨none, free_mem_commit.2 (Or.inl hm)⟩)
  · by_cases hu : u = t
    · subst hu; exact Or.inr ⟨d, hm⟩
    · exact Or.inl (mem_rows.2 ⟨_, locked_mem_commit.2 ⟨hm, hu⟩⟩)

omit [DecidableEq κ] in
theorem locked_mem_abort {s : Store τ ρ} {t u : τ} {r d : ρ} :
    .stored r (some (u, d)) ∈ s.abort t ↔ .stored r (some (u, d)) ∈ s ∧ u ≠ t := by
  simp only [abort, List.mem_filterMap]
  constructor
  · rintro ⟨x, hx, he⟩
    rcases x with ⟨row, _ | ⟨owner, draft⟩⟩ | ⟨owner, row⟩ <;> simp only [Slot.abort] at he
    · cases he
    · split at he <;> cases he
      rename_i ho
      exact ⟨hx, ho⟩
    · split at he <;> cases he
  · rintro ⟨hx, hu⟩
    exact ⟨_, hx, by simp [Slot.abort, hu]⟩

omit [DecidableEq κ] in
theorem pending_mem_abort {s : Store τ ρ} {t u : τ} {r : ρ} :
    .pending u r ∈ s.abort t ↔ .pending u r ∈ s ∧ u ≠ t := by
  simp only [abort, List.mem_filterMap]
  constructor
  · rintro ⟨x, hx, he⟩
    rcases x with ⟨row, _ | ⟨owner, draft⟩⟩ | ⟨owner, row⟩ <;> simp only [Slot.abort] at he
    · cases he
    · split at he <;> cases he
    · split at he <;> cases he
      rename_i ho
      exact ⟨hx, ho⟩
  · rintro ⟨hx, hu⟩
    exact ⟨_, hx, by simp [Slot.abort, hu]⟩

/-! ### Unique keys -/

/-- No two slots have the same key, and the written versions keep the key of their row. -/
structure WellKeyed (key : ρ → κ) (s : Store τ ρ) : Prop where
  unique : UniqueBy (fun x : Slot τ ρ => key x.row) s
  draft : ∀ r u d, .stored r (some (u, d)) ∈ s → key d = key r

section WellKeyed

variable {key : ρ → κ} {s : Store τ ρ}

omit [DecidableEq τ] [DecidableEq κ] in
theorem WellKeyed.eq_of_key (h : WellKeyed key s) {x y : Slot τ ρ} (hx : x ∈ s) (hy : y ∈ s)
    (he : key x.row = key y.row) : x = y := h.unique.eq_of_key hx hy he

omit [DecidableEq τ] [DecidableEq κ] in
theorem WellKeyed.rows_eq (h : WellKeyed key s) {r r' : ρ} (hr : r ∈ s.rows) (hr' : r' ∈ s.rows)
    (he : key r = key r') : r = r' := by
  obtain ⟨l, hl⟩ := mem_rows.1 hr
  obtain ⟨l', hl'⟩ := mem_rows.1 hr'
  cases h.eq_of_key hl hl' he
  rfl

omit [DecidableEq τ] [DecidableEq κ] in
theorem WellKeyed.uniqueBy_rows (h : WellKeyed key s) : UniqueBy key s.rows := by
  have hs := h.unique
  unfold UniqueBy List.Nodup at hs ⊢
  rw [List.pairwise_map] at hs ⊢
  unfold Store.rows
  rw [List.pairwise_filterMap]
  refine hs.imp fun {x y} hne r hr r' hr' he => hne ?_
  rcases x with ⟨row, l⟩ | ⟨owner, row⟩ <;> cases hr
  rcases y with ⟨row', l'⟩ | ⟨owner, row'⟩ <;> cases hr'
  exact he

omit [DecidableEq τ] [DecidableEq κ] in
theorem WellKeyed.ofRows {l : List ρ} (h : UniqueBy key l) : WellKeyed key (ofRows l : Store τ ρ) where
  unique := by
    unfold UniqueBy Store.ofRows at *
    rwa [List.map_map, show (fun x : Slot τ ρ => key x.row) ∘ (fun r => Slot.stored r none) = key from rfl]
  draft := by
    intro r u d hm
    obtain ⟨x, -, hx⟩ := List.mem_map.1 hm
    cases hx

omit [DecidableEq κ] in
theorem WellKeyed.write (h : WellKeyed key s) {κ' : Type} [DecidableEq κ'] (key' : ρ → κ') (t : τ) (k : κ')
    {f : ρ → ρ} (hf : ∀ r, key (f r) = key r) : WellKeyed key (s.write key' t k f) where
  unique := by
    refine h.unique.map (f := Slot.write key' t k f) fun x => ?_
    rcases x with ⟨row, _ | ⟨owner, draft⟩⟩ | ⟨owner, row⟩ <;> simp only [Slot.write] <;> split <;>
      simp [Slot.row, hf]
  draft := by
    intro r u d hm
    rcases locked_mem_write.1 hm with ⟨hm', -⟩ | ⟨-, -, -, rfl⟩ | ⟨-, rfl, d₀, hm', rfl⟩
    · exact h.draft r u d hm'
    · exact hf r
    · rw [hf]; exact h.draft r u d₀ hm'

omit [DecidableEq τ] [DecidableEq κ] in
theorem WellKeyed.insert (h : WellKeyed key s) {t : τ} {r : ρ} (hr : ∀ x ∈ s, key x.row ≠ key r) :
    WellKeyed key (s.insert t r) where
  unique := h.unique.append_singleton hr
  draft := by
    intro r' u d hm
    rcases mem_insert.1 hm with hm | hm
    · exact h.draft r' u d hm
    · cases hm

omit [DecidableEq κ] in
theorem WellKeyed.commit (h : WellKeyed key s) (t : τ) : WellKeyed key (s.commit t) where
  unique := by
    have hkey : ∀ x ∈ s, key (Slot.commit t x).row = key x.row := by
      intro x hx
      rcases x with ⟨row, _ | ⟨owner, draft⟩⟩ | ⟨owner, row⟩ <;> simp only [Slot.commit]
      · split
        · exact h.draft row owner draft hx
        · rfl
      · split <;> rfl
    unfold UniqueBy Store.commit
    rw [List.map_map]
    have := h.unique
    unfold UniqueBy at this
    show (List.map (fun x => key (Slot.commit t x).row) s).Nodup
    rwa [List.map_congr_left hkey]
  draft := by
    intro r u d hm
    exact h.draft r u d (locked_mem_commit.1 hm).1

omit [DecidableEq κ] in
theorem WellKeyed.abort (h : WellKeyed key s) (t : τ) : WellKeyed key (s.abort t) where
  unique := by
    have hkey : ∀ x y, y ∈ Slot.abort t x → key y.row = key x.row := by
      intro x y hy
      rcases x with ⟨row, _ | ⟨owner, draft⟩⟩ | ⟨owner, row⟩ <;> simp only [Slot.abort] at hy
      · cases hy; rfl
      · split at hy <;> cases hy <;> rfl
      · split at hy <;> cases hy; rfl
    unfold UniqueBy Store.abort
    refine List.Nodup.sublist ?_ h.unique
    have : ∀ l : List (Slot τ ρ), List.Sublist ((l.filterMap (Slot.abort t)).map fun x => key x.row)
        (l.map fun x => key x.row) := by
      intro l
      induction l with
      | nil => exact .slnil
      | cons x l ih =>
        cases hx : Slot.abort t x with
        | none => simpa [List.filterMap_cons, hx] using ih.cons _
        | some y =>
          have := hkey x y hx
          simpa [List.filterMap_cons, hx, this] using ih
    exact this s
  draft := by
    intro r u d hm
    exact h.draft r u d (locked_mem_abort.1 hm).1

/-! ### Access and clash -/

theorem access_free {t : τ} {k : κ} {r : ρ} (ha : s.access key t k = .free r) :
    .stored r none ∈ s ∧ key r = k := by
  unfold access at ha
  split at ha
  · cases ha
  · rename_i hf; cases ha; exact findBy_some hf
  · split at ha <;> cases ha
  · split at ha <;> cases ha

theorem access_mine {t : τ} {k : κ} {r : ρ} (ha : s.access key t k = .mine r) :
    (∃ row, .stored row (some (t, r)) ∈ s ∧ key row = k) ∨ (.pending t r ∈ s ∧ key r = k) := by
  unfold access at ha
  split at ha
  · cases ha
  · cases ha
  · rename_i row owner draft hf
    split at ha <;> cases ha
    rename_i ho
    subst ho
    exact Or.inl ⟨row, findBy_some hf⟩
  · rename_i owner row hf
    split at ha <;> cases ha
    rename_i ho
    subst ho
    exact Or.inr (findBy_some hf)

theorem access_heldBy {t u : τ} {k : κ} (ha : s.access key t k = .heldBy u) :
    u ≠ t ∧ ∃ r d, .stored r (some (u, d)) ∈ s ∧ key r = k := by
  unfold access at ha
  split at ha
  · cases ha
  · cases ha
  · rename_i row owner draft hf
    split at ha <;> cases ha
    rename_i ho
    exact ⟨ho, row, draft, findBy_some hf⟩
  · split at ha <;> cases ha

theorem clash_none {t : τ} {k : κ} (hc : s.clash key t k = .none) : ∀ x ∈ s, key x.row ≠ k := by
  unfold clash at hc
  split at hc
  · rename_i hf; exact findBy_eq_none.1 hf
  · cases hc
  · split at hc <;> cases hc

theorem clash_duplicate {t : τ} {k : κ} (hc : s.clash key t k = .duplicate) :
    (∃ r ∈ s.rows, key r = k) ∨ ∃ r, .pending t r ∈ s ∧ key r = k := by
  unfold clash at hc
  split at hc
  · cases hc
  · rename_i row lock hf
    obtain ⟨hm, hk⟩ := findBy_some hf
    exact Or.inl ⟨row, mem_rows.2 ⟨lock, hm⟩, hk⟩
  · rename_i owner row hf
    split at hc <;> cases hc
    rename_i ho
    subst ho
    exact Or.inr ⟨row, findBy_some hf⟩

theorem clash_waitFor {t u : τ} {k : κ} (hc : s.clash key t k = .waitFor u) :
    u ≠ t ∧ ∃ r, .pending u r ∈ s ∧ key r = k := by
  unfold clash at hc
  split at hc
  · cases hc
  · cases hc
  · rename_i owner row hf
    split at hc <;> cases hc
    rename_i ho
    exact ⟨ho, row, findBy_some hf⟩

end WellKeyed

end Store

end CleanBackend
