import CleanBackend.Lib.PyDict
import Mathlib.Data.Rat.Floor
import Mathlib.Tactic.Linarith
import Mathlib.Tactic.Ring

/-!
# Redis counters with an expiry

The commands `INCR`, `EXPIRE` and `TTL` at a time `now`, in seconds.  A key is gone at every time at or after its
expiry.  `TTL` replies the remaining time to the nearest second, `-1` for a key without an expiry and `-2` for a key
that does not exist.
-/

namespace CleanBackend

/-- A counter and the time it expires, if it does. -/
structure RedisEntry where
  count : Int
  expiresAt : Option ℚ
deriving DecidableEq, Repr

def RedisEntry.alive (now : ℚ) (entry : RedisEntry) : Bool := entry.expiresAt.all fun e => decide (now < e)

structure RedisStore (κ : Type) where
  keys : PyDict κ RedisEntry := []
deriving DecidableEq, Repr

namespace RedisStore

variable {κ : Type} [DecidableEq κ]

/-- The entry of a key that still exists at `now`. -/
def lookup (s : RedisStore κ) (now : ℚ) (key : κ) : Option RedisEntry := (s.keys.get key).filter (·.alive now)

def put (s : RedisStore κ) (key : κ) (entry : RedisEntry) : RedisStore κ := ⟨s.keys.set key entry⟩

/-- `INCR key`: a new key counts from zero and has no expiry, an old one keeps its expiry. -/
def incr (s : RedisStore κ) (now : ℚ) (key : κ) : Int × RedisStore κ :=
  let entry := (s.lookup now key).getD ⟨0, none⟩
  (entry.count + 1, s.put key { entry with count := entry.count + 1 })

/-- `EXPIRE key seconds` -/
def expire (s : RedisStore κ) (now : ℚ) (key : κ) (seconds : Int) : RedisStore κ :=
  match s.lookup now key with
  | none => s
  | some entry => s.put key { entry with expiresAt := some (now + seconds) }

/-- `TTL key` -/
def ttl (s : RedisStore κ) (now : ℚ) (key : κ) : Int :=
  match s.lookup now key with
  | none => -2
  | some ⟨_, none⟩ => -1
  | some ⟨_, some e⟩ => ⌊e - now + 1 / 2⌋

/-! ### What a key holds after a command -/

variable (s : RedisStore κ) {now : ℚ} {key : κ}

theorem lookup_some {entry : RedisEntry} :
    s.lookup now key = some entry ↔ s.keys.get key = some entry ∧ entry.alive now := by
  simp [lookup, Option.filter_eq_some_iff]

/-- Time only takes keys away. -/
theorem lookup_later {now' : ℚ} (h : now ≤ now') (key : κ) :
    s.lookup now' key = (s.lookup now key).filter (·.alive now') := by
  unfold lookup
  cases s.keys.get key with
  | none => rfl
  | some entry =>
    cases hlive' : entry.alive now' with
    | false => cases hlive : entry.alive now <;> simp [Option.filter, hlive, hlive']
    | true =>
      have hlive : entry.alive now := by
        unfold RedisEntry.alive at *
        cases he : entry.expiresAt with
        | none => rfl
        | some e =>
          simp only [he, Option.all_some, decide_eq_true_eq] at hlive' ⊢
          exact h.trans_lt hlive'
      simp [Option.filter, hlive, hlive']

theorem get_put (key : κ) (entry : RedisEntry) (key' : κ) :
    (s.put key entry).keys.get key' = if key = key' then some entry else s.keys.get key' :=
  PyDict.get_set _ _ _ _

theorem lookup_put (key : κ) (entry : RedisEntry) (now : ℚ) (key' : κ) :
    (s.put key entry).lookup now key' =
      if key = key' then (some entry).filter (·.alive now) else s.lookup now key' := by
  unfold lookup
  rw [get_put]
  split <;> rfl

theorem expire_of_lookup {entry : RedisEntry} (h : s.lookup now key = some entry) (seconds : Int) :
    s.expire now key seconds = s.put key { entry with expiresAt := some (now + seconds) } := by
  unfold expire
  rw [h]

theorem ttl_of_lookup {count : Int} {e : ℚ} (h : s.lookup now key = some ⟨count, some e⟩) :
    s.ttl now key = ⌊e - now + 1 / 2⌋ := by
  unfold ttl
  rw [h]

/-- The reply for a key that expires is not negative. -/
theorem ttl_nonneg {count : Int} {e : ℚ} (h : s.lookup now key = some ⟨count, some e⟩) : 0 ≤ s.ttl now key := by
  have hlive : now < e := by simpa [RedisEntry.alive] using ((lookup_some s).1 h).2
  rw [ttl_of_lookup s h]
  exact Int.floor_nonneg.2 (by linarith)

/-- A whole number of seconds is replied as it is. -/
theorem floor_add_half (n : Int) (now : ℚ) : ⌊now + (n : ℚ) - now + 1 / 2⌋ = n := by
  rw [add_sub_cancel_left, add_comm, Int.floor_add_intCast]
  norm_num

end RedisStore

end CleanBackend
