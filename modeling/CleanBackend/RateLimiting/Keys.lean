import CleanBackend.RateLimiting.ClientIp
import Mathlib.Data.List.Forall2

/-!
# Rate-limit keys

`RateLimitKeyBuilder.build` joins its parts with `:` after replacing every `:` inside a part by `_`, so that no
identifier can forge a segment.  The key determines the segments (`cacheKey_inj`), and two identifiers share a bucket
of a rule exactly when they differ only in a `:` of one against a `_` of the other (`build_eq_iff`,
`cleanPart_eq_iff`).
-/

namespace CleanBackend

/-! ### Parts -/

private theorem separator_not_mem_cleanPart (part : String) : separator ∉ (cleanPart part).toList := by
  intro h
  rw [cleanPart, String.toList_ofList] at h
  obtain ⟨c, -, hc⟩ := List.mem_map.1 h
  split at hc
  · exact absurd hc (by decide)
  · rename_i hne
    exact hne hc

/-- A part without a separator is left alone. -/
private theorem cleanPart_of_not_mem {part : String} (h : separator ∉ part.toList) : cleanPart part = part := by
  have hmap : (part.toList.map fun c => if c = separator then '_' else c) = part.toList := by
    refine (List.map_congr_left fun c hc => if_neg ?_).trans (List.map_id' _)
    rintro rfl
    exact h hc
  rw [cleanPart, hmap, String.ofList_toList]

/-- The same character, or a `:` against a `_`. -/
def SameCleaned (c d : Char) : Prop := c = d ∨ (c = separator ∧ d = '_') ∨ (c = '_' ∧ d = separator)

private theorem sameCleaned_iff (c d : Char) :
    ((if c = separator then '_' else c) = if d = separator then '_' else d) ↔ SameCleaned c d := by
  unfold SameCleaned
  by_cases hc : c = separator <;> by_cases hd : d = separator
  · simp [hc, hd]
  · rw [if_pos hc, if_neg hd]
    subst hc
    simp [eq_comm, hd, show separator ≠ '_' by decide]
  · rw [if_neg hc, if_pos hd]
    subst hd
    simp [hc]
  · simp [hc, hd]

/-- What the cleaning cannot tell apart. -/
theorem cleanPart_eq_iff (a b : String) : cleanPart a = cleanPart b ↔ List.Forall₂ SameCleaned a.toList b.toList := by
  have hmap : ∀ {l l' : List Char}, (l.map (fun c => if c = separator then '_' else c) =
      l'.map fun c => if c = separator then '_' else c) ↔ List.Forall₂ SameCleaned l l' := by
    intro l l'
    rw [← List.forall₂_eq_eq_eq, List.forall₂_map_left_iff, List.forall₂_map_right_iff]
    simp only [sameCleaned_iff]
  rw [cleanPart, cleanPart, String.ofList_inj, hmap]

/-! ### Keys -/

/-- The segments of a key can be read off it. -/
theorem cacheKey_inj {ns : String} (hns : separator ∉ ns.toList) {parts parts' : List String} :
    cacheKey ns parts = cacheKey ns parts' ↔ parts.map cleanPart = parts'.map cleanPart := by
  have hsplit : ∀ parts : List String, (cacheKey ns parts).toList.splitOn separator =
      (keyPrefix :: ns :: parts.map cleanPart).map String.toList := by
    intro parts
    rw [cacheKey, String.toList_intercalate, show separator.toString.toList = [separator] by decide,
      List.splitOn_intercalate]
    · intro l hl
      obtain ⟨part, hpart, rfl⟩ := List.mem_map.1 hl
      simp only [List.mem_cons] at hpart
      rcases hpart with rfl | rfl | hpart
      · decide
      · exact hns
      · obtain ⟨part, -, rfl⟩ := List.mem_map.1 hpart
        exact separator_not_mem_cleanPart part
    · simp
  constructor
  · intro h
    have hmap := hsplit parts
    rw [h, hsplit parts', (List.map_injective_iff.2 fun _ _ => String.toList_inj.1).eq_iff] at hmap
    simp only [List.cons.injEq, true_and] at hmap
    exact hmap.symm
  · intro h
    rw [cacheKey, cacheKey, h]

/-- Two keys are equal exactly when the names, the scopes and the cleaned identifiers are. -/
theorem build_eq_iff {rule rule' : RateLimitRule} (hname : separator ∉ rule.name.toList)
    (hname' : separator ∉ rule'.name.toList) (identifier identifier' : String) :
    RateLimitKeyBuilder.build rule identifier = RateLimitKeyBuilder.build rule' identifier' ↔
      rule.name = rule'.name ∧ rule.scope = rule'.scope ∧
        List.Forall₂ SameCleaned identifier.toList identifier'.toList := by
  have hscope : ∀ scope : RateLimitScope, cleanPart scope.value = scope.value := by
    intro scope
    cases scope <;> decide
  have hvalue : rule.scope.value = rule'.scope.value ↔ rule.scope = rule'.scope := by
    cases rule.scope <;> cases rule'.scope <;> decide
  rw [RateLimitKeyBuilder.build, RateLimitKeyBuilder.build, cacheKey_inj (by decide), ← cleanPart_eq_iff, ← hvalue]
  simp [cleanPart_of_not_mem hname, cleanPart_of_not_mem hname', hscope]

theorem build_eq_iff_sample :
    RateLimitKeyBuilder.build ⟨"auth.login", 10, 60, .ip, some false⟩ "2001:db8::1" =
        RateLimitKeyBuilder.build ⟨"auth.login", 10, 60, .ip, some false⟩ "2001:db8::2" ↔
      "auth.login" = "auth.login" ∧ RateLimitScope.ip = .ip ∧
        List.Forall₂ SameCleaned "2001:db8::1".toList "2001:db8::2".toList :=
  build_eq_iff (by decide) (by decide) "2001:db8::1" "2001:db8::2"

/-- Every rule of the table has a name without a separator. -/
theorem rateLimitRules_names : ∀ rule ∈ rateLimitRules, separator ∉ rule.name.toList := by decide

/-- Two request paths in one bucket. -/
theorem paths_share_bucket :
    RateLimitKeyBuilder.build ⟨"booking.create", 30, 60, .route, none⟩ "/bookings/a:b" =
      RateLimitKeyBuilder.build ⟨"booking.create", 30, 60, .route, none⟩ "/bookings/a_b" ∧
    "/bookings/a:b" ≠ "/bookings/a_b" := by decide

end CleanBackend
