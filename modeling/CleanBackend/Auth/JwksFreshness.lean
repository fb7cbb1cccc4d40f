import CleanBackend.Auth.JwksClient

/-!
# How old a key may be

The endpoint publishes other keys from time to time.  A fetch answers with what was published at some time after it
started, and at most `lag` before the answer is read.  So a call of `get_key` returns a key that was published less
than `ttl + lag` before the call began, and reports an unknown `kid` that was missing less than `min_refresh_interval
+ lag` before it began; the calls in flight, which overwrite each other's keys, cost no more.
-/

namespace CleanBackend

/-- The body of a fetch is what the endpoint published at a time after the start of the fetch, at most `lag` ago. -/
def Answers (published : ℚ → Json) (lag : ℚ) (s : JwksState) : JwksAction → Prop
  | .resume i (.payload body) fetchedNow _ _ => ∃ v, body = published v ∧ v ≤ fetchedNow ∧ fetchedNow ≤ v + lag ∧
      ∀ task t, s.tasks[i]? = some task → task.fetch? = some t → t ≤ v
  | _ => True

section Fresh

variable {published : ℚ → Json} {lag : ℚ} {ttl minRefreshInterval : Int}

/-- The keys were published at a time up to `now` that is less than `age` before `b`, or not before it. -/
def PublishedSince (published : ℚ → Json) (b age now : ℚ) (keys : PyDict String Json) : Prop :=
  ∃ v, (b ≤ v ∨ b < v + age) ∧ v ≤ now ∧ parseKeys (published v) = some keys

/-- The keys of the client were published at most `lag` before the time of the client. -/
structure CacheInv (published : ℚ → Json) (lag : ℚ) (ttl minRefreshInterval : Int) (c : JwksClient)
    (now : ℚ) : Prop where
  ttl_eq : c.ttl = ttl
  min_eq : c.minRefreshInterval = minRefreshInterval
  fetched : ∀ f, c.fetchedAt = some f → ∃ v, f ≤ v + lag ∧ v ≤ now ∧ parseKeys (published v) = some c.keys

/-- A call that began at `b`: the fetch it awaits started later, and it ends with keys of that time. -/
def CallOk (published : ℚ → Json) (lag : ℚ) (ttl minRefreshInterval : Int) (b : ℚ) (kid : String) (now : ℚ) :
    JwksPhase → Prop
  | .staleFetch t | .unknownFetch t => b ≤ t
  | .returned key => ∃ keys, PublishedSince published b (ttl + lag) now keys ∧ PyDict.get keys kid = some key
  | .raised (.unknownKey k) =>
    k = kid ∧ ∃ keys, PublishedSince published b (minRefreshInterval + lag) now keys ∧ PyDict.get keys kid = none
  | .raised _ => True
  | .preloading | .preloaded => False

variable {b now now' : ℚ} {kid : String}

private theorem PublishedSince.mono {age : ℚ} {keys : PyDict String Json}
    (h : PublishedSince published b age now keys)
    (hle : now ≤ now') : PublishedSince published b age now' keys :=
  let ⟨v, hv, hnow, hkeys⟩ := h
  ⟨v, hv, hnow.trans hle, hkeys⟩

private theorem CacheInv.mono {c : JwksClient} (h : CacheInv published lag ttl minRefreshInterval c now)
    (hle : now ≤ now') :
    CacheInv published lag ttl minRefreshInterval c now' :=
  ⟨h.ttl_eq, h.min_eq, fun f hf =>
    let ⟨v, hv, hnow, hkeys⟩ := h.fetched f hf
    ⟨v, hv, hnow.trans hle, hkeys⟩⟩

private theorem CallOk.mono {phase : JwksPhase} (h : CallOk published lag ttl minRefreshInterval b kid now phase)
    (hle : now ≤ now') : CallOk published lag ttl minRefreshInterval b kid now' phase := by
  cases phase with
  | staleFetch t | unknownFetch t => exact h
  | returned key =>
    obtain ⟨keys, hkeys, hget⟩ := h
    exact ⟨keys, hkeys.mono hle, hget⟩
  | raised e =>
    cases e with
    | unknownKey k =>
      obtain ⟨hk, keys, hkeys, hget⟩ := h
      exact ⟨hk, keys, hkeys.mono hle, hget⟩
    | fetchFailed _ | malformedPayload => trivial
  | preloading | preloaded => exact h

/-- A refresh takes the keys of its payload. -/
private theorem JwksClient.refreshed_keys {c c' : JwksClient} {outcome : FetchOutcome}
    (h : c.refreshed now outcome = .ok c') :
    ∃ body, outcome = .payload body ∧ parseKeys body = some c'.keys := by
  unfold refreshed at h
  split at h
  · cases h
  · cases h
  · split at h
    · cases h
    · rename_i body _ keys hkeys
      cases h
      exact ⟨body, rfl, hkeys⟩

variable {s s' : JwksState} {outcome : FetchOutcome} {fetchedNow unknownNow τ : ℚ} {i : Nat}

private theorem CacheInv.refreshed {c' : JwksClient}
    (h : CacheInv published lag ttl minRefreshInterval s.client s.clock)
    (hr : s.client.refreshed fetchedNow outcome = .ok c')
    (ha : Answers published lag s (.resume i outcome fetchedNow unknownNow τ)) :
    CacheInv published lag ttl minRefreshInterval c' fetchedNow := by
  obtain ⟨httl, hmin, hfetched⟩ := JwksClient.refreshed_ok hr
  obtain ⟨body, rfl, hkeys⟩ := JwksClient.refreshed_keys hr
  obtain ⟨v, rfl, hv, hlag, -⟩ := ha
  refine ⟨httl.trans h.ttl_eq, hmin.trans h.min_eq, fun f hf => ?_⟩
  cases hfetched.symm.trans hf
  exact ⟨v, hlag, hv, hkeys⟩

/-- What `get_key` answers from keys of an age, where it need not fetch. -/
private theorem callOk_answer {c : JwksClient} (hage : PublishedSince published b (ttl + lag) now c.keys)
    (hmissing : PyDict.get c.keys kid = none → PublishedSince published b (minRefreshInterval + lag) now c.keys) :
    CallOk published lag ttl minRefreshInterval b kid now (JwksState.answer c kid) := by
  unfold JwksState.answer
  cases hget : PyDict.get c.keys kid with
  | some key => exact ⟨c.keys, hage, hget⟩
  | none => exact ⟨rfl, c.keys, hmissing hget, hget⟩

/-- The second check of `get_key`. -/
private theorem callOk_lookup (h : CacheInv published lag ttl minRefreshInterval s.client now) (hb : b ≤ unknownNow)
    (hτ : unknownNow ≤ τ) (hage : PublishedSince published b (ttl + lag) now s.client.keys) :
    CallOk published lag ttl minRefreshInterval b kid now (s.lookup kid unknownNow τ).2 := by
  unfold JwksState.lookup
  split
  · exact hb.trans hτ
  · rename_i hrefetch
    refine callOk_answer hage fun hnone => ?_
    unfold JwksClient.refetches JwksClient.mayRefreshForUnknownKid at hrefetch
    cases hf : s.client.fetchedAt with
    | none => simp [hnone, hf] at hrefetch
    | some f =>
      simp only [hnone, hf, Option.isNone_none, Bool.true_and, decide_eq_true_eq, not_le, h.min_eq] at hrefetch
      obtain ⟨v, hlag, hv, hkeys⟩ := h.fetched f hf
      exact ⟨v, Or.inr (by linarith), hv, hkeys⟩

private theorem callOk_getKey {staleNow : ℚ} (h : CacheInv published lag ttl minRefreshInterval s.client now)
    (hunknown : staleNow ≤ unknownNow) (hτ : unknownNow ≤ τ) :
    CallOk published lag ttl minRefreshInterval staleNow kid now (s.getKey kid staleNow unknownNow τ).2 := by
  unfold JwksState.getKey
  cases hstale : s.client.isStale staleNow with
  | true => exact hunknown.trans hτ
  | false =>
    refine callOk_lookup h hunknown hτ ?_
    unfold JwksClient.isStale at hstale
    cases hf : s.client.fetchedAt with
    | none => simp [hf] at hstale
    | some f =>
      simp only [hf, decide_eq_false_iff_not, not_le, h.ttl_eq] at hstale
      obtain ⟨v, hlag, hv, hkeys⟩ := h.fetched f hf
      exact ⟨v, Or.inr (by linarith), hv, hkeys⟩

/-- The payload of a call's own fetch is not older than the call. -/
private theorem publishedSince_own {c' : JwksClient} {task : JwksTask} {t : ℚ} (age : ℚ)
    (hi : s.tasks[i]? = some task) (ht : task.fetch? = some t) (hb : b ≤ t)
    (hr : s.client.refreshed fetchedNow outcome = .ok c')
    (ha : Answers published lag s (.resume i outcome fetchedNow unknownNow τ)) :
    b ≤ fetchedNow ∧ PublishedSince published b age fetchedNow c'.keys := by
  obtain ⟨body, rfl, hkeys⟩ := JwksClient.refreshed_keys hr
  obtain ⟨v, rfl, hv, -, hstart⟩ := ha
  have hbv : b ≤ v := hb.trans (hstart task t hi ht)
  exact ⟨hbv.trans hv, v, Or.inl hbv, hv, hkeys⟩

private theorem JwksClient.refreshed_error {c : JwksClient} {e : JwksError} (h : c.refreshed now outcome = .error e) :
    ∀ k, e ≠ .unknownKey k := by
  intro k
  unfold refreshed at h
  split at h
  · cases h
    exact fun he => by cases he
  · cases h
    exact fun he => by cases he
  · split at h
    · cases h
      exact fun he => by cases he
    · cases h

private theorem callOk_failed {e : JwksError} (he : ∀ k, e ≠ .unknownKey k) :
    CallOk published lag ttl minRefreshInterval b kid now (.raised e) := by
  cases e with
  | unknownKey k => exact absurd rfl (he k)
  | fetchFailed _ | malformedPayload => trivial

/-- What a task does when its fetch has ended, and to the client. -/
private theorem callOk_resume (b : ℚ) (kid : String) {task : JwksTask} {phase : JwksPhase}
    (h : CacheInv published lag ttl minRefreshInterval s.client s.clock) (hi : s.tasks[i]? = some task)
    (ha : Answers published lag s (.resume i outcome fetchedNow unknownNow τ))
    (hclock : s.clock ≤ fetchedNow ∧ fetchedNow ≤ unknownNow ∧ unknownNow ≤ τ)
    (hr : s.resume task outcome fetchedNow unknownNow τ = some (s', phase)) :
    CacheInv published lag ttl minRefreshInterval s'.client τ ∧
      (task.kid = some kid → CallOk published lag ttl minRefreshInterval b kid s.clock task.phase →
        CallOk published lag ttl minRefreshInterval b kid τ phase) := by
  obtain ⟨h₁, h₂, h₃⟩ := hclock
  obtain ⟨kid', ph⟩ := task
  simp only [JwksState.resume] at hr
  cases hc : s.client.refreshed fetchedNow outcome with
  | error e =>
    rw [hc] at hr
    -- a fetch that fails leaves the cache, and ends the call
    have hfailed := JwksClient.refreshed_error hc
    have hcache := h.mono (h₁.trans (h₂.trans h₃))
    cases ph with
    | staleFetch t | unknownFetch t =>
      cases kid' with
      | none => cases hr
      | some k =>
        cases hr
        exact ⟨hcache, fun _ _ => callOk_failed hfailed⟩
    | preloading =>
      cases kid' <;> cases hr <;> exact ⟨hcache, fun _ hok => hok.elim⟩
    | preloaded | returned _ | raised _ => cases hr
  | ok client =>
    rw [hc] at hr
    have hcache := h.refreshed hc ha
    cases ph with
    | staleFetch t =>
      cases kid' with
      | none => cases hr
      | some k =>
        -- after a stale fetch the key is looked up, which may start a second fetch
        have hs' : s'.client = client := by
          simp only [JwksState.lookup] at hr
          split at hr <;> cases hr <;> rfl
        rw [hs']
        refine ⟨hcache.mono (h₂.trans h₃), fun hk hok => ?_⟩
        cases hk
        obtain ⟨hb, hage⟩ := publishedSince_own (ttl + lag) hi rfl hok hc ha
        have hphase : ((({ s with client } : JwksState).lookup kid unknownNow τ).2) = phase := by
          rw [Option.some.inj hr]
        rw [← hphase]
        exact (callOk_lookup (s := { s with client }) hcache (hb.trans h₂) h₃ hage).mono (h₂.trans h₃)
    | unknownFetch t =>
      cases kid' with
      | none => cases hr
      | some k =>
        cases hr
        refine ⟨hcache.mono (h₂.trans h₃), fun hk hok => ?_⟩
        cases hk
        refine (callOk_answer (publishedSince_own _ hi rfl hok hc ha).2 fun _ => ?_).mono (h₂.trans h₃)
        exact (publishedSince_own _ hi rfl hok hc ha).2
    | preloading =>
      cases kid' <;> cases hr <;> exact ⟨hcache.mono (h₂.trans h₃), fun _ hok => hok.elim⟩
    | preloaded | returned _ | raised _ => cases hr

/-- The cache, and the call at `n` that began at `b`. -/
def JwksFresh (published : ℚ → Json) (lag : ℚ) (ttl minRefreshInterval : Int) (n : Nat) (b : ℚ) (kid : String)
    (s : JwksState) : Prop :=
  CacheInv published lag ttl minRefreshInterval s.client s.clock ∧
    ∃ phase, s.tasks[n]? = some ⟨some kid, phase⟩ ∧ CallOk published lag ttl minRefreshInterval b kid s.clock phase

private theorem JwksState.getKey_client (s : JwksState) (kid : String) (staleNow unknownNow τ : ℚ) :
    (s.getKey kid staleNow unknownNow τ).1.client = s.client := by
  unfold getKey lookup
  split
  · rfl
  · split <;> rfl

private theorem CacheInv.step {a : JwksAction} (h : CacheInv published lag ttl minRefreshInterval s.client s.clock)
    (ha : Answers published lag s a) (hs : jwksMachine.step s a = some s') :
    CacheInv published lag ttl minRefreshInterval s'.client s'.clock := by
  have hclock := (jwksMachine_step hs).clock_le
  cases a with
  | preload τ =>
    simp only [jwksMachine] at hs
    split at hs
    · cases hs
      exact h.mono hclock
    · cases hs
  | getKey kid staleNow unknownNow τ =>
    simp only [jwksMachine] at hs
    split at hs
    · cases hs
      show CacheInv published lag ttl minRefreshInterval (s.getKey kid staleNow unknownNow τ).1.client τ
      rw [JwksState.getKey_client]
      exact h.mono hclock
    · cases hs
  | resume i outcome fetchedNow unknownNow τ =>
    simp only [jwksMachine] at hs
    split at hs
    · rename_i hle
      obtain ⟨task, hi, hs⟩ := Option.bind_eq_some_iff.1 hs
      obtain ⟨⟨s₁, phase⟩, hr, rfl⟩ := Option.map_eq_some_iff.1 hs
      exact (callOk_resume 0 "" h hi ha hle hr).1
    · cases hs

private theorem JwksFresh.step {n : Nat} {a : JwksAction}
    (h : JwksFresh published lag ttl minRefreshInterval n b kid s)
    (ha : Answers published lag s a) (hs : jwksMachine.step s a = some s') :
    JwksFresh published lag ttl minRefreshInterval n b kid s' := by
  obtain ⟨hcache, phase, hn, hok⟩ := h
  have hclock := (jwksMachine_step hs).clock_le
  refine ⟨hcache.step ha hs, ?_⟩
  have hlt : n < s.tasks.length := (List.getElem?_eq_some_iff.1 hn).1
  cases a with
  | preload τ =>
    simp only [jwksMachine] at hs
    split at hs
    · cases hs
      exact ⟨phase, by rwa [List.getElem?_append_left hlt], hok.mono hclock⟩
    · cases hs
  | getKey kid' staleNow unknownNow τ =>
    simp only [jwksMachine] at hs
    split at hs
    · cases hs
      exact ⟨phase, by rwa [List.getElem?_append_left hlt], hok.mono hclock⟩
    · cases hs
  | resume i outcome fetchedNow unknownNow τ =>
    simp only [jwksMachine] at hs
    split at hs
    · rename_i hle
      obtain ⟨task, hi, hs⟩ := Option.bind_eq_some_iff.1 hs
      obtain ⟨⟨s₁, phase'⟩, hr, rfl⟩ := Option.map_eq_some_iff.1 hs
      by_cases hin : i = n
      · subst hin
        cases hi.symm.trans hn
        exact ⟨phase', List.getElem?_set_self hlt, (callOk_resume b kid hcache hi ha hle hr).2 rfl hok⟩
      · exact ⟨phase, by rwa [List.getElem?_set_ne hin], hok.mono hclock⟩
    · cases hs

end Fresh

/-- In a run of a fresh client whose fetches answer with what the endpoint publishes, a call of `get_key` that began
at `b` returns a key of the endpoint from after `b - ttl - lag`, and reports as unknown a `kid` that the endpoint
missed after `b - min_refresh_interval - lag`. -/
theorem get_key_fresh {published : ℚ → Json} {lag : ℚ} {ttl minRefreshInterval : Int} {clock : ℚ}
    {as bs : List JwksAction} {kid : String} {b unknownNow τ : ℚ} {s t : JwksState}
    (hs : jwksMachine.run (.init (.new ttl minRefreshInterval) clock) as = some s)
    (ht : jwksMachine.run s (.getKey kid b unknownNow τ :: bs) = some t)
    (ha : jwksMachine.Along (Answers published lag) (.init (.new ttl minRefreshInterval) clock)
      (as ++ .getKey kid b unknownNow τ :: bs)) :
    ∃ phase, t.tasks[s.tasks.length]? = some ⟨some kid, phase⟩ ∧
      (∀ key, phase = .returned key → ∃ v keys, (b ≤ v ∨ b < v + (ttl + lag)) ∧ v ≤ t.clock ∧
        parseKeys (published v) = some keys ∧ PyDict.get keys kid = some key) ∧
      ∀ k, phase = .raised (.unknownKey k) → k = kid ∧ ∃ v keys, (b ≤ v ∨ b < v + (minRefreshInterval + lag)) ∧
        v ≤ t.clock ∧ parseKeys (published v) = some keys ∧ PyDict.get keys kid = none := by
  obtain ⟨ha₁, ha₂⟩ := Machine.Along.append hs ha
  have hcache : CacheInv published lag ttl minRefreshInterval s.client s.clock := by
    refine Machine.along_induction (P := fun s => CacheInv published lag ttl minRefreshInterval s.client s.clock)
      (fun s a s' h hc hst => h.step hc hst) hs ha₁ ⟨rfl, rfl, fun f hf => by cases hf⟩
  obtain ⟨s₁, hstep, hrun⟩ := Machine.run_cons.1 ht
  have hfirst : JwksFresh published lag ttl minRefreshInterval s.tasks.length b kid s₁ := by
    refine ⟨hcache.step ha₂.1 hstep, ?_⟩
    have hclock := (jwksMachine_step hstep).clock_le
    simp only [jwksMachine] at hstep
    split at hstep
    · rename_i hle
      cases hstep
      exact ⟨_, List.getElem?_concat_length, (callOk_getKey hcache hle.2.1 hle.2.2).mono hclock⟩
    · cases hstep
  obtain ⟨-, phase, hphase, hok⟩ := Machine.along_induction (fun s a s' h hc hst => h.step hc hst) hrun
    (ha₂.2 s₁ hstep) hfirst
  refine ⟨phase, hphase, ?_, ?_⟩
  · rintro key rfl
    obtain ⟨keys, ⟨v, hv, hnow, hkeys⟩, hget⟩ := hok
    exact ⟨v, keys, hv, hnow, hkeys, hget⟩
  · rintro k rfl
    obtain ⟨hk, keys, ⟨v, hv, hnow, hkeys⟩, hget⟩ := hok
    exact ⟨hk, v, keys, hv, hnow, hkeys, hget⟩

/-- An endpoint that replaces its key at 2000. -/
def replacedKey (v : ℚ) : Json :=
  .obj [("keys", .arr [.obj [("kid", .str (if v < 2000 then "key-a" else "key-b"))]])]

/-- The keys are fetched at 1000, and served until 4600. -/
def keyServed : List JwksAction := [.getKey "key-a" 1000 1000 1000,
    .resume 0 (.payload (replacedKey 1000)) 1001 1001 1001]

def keyServedState : JwksState :=
  let key : Json := .obj [("kid", .str "key-a")]
  ⟨⟨3600, 30, [("key-a", key)], some 1001⟩, 1001, [⟨some "key-a", .returned key⟩], [1000], []⟩

theorem get_key_fresh_replaced : ∃ t key,
    jwksMachine.run (.init (.new 3600 30) 1000) keyServed = some keyServedState ∧
    jwksMachine.run keyServedState [.getKey "key-a" 4000 4000 4000] = some t ∧
    t.tasks[1]? = some ⟨some "key-a", .returned key⟩ ∧ (parseKeys (replacedKey 4000)).any
      (PyDict.get · "key-a" |>.isNone) ∧
    ∃ v keys, ((4000 : ℚ) ≤ v ∨ 4000 < v + ((3600 : Int) + 1)) ∧ v ≤ t.clock ∧
      parseKeys (replacedKey v) = some keys ∧ PyDict.get keys "key-a" = some key := by
  have hs : jwksMachine.run (.init (.new 3600 30) 1000) keyServed = some keyServedState := rfl
  let t : JwksState := { keyServedState with clock := 4000, tasks := keyServedState.tasks ++ keyServedState.tasks }
  have ht : jwksMachine.run keyServedState [.getKey "key-a" 4000 4000 4000] = some t := by
    have hstale : keyServedState.client.isStale 4000 = false := by norm_num [keyServedState, JwksClient.isStale]
    have hclock : keyServedState.clock ≤ 4000 := by decide
    simp only [Machine.run, jwksMachine, JwksState.getKey, hstale, hclock, le_refl, and_self, if_true]
    rfl
  have ha : jwksMachine.Along (Answers replacedKey 1) (.init (.new 3600 30) 1000)
      (keyServed ++ [.getKey "key-a" 4000 4000 4000]) := by
    refine ⟨trivial, fun s₁ h₁ => ⟨⟨1000, rfl, by norm_num, by norm_num, fun task t hi ht => ?_⟩,
      fun s₂ h₂ => ⟨trivial, fun s₃ h₃ => trivial⟩⟩⟩
    cases h₁
    cases hi
    cases ht
    exact le_rfl
  obtain ⟨phase, hphase, hkey, -⟩ := get_key_fresh hs ht ha
  cases hphase
  exact ⟨t, _, hs, ht, rfl, by decide, hkey _ rfl⟩

end CleanBackend
