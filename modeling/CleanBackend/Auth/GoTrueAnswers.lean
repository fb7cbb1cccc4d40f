import CleanBackend.Auth.SameButTokens
import CleanBackend.Auth.SupabaseAuthClient

/-!
# Answers of GoTrue that differ in tokens only

Two JSON values are the same but tokens when they are equal except for tokens under `access_token` and
`refresh_token`, at any depth.  The client reads the same from both, except for the two tokens themselves.  The code
that it makes of an error body is the same where the part it prints holds no token (`Json.holdsToken`).
-/

namespace CleanBackend

/-! ### Values -/

/-- `access_token` or `refresh_token`. -/
def tokenKey (key : String) : Bool := key == "access_token" || key == "refresh_token"

def Json.isToken : Json → Bool
  | .str t => decide (IsToken t)
  | _ => false

mutual

/-- Equal, except for tokens under the token keys, at any depth. -/
def SameJson : Json → Json → Prop
  | .arr items, .arr items' => SameItems items items'
  | .obj entries, .obj entries' => SameEntries entries entries'
  | value, value' => value = value'

def SameItems : List Json → List Json → Prop
  | [], items' => items' = []
  | _ :: _, [] => False
  | item :: items, item' :: items' => SameJson item item' ∧ SameItems items items'

def SameEntries : List (String × Json) → List (String × Json) → Prop
  | [], entries' => entries' = []
  | _ :: _, [] => False
  | (key, value) :: entries, (key', value') :: entries' =>
    key' = key ∧ (SameJson value value' ∨ tokenKey key = true ∧ value.isToken = true ∧ value'.isToken = true) ∧
      SameEntries entries entries'

end

mutual

/-- A token stands under a token key, at some depth. -/
def Json.holdsToken : Json → Bool
  | .arr items => itemsHoldToken items
  | .obj entries => entriesHoldToken entries
  | _ => false

def itemsHoldToken : List Json → Bool
  | [] => false
  | item :: items => item.holdsToken || itemsHoldToken items

def entriesHoldToken : List (String × Json) → Bool
  | [] => false
  | (key, value) :: entries => tokenKey key && value.isToken || value.holdsToken || entriesHoldToken entries

end

theorem sameJson_refl : (∀ value, SameJson value value) ∧ (∀ items, SameItems items items) ∧
    ∀ entries, SameEntries entries entries := by
  apply Json.induction
  case scalar =>
    intro value hs
    cases value with
    | arr _ | obj _ => cases hs
    | _ => simp only [SameJson]
  case arr | obj =>
    intro inner ih
    simpa only [SameJson] using ih
  case nil => simp only [SameItems]
  case noEntry => simp only [SameEntries]
  case cons =>
    intro item items ih ihs
    simp only [SameItems]
    exact ⟨ih, ihs⟩
  case entry =>
    intro key value entries ih ihs
    simp only [SameEntries]
    exact ⟨trivial, Or.inl ih, ihs⟩

section Entries

variable {entries entries' : List (String × Json)}

theorem SameEntries.same (entry : String × Json) (h : SameEntries entries entries') :
    SameEntries (entry :: entries) (entry :: entries') := by
  simp only [SameEntries]
  exact ⟨trivial, Or.inl (sameJson_refl.1 _), h⟩

theorem SameEntries.token {key t t' : String} (hkey : tokenKey key = true) (ht : IsToken t) (ht' : IsToken t')
    (h : SameEntries entries entries') : SameEntries ((key, .str t) :: entries) ((key, .str t') :: entries') := by
  simp only [SameEntries]
  exact ⟨trivial, Or.inr ⟨hkey, decide_eq_true ht, decide_eq_true ht'⟩, h⟩

theorem SameEntries.value {key : String} {value value' : Json} (hvalue : SameJson value value')
    (h : SameEntries entries entries') : SameEntries ((key, value) :: entries) ((key, value') :: entries') := by
  simp only [SameEntries]
  exact ⟨trivial, Or.inl hvalue, h⟩

theorem SameEntries.obj (h : SameEntries entries entries') : SameJson (.obj entries) (.obj entries') := by
  simpa only [SameJson] using h

end Entries

/-- Values that are the same but tokens, and hold none, are equal. -/
private theorem eq_of_sameJson :
    (∀ value, value.holdsToken = false → ∀ value', SameJson value value' → value = value') ∧
    (∀ items, itemsHoldToken items = false → ∀ items', SameItems items items' → items = items') ∧
    ∀ entries, entriesHoldToken entries = false → ∀ entries', SameEntries entries entries' → entries = entries' := by
  apply Json.induction
  case scalar =>
    intro value hs _ value' h
    cases value with
    | arr _ | obj _ => cases hs
    | _ => simpa only [SameJson] using h
  case arr | obj =>
    intro inner ih hc value' h
    cases value' <;> simp only [SameJson, Json.holdsToken, reduceCtorEq] at hc h
    rw [ih hc _ h]
  case nil | noEntry =>
    intro _ inner' h
    simpa only [SameItems, SameEntries, eq_comm] using h
  case cons =>
    intro item items ih ihs hc items' h
    cases items' with
    | nil => simp only [SameItems] at h
    | cons item' items' =>
      simp only [itemsHoldToken, Bool.or_eq_false_iff] at hc
      simp only [SameItems] at h
      rw [ih hc.1 _ h.1, ihs hc.2 _ h.2]
  case entry =>
    intro key value entries ih ihs hc entries' h
    cases entries' with
    | nil => simp only [SameEntries] at h
    | cons entry' entries' =>
      obtain ⟨key', value'⟩ := entry'
      simp only [entriesHoldToken, Bool.or_eq_false_iff, Bool.and_eq_false_iff] at hc
      simp only [SameEntries] at h
      -- the value is the same but tokens, or a token itself, which `hc` excludes
      obtain ⟨⟨htoken, hvalue⟩, hentries⟩ := hc
      obtain ⟨rfl, hsame | ⟨hkey, ht, -⟩, hrest⟩ := h
      · rw [ih hvalue _ hsame, ihs hentries _ hrest]
      · rcases htoken with hk | ht'
        · rw [hkey] at hk
          cases hk
        · rw [ht] at ht'
          cases ht'

/-- Equal values, two lists or two dictionaries. -/
theorem sameJson_cases {value value' : Json} (h : SameJson value value') :
    value = value' ∨ (∃ items items', value = .arr items ∧ value' = .arr items' ∧ SameItems items items') ∨
      ∃ entries entries', value = .obj entries ∧ value' = .obj entries' ∧ SameEntries entries entries' := by
  cases value with
  | arr items =>
    cases value' with
    | arr items' =>
      simp only [SameJson] at h
      exact Or.inr (Or.inl ⟨items, items', rfl, rfl, h⟩)
    | _ => simp only [SameJson, reduceCtorEq] at h
  | obj entries =>
    cases value' with
    | obj entries' =>
      simp only [SameJson] at h
      exact Or.inr (Or.inr ⟨entries, entries', rfl, rfl, h⟩)
    | _ => simp only [SameJson, reduceCtorEq] at h
  | _ =>
    simp only [SameJson] at h
    exact Or.inl h

/-- What is the same for all lists that are the same but tokens, and all dictionaries, is the same for the values. -/
private theorem eq_of_containers {α : Type} {f : Json → α} {value value' : Json} (h : SameJson value value')
    (harr : ∀ items items', SameItems items items' → f (.arr items) = f (.arr items'))
    (hobj : ∀ entries entries', SameEntries entries entries' → f (.obj entries) = f (.obj entries')) :
    f value = f value' := by
  rcases sameJson_cases h with rfl | ⟨items, items', rfl, rfl, hi⟩ | ⟨entries, entries', rfl, rfl, he⟩
  · rfl
  · exact harr _ _ hi
  · exact hobj _ _ he

private theorem truthy_same {value value' : Json} (h : SameJson value value') : value.truthy = value'.truthy := by
  refine eq_of_containers h (fun items items' hi => ?_) fun entries entries' he => ?_
  · cases items <;> cases items' <;> simp only [SameItems, reduceCtorEq] at hi <;> rfl
  · cases entries <;> cases entries' <;> simp only [SameEntries, reduceCtorEq] at he <;> rfl

private theorem or_same {a a' b b' : Json} (ha : SameJson a a') (hb : SameJson b b') :
    SameJson (a.or b) (a'.or b') := by
  unfold Json.or
  rw [truthy_same ha]
  split
  · exact ha
  · exact hb

/-! ### What the client reads -/

inductive GoTrueTokenSet.SameButTokens : GoTrueTokenSet → GoTrueTokenSet → Prop where
  | mk (expiresIn : Int) {a a' r r' : String} (ha : SameToken a a') (hr : SameToken r r') :
      SameButTokens ⟨a, r, expiresIn⟩ ⟨a', r', expiresIn⟩

section Entries

variable {entries entries' : List (String × Json)}

/-- Under any key: nothing, two values that are the same but tokens, or two tokens under a token key. -/
private theorem get_same (h : SameEntries entries entries') (key : String) :
    (PyDict.get entries key = none ∧ PyDict.get entries' key = none) ∨
    ∃ value value', PyDict.get entries key = some value ∧ PyDict.get entries' key = some value' ∧
      (SameJson value value' ∨ tokenKey key = true ∧ value.isToken = true ∧ value'.isToken = true) := by
  induction entries generalizing entries' with
  | nil =>
    simp only [SameEntries] at h
    subst h
    exact Or.inl ⟨rfl, rfl⟩
  | cons entry entries ih =>
    obtain ⟨k, value⟩ := entry
    cases entries' with
    | nil => simp only [SameEntries] at h
    | cons entry' entries' =>
      obtain ⟨k', value'⟩ := entry'
      simp only [SameEntries] at h
      obtain ⟨rfl, hvalue, hrest⟩ := h
      rw [PyDict.get_cons, PyDict.get_cons]
      by_cases hk : k' = key
      · subst hk
        rw [if_pos rfl, if_pos rfl]
        exact Or.inr ⟨value, value', rfl, rfl, hvalue⟩
      · rw [if_neg hk, if_neg hk]
        exact ih hrest

/-- Under another key than those of the tokens, values that are the same but tokens. -/
private theorem getJson_same (h : SameEntries entries entries') {key : String} (hkey : tokenKey key = false) :
    SameJson (getJson entries key) (getJson entries' key) := by
  unfold getJson
  rcases get_same h key with ⟨hn, hn'⟩ | ⟨value, value', hv, hv', hsame | ⟨hk, -⟩⟩
  · rw [hn, hn']
    exact sameJson_refl.1 _
  · rw [hv, hv']
    exact hsame
  · rw [hkey] at hk
    cases hk

/-- The texts under any key. -/
private theorem str_same (h : SameEntries entries entries') (key : String) :
    Option.Rel SameToken (getJson entries key).str? (getJson entries' key).str? := by
  have hrefl : ∀ text : Option String, Option.Rel SameToken text text := fun text => by
    cases text with
    | none => exact .none
    | some t => exact .some (.refl t)
  unfold getJson
  rcases get_same h key with ⟨hn, hn'⟩ | ⟨value, value', hv, hv', hsame | ⟨-, ht, ht'⟩⟩
  · rw [hn, hn']
    exact hrefl _
  · rw [hv, hv', Option.getD_some, Option.getD_some,
      eq_of_containers (f := Json.str?) hsame (fun _ _ _ => rfl) fun _ _ _ => rfl]
    exact hrefl _
  · rw [hv, hv']
    cases value with
    | str t =>
      cases value' with
      | str t' => exact .some (Or.inr ⟨of_decide_eq_true ht, of_decide_eq_true ht'⟩)
      | null | bool _ | num _ _ | arr _ | obj _ => cases ht'
    | null | bool _ | num _ _ | arr _ | obj _ => cases ht

variable {env : BackendEnv}

theorem goTrueTokenSet_same (h : SameEntries entries entries') :
    Option.Rel GoTrueTokenSet.SameButTokens (env.goTrueTokenSet entries) (env.goTrueTokenSet entries') := by
  have hvalue : ∀ {α : Type} (f : Json → α) (key : String) (default : Json), tokenKey key = false →
      (∀ items items', f (.arr items) = f (.arr items')) →
      (∀ entries entries', f (.obj entries) = f (.obj entries')) →
      f ((PyDict.get entries key).getD default) = f ((PyDict.get entries' key).getD default) := by
    intro α f key default hkey harr hobj
    rcases get_same h key with ⟨hn, hn'⟩ | ⟨value, value', hv, hv', hsame | ⟨hk, -⟩⟩
    · rw [hn, hn']
    · rw [hv, hv']
      exact eq_of_containers hsame (fun _ _ _ => harr _ _) fun _ _ _ => hobj _ _
    · rw [hkey] at hk
      cases hk
  have ha := str_same h "access_token"
  have hr := str_same h "refresh_token"
  unfold BackendEnv.goTrueTokenSet
  rw [hvalue env.validInt "expires_in" _ (by decide) (fun _ _ => rfl) fun _ _ => rfl,
    hvalue Json.str? "token_type" _ (by decide) (fun _ _ => rfl) fun _ _ => rfl]
  generalize (getJson entries "access_token").str? = a, (getJson entries' "access_token").str? = a',
    (getJson entries "refresh_token").str? = r, (getJson entries' "refresh_token").str? = r' at ha hr
  cases ha with
  | none => exact .none
  | some ha => cases hr with
    | none => exact .none
    | some hr =>
      cases env.validInt ((PyDict.get entries' "expires_in").getD (.num 3600 0)) with
      | none => exact .none
      | some expiresIn =>
        cases ((PyDict.get entries' "token_type").getD (.str "bearer")).str? with
        | none => exact .none
        | some tokenType => exact .some (.mk expiresIn ha hr)

theorem goTrueUser_same (h : SameEntries entries entries') : goTrueUser entries = goTrueUser entries' := by
  have hid := eq_of_containers (f := Json.str?) (getJson_same h (by decide : tokenKey "id" = false))
    (fun _ _ _ => rfl) fun _ _ _ => rfl
  unfold goTrueUser
  rw [hid]
  rcases sameJson_cases (getJson_same h (by decide : tokenKey "email" = false)) with
    he | ⟨items, items', he, he', -⟩ | ⟨fields, fields', he, he', -⟩
  · rw [he]
  · rw [he, he']
    cases (getJson entries' "id").str? <;> rfl
  · rw [he, he']
    cases (getJson entries' "id").str? <;> rfl

end Entries

/-! ### Error bodies -/

private theorem rawCode_same {body body' : Option Json} (h : Option.Rel SameJson body body') :
    SameJson (rawCode body) (rawCode body') := by
  cases h with
  | none => exact sameJson_refl.1 _
  | some h =>
    rcases sameJson_cases h with rfl | ⟨items, items', rfl, rfl, -⟩ | ⟨entries, entries', rfl, rfl, he⟩
    · exact sameJson_refl.1 _
    · exact sameJson_refl.1 _
    · exact or_same (or_same (getJson_same he (by decide)) (getJson_same he (by decide)))
        (getJson_same he (by decide))

/-- The details of two errors are the same where the code that they print holds no token. -/
theorem safeErrorDetails_same {env : BackendEnv} {body body' : Option Json} (h : Option.Rel SameJson body body')
    (hclean : (rawCode body).holdsToken = false) (status : Nat) (path : String) :
    env.safeErrorDetails status body path = env.safeErrorDetails status body' path := by
  have hraw : rawCode body = rawCode body' := eq_of_sameJson.1 _ hclean _ (rawCode_same h)
  unfold BackendEnv.safeErrorDetails BackendEnv.providerCode
  rw [hraw]

end CleanBackend
