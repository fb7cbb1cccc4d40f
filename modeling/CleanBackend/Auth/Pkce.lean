import CleanBackend.Core.ErrorEnvelope
import CleanBackend.Lib.Base64
import CleanBackend.Lib.PyJson

/-!
# The PKCE cookie and the state gate

`auth/pkce.py`, and the beginning of `callback` in `auth/routes.py`, over Python texts.  The login's state and
verifier come back out of the cookie that they are packed into (`unpackStatePayload_packStatePayload`).

The gate of the callback raises something else than a `CsrfValidationError` in two cases: the JSON of the cookie nests
deeper than the interpreter's stack, so that `json.loads` raises a `RecursionError`, which `unpack_state_payload` does
not catch; and one of the two states has a single surrogate, which `encode` in `states_match` refuses.  Elsewhere it
is exact (`callback_exact_iff`).
-/

namespace CleanBackend

/-- A letter, a digit, `-`, `_` or `=`. -/
def CodePoint.isBase64url (c : CodePoint) : Bool :=
  (65 ≤ c.val && c.val ≤ 90) || (97 ≤ c.val && c.val ≤ 122) || (48 ≤ c.val && c.val ≤ 57) || c.is '-' || c.is '_' ||
    c.is '='

namespace Pkce

/-! ### The cookie -/

/-- `pack_state_payload`, with `none` for a `UnicodeError` -/
def packStatePayload (state verifier : PyText) : Option PyText :=
  (dumps [(.ofString "state", state), (.ofString "verifier", verifier)]).encode.bind fun payload =>
    PyText.ofAscii (Base64.encode payload)

/-- What may be raised while the cookie is read. -/
inductive UnpackError where
  /-- a `ValueError`; `binascii.Error` and the Unicode errors are ones -/
  | valueError
  | keyError
  | typeError
  | recursionError

def LoadsError.unpackError : LoadsError → UnpackError
  | .valueError => .valueError
  | .recursionError => .recursionError

/-- `payload[key]` -/
def subscript (payload : PyJson) (key : String) : Except UnpackError PyJson :=
  match payload with
  | .dict entries => (PyDict.get entries (.ofString key)).elim (.error .keyError) .ok
  | _ => .error .typeError

/-- The bytes of the cookie as a text. -/
def cookieText (raw : PyText) : Option PyText := (raw.encodeAscii.bind Base64.decode).bind decodeDocument

/-- `json.loads(base64.urlsafe_b64decode(raw.encode("ascii")))` -/
def loadPayload (room : Nat) (raw : PyText) : Except UnpackError PyJson := do
  let ascii ← raw.encodeAscii.elim (.error .valueError) .ok
  let data ← (Base64.decode ascii).elim (.error .valueError) .ok
  (loads room data).mapError LoadsError.unpackError

/-- The body of the `try` in `unpack_state_payload`. -/
def loadState (room : Nat) (raw : PyText) : Except UnpackError (PyJson × PyJson) := do
  let payload ← loadPayload room raw
  let state ← subscript payload "state"
  let verifier ← subscript payload "verifier"
  return (state, verifier)

/-- What leaves the gate beside a verifier. -/
inductive GateError where
  | app (error : AppError)
  | recursionError
  | unicodeEncodeError

/-- The `except` clause of `unpack_state_payload`, and the check of the types after it. -/
def unpacked : Except UnpackError (PyJson × PyJson) → Except GateError (Option (PyText × PyText))
  | .ok (.str state, .str verifier) => .ok (some (state, verifier))
  | .ok _ => .ok none
  | .error .valueError | .error .keyError | .error .typeError => .ok none
  | .error .recursionError => .error .recursionError

/-- `unpack_state_payload` -/
def unpackStatePayload (room : Nat) (raw : Option PyText) : Except GateError (Option (PyText × PyText)) :=
  match raw with
  | none | some [] => .ok none
  | some raw => unpacked (loadState room raw)

/-- `states_match` -/
def statesMatch (expected : PyText) (received : Option PyText) : Except GateError Bool :=
  match received with
  | none | some [] => .ok false
  | some received => do
    let expected ← expected.encode.elim (.error .unicodeEncodeError) .ok
    let received ← received.encode.elim (.error .unicodeEncodeError) .ok
    return expected = received

/-! ### The gate -/

/-- The callback up to its first call of GoTrue. -/
inductive Callback where
  | exchangeCode (code codeVerifier : PyText)
  | raises (error : GateError)

/-- The verifier for the code. -/
def callbackGate (room : Nat) (cookie : Option PyText) (state : PyText) : Except GateError PyText := do
  match ← unpackStatePayload room cookie with
  | none => throw (.app (.csrfValidation "Login state cookie missing or corrupt"))
  | some (expectedState, verifier) =>
    if ← statesMatch expectedState (some state) then return verifier
    else throw (.app (.csrfValidation "OAuth state mismatch"))

def callback (room : Nat) (cookie : Option PyText) (code state : PyText) : Callback :=
  match callbackGate room cookie state with
  | .ok verifier => .exchangeCode code verifier
  | .error error => .raises error

/-- The cookie decodes to an object with these two strings. -/
def CookieHolds (cookie : Option PyText) (state verifier : PyText) : Prop :=
  ∃ raw text entries, cookie = some raw ∧ cookieText raw = some text ∧ parseJson text = some (.dict entries) ∧
    PyDict.get entries (.ofString "state") = some (.str state) ∧
    PyDict.get entries (.ofString "verifier") = some (.str verifier)

/-- The callback goes on with a verifier exactly where the cookie has it and the state received, and raises a
`CsrfValidationError` everywhere else. -/
def Exact (room : Nat) (cookie : Option PyText) (code received : PyText) : Prop :=
  (∀ verifier, callback room cookie code received = .exchangeCode code verifier ↔
      ∃ state, CookieHolds cookie state verifier ∧ received ≠ [] ∧ received = state) ∧
    ((¬ ∃ state verifier, CookieHolds cookie state verifier ∧ received ≠ [] ∧ received = state) →
      ∃ message, callback room cookie code received = .raises (.app (.csrfValidation message)))

/-- The JSON of the cookie, as far as it can be read, nests no deeper than the stack. -/
def CookieFits (room : Nat) (cookie : Option PyText) : Prop :=
  ∀ raw text, cookie = some raw → cookieText raw = some text → JsonReader.start.Fits room text

/-! ### What the cookie decodes to -/

variable {room : Nat} {cookie : Option PyText} {raw text state verifier : PyText}

private theorem loadPayload_eq (room : Nat) (raw : PyText) :
    loadPayload room raw =
      (cookieText raw).elim (.error .valueError) fun text =>
        (loadsText room text).mapError LoadsError.unpackError := by
  unfold loadPayload cookieText
  cases raw.encodeAscii with
  | none => rfl
  | some ascii =>
    change ((Base64.decode ascii).elim (.error .valueError) .ok >>= fun data =>
      (loads room data).mapError LoadsError.unpackError) = _
    rw [Option.bind_some]
    cases Base64.decode ascii with
    | none => rfl
    | some data =>
      rw [Option.bind_some]
      show (loads room data).mapError _ = _
      unfold loads
      cases decodeDocument data <;> rfl

/-- The two strings of a payload that is a dictionary with them. -/
def payloadStrings : PyJson → Option (PyText × PyText)
  | .dict entries =>
    match PyDict.get entries (.ofString "state"), PyDict.get entries (.ofString "verifier") with
    | some (.str state), some (.str verifier) => some (state, verifier)
    | _, _ => none
  | _ => none

private theorem payloadStrings_eq_some {payload : PyJson} :
    payloadStrings payload = some (state, verifier) ↔
      ∃ entries, payload = .dict entries ∧ PyDict.get entries (.ofString "state") = some (.str state) ∧
        PyDict.get entries (.ofString "verifier") = some (.str verifier) := by
  constructor
  · intro h
    unfold payloadStrings at h
    split at h
    · rename_i entries
      split at h
      · rename_i hstate hverifier
        cases h
        exact ⟨entries, rfl, hstate, hverifier⟩
      · cases h
    · cases h
  · rintro ⟨entries, rfl, hstate, hverifier⟩
    simp only [payloadStrings, hstate, hverifier]

private theorem unpackStatePayload_some (hraw : raw ≠ []) : unpackStatePayload room (some raw) =
    unpacked (loadState room raw) := by
  cases raw with
  | nil => exact absurd rfl hraw
  | cons c cs => rfl

/-- A payload that was loaded gives its strings. -/
private theorem unpacked_payload (payload : PyJson) :
    unpacked (do
      let state ← subscript payload "state"
      let verifier ← subscript payload "verifier"
      return (state, verifier)) = .ok (payloadStrings payload) := by
  cases payload with
  | dict entries =>
    unfold subscript payloadStrings
    dsimp only
    cases PyDict.get entries (.ofString "state") with
    | none => rfl
    | some state =>
      cases PyDict.get entries (.ofString "verifier") with
      | none => cases state <;> rfl
      | some verifier => cases state <;> cases verifier <;> rfl
  | null | bool | number | str | list => rfl

private theorem cookieHolds_some :
    CookieHolds (some raw) state verifier ↔
      ((cookieText raw).bind parseJson).bind payloadStrings = some (state, verifier) := by
  constructor
  · rintro ⟨raw', text, entries, h, htext, hparse, hstate, hverifier⟩
    cases h
    rw [htext, Option.bind_some, hparse, Option.bind_some]
    exact payloadStrings_eq_some.2 ⟨entries, rfl, hstate, hverifier⟩
  · intro h
    obtain ⟨payload, hpayload, hstrings⟩ := Option.bind_eq_some_iff.1 h
    obtain ⟨text, htext, hparse⟩ := Option.bind_eq_some_iff.1 hpayload
    obtain ⟨entries, rfl, hstate, hverifier⟩ := payloadStrings_eq_some.1 hstrings
    exact ⟨raw, text, entries, rfl, htext, hparse, hstate, hverifier⟩

private theorem not_cookieHolds_none : ¬ CookieHolds none state verifier := fun ⟨_, _, _, h, _⟩ => nomatch h

private theorem CookieHolds.unique {state' verifier' : PyText} (h : CookieHolds cookie state verifier)
    (h' : CookieHolds cookie state' verifier') : state = state' ∧ verifier = verifier' := by
  cases cookie with
  | none => exact absurd h not_cookieHolds_none
  | some raw =>
    have heq := (cookieHolds_some.1 h).symm.trans (cookieHolds_some.1 h')
    cases heq
    exact ⟨rfl, rfl⟩

/-- Where the cookie fits, `unpack_state_payload` returns what it holds. -/
private theorem unpackStatePayload_of_fits (hfits : CookieFits room cookie) :
    ∃ strings, unpackStatePayload room cookie = .ok strings ∧
      ∀ state verifier, CookieHolds cookie state verifier ↔ strings = some (state, verifier) := by
  cases cookie with
  | none => exact ⟨none, rfl, fun state verifier => iff_of_false not_cookieHolds_none (by simp)⟩
  | some raw =>
    refine ⟨((cookieText raw).bind parseJson).bind payloadStrings, ?_, fun _ _ => cookieHolds_some⟩
    by_cases hraw : raw = []
    · rw [hraw]
      rfl
    · rw [unpackStatePayload_some hraw]
      unfold loadState
      rw [loadPayload_eq]
      cases htext : cookieText raw with
      | none => rfl
      | some text =>
        rw [Option.elim_some, loadsText_of_fits (hfits raw text rfl htext), Option.bind_some]
        cases parseJson text with
        | none => rfl
        | some payload => exact unpacked_payload payload

private theorem unpackStatePayload_of_not_fits (hfits : ¬ CookieFits room cookie) :
    unpackStatePayload room cookie = .error .recursionError := by
  have hex : ∃ raw text, cookie = some raw ∧ cookieText raw = some text ∧ ¬ JsonReader.start.Fits room text := by
    by_contra hno
    exact hfits fun raw text h₁ h₂ => by_contra fun h₃ => hno ⟨raw, text, h₁, h₂, h₃⟩
  obtain ⟨raw, text, rfl, htext, hdeep⟩ := hex
  have hraw : raw ≠ [] := by
    rintro rfl
    have hempty : cookieText [] = some [] := rfl
    cases htext.symm.trans hempty
    exact hdeep (JsonReader.fits_nil (Nat.zero_le _))
  rw [unpackStatePayload_some hraw]
  unfold loadState
  rw [loadPayload_eq, htext, Option.elim_some, loadsText_of_not_fits hdeep]
  rfl

/-! ### The gate is exact -/

private theorem statesMatch_some {expected received : PyText} (hreceived : received ≠ []) :
    statesMatch expected (some received) =
      if expected.encode.isSome ∧ received.encode.isSome then .ok (decide (expected = received))
      else .error .unicodeEncodeError := by
  have hmatch : statesMatch expected (some received) = (do
      let expected ← expected.encode.elim (.error .unicodeEncodeError) .ok
      let received ← received.encode.elim (.error .unicodeEncodeError) .ok
      return expected = received) := by
    cases received with
    | nil => exact absurd rfl hreceived
    | cons c cs => rfl
  rw [hmatch]
  cases he : expected.encode with
  | none => rfl
  | some a =>
    cases hr : received.encode with
    | none => rfl
    | some b =>
      have hiff : a = b ↔ expected = received := by
        constructor
        · rintro rfl
          exact PyText.encode_inj he hr
        · rintro rfl
          exact Option.some.inj (he.symm.trans hr)
      show Except.ok (decide (a = b)) = Except.ok (decide (expected = received))
      rw [decide_eq_decide.2 hiff]

private theorem callback_of_none (h : unpackStatePayload room cookie = .ok none) (code received : PyText) :
    callback room cookie code received = .raises (.app (.csrfValidation
      "Login state cookie missing or corrupt")) := by
  unfold callback callbackGate
  rw [h]
  rfl

private theorem callback_of_some (h : unpackStatePayload room cookie = .ok (some (state, verifier)))
    (code received : PyText) :
    callback room cookie code received =
      match statesMatch state (some received) with
      | .ok true => .exchangeCode code verifier
      | .ok false => .raises (.app (.csrfValidation "OAuth state mismatch"))
      | .error error => .raises error := by
  unfold callback callbackGate
  rw [h]
  show (match (statesMatch state (some received) >>= fun b => _ : Except GateError PyText) with
    | .ok verifier => _
    | .error error => _) = _
  cases statesMatch state (some received) with
  | error e => rfl
  | ok b => cases b <;> rfl

/-- A gate that raises something else is not exact. -/
private theorem not_exact_of_raises {code received : PyText} {error : GateError}
    (h : callback room cookie code received = .raises error)
    (hne : ∀ message, error ≠ .app (.csrfValidation message)) : ¬ Exact room cookie code received := by
  rintro ⟨hgo, hraise⟩
  by_cases hex : ∃ state verifier, CookieHolds cookie state verifier ∧ received ≠ [] ∧ received = state
  · obtain ⟨state, verifier, hadmits⟩ := hex
    cases h.symm.trans ((hgo verifier).2 ⟨state, hadmits⟩)
  · obtain ⟨message, hcsrf⟩ := hraise hex
    cases h.symm.trans hcsrf
    exact hne message rfl

/-- A gate that raises a `CsrfValidationError` where there is nothing to go on with is exact. -/
private theorem exact_of_csrf {code received : PyText} {message : String}
    (h : callback room cookie code received = .raises (.app (.csrfValidation message)))
    (hno : ∀ state verifier, CookieHolds cookie state verifier → received ≠ [] → received ≠ state) :
    Exact room cookie code received := by
  refine ⟨fun verifier => iff_of_false (fun hgo => ?_) ?_, fun _ => ⟨message, h⟩⟩
  · cases h.symm.trans hgo
  · rintro ⟨state, hholds, hne, heq⟩
    exact hno state verifier hholds hne heq

/-- The state gate does what it is for exactly where the JSON of the cookie fits the stack, and where the states that
it compares, if it compares any, have no surrogates. -/
theorem callback_exact_iff (room : Nat) (cookie : Option PyText) (code received : PyText) :
    Exact room cookie code received ↔
      CookieFits room cookie ∧
        ∀ state verifier, CookieHolds cookie state verifier → received ≠ [] →
          ∀ c, c ∈ state ∨ c ∈ received → c.isSurrogate = false := by
  -- the cookie first, then the query, then the encodings, and the comparison last
  by_cases hfits : CookieFits room cookie
  swap
  · have hraises : callback room cookie code received = .raises .recursionError := by
      unfold callback callbackGate
      rw [unpackStatePayload_of_not_fits hfits]
      rfl
    exact iff_of_false (not_exact_of_raises hraises fun _ => by simp) fun h => hfits h.1
  obtain ⟨strings, hunpack, hholds⟩ := unpackStatePayload_of_fits hfits
  cases strings with
  | none =>
    -- a cookie without the two strings stops every request
    have hno : ∀ state verifier, ¬ CookieHolds cookie state verifier := fun state verifier h =>
      nomatch (hholds state verifier).1 h
    have hcallback := callback_of_none hunpack code received
    exact iff_of_true (exact_of_csrf hcallback fun state verifier h => absurd h (hno state verifier))
      ⟨hfits, fun state verifier h => absurd h (hno state verifier)⟩
  | some strings =>
    obtain ⟨state, verifier⟩ := strings
    have hcookie : CookieHolds cookie state verifier := (hholds state verifier).2 rfl
    have hcallback := callback_of_some hunpack code received
    -- an empty state is refused before it is encoded
    by_cases hreceived : received = []
    · subst hreceived
      exact iff_of_true (exact_of_csrf hcallback fun _ _ _ hne => absurd rfl hne)
        ⟨hfits, fun _ _ _ hne => absurd rfl hne⟩
    rw [statesMatch_some hreceived] at hcallback
    by_cases hencode : state.encode.isSome ∧ received.encode.isSome
    · rw [if_pos hencode] at hcallback
      have hclean : ∀ c, c ∈ state ∨ c ∈ received → c.isSurrogate = false := fun c hc =>
        hc.elim ((PyText.encode_isSome state).1 hencode.1 c) ((PyText.encode_isSome received).1 hencode.2 c)
      have hright : ∀ state' verifier', CookieHolds cookie state' verifier' → received ≠ [] →
          ∀ c, c ∈ state' ∨ c ∈ received → c.isSurrogate = false := by
        intro state' verifier' h' _
        obtain ⟨rfl, -⟩ := hcookie.unique h'
        exact hclean
      refine iff_of_true ?_ ⟨hfits, hright⟩
      by_cases heq : state = received
      · rw [decide_eq_true heq] at hcallback
        refine ⟨fun verifier' => ⟨fun hgo => ?_, ?_⟩, fun hno => ?_⟩
        · cases hcallback.symm.trans hgo
          exact ⟨state, hcookie, hreceived, heq.symm⟩
        · rintro ⟨state', h', -, -⟩
          obtain ⟨-, rfl⟩ := hcookie.unique h'
          exact hcallback
        · exact absurd ⟨state, verifier, hcookie, hreceived, heq.symm⟩ hno
      · rw [decide_eq_false heq] at hcallback
        refine exact_of_csrf hcallback fun state' verifier' h' _ heq' => ?_
        obtain ⟨rfl, -⟩ := hcookie.unique h'
        exact heq heq'.symm
    · rw [if_neg hencode] at hcallback
      refine iff_of_false (not_exact_of_raises hcallback fun _ => by simp) fun h => hencode ?_
      have hclean := h.2 state verifier hcookie hreceived
      exact ⟨(PyText.encode_isSome state).2 fun c hc => hclean c (Or.inl hc),
        (PyText.encode_isSome received).2 fun c hc => hclean c (Or.inr hc)⟩

/-- A state that is a single surrogate, `{"state":"\\ud800","verifier":""}` in the cookie, is refused by `encode`. -/
theorem surrogate_state_raises :
    ¬ Exact 0 (some (.ofString "eyJzdGF0ZSI6Ilx1ZDgwMCIsInZlcmlmaWVyIjoiIn0=")) (.ofString "code")
      (.ofString "x") := by
  have h : (match callback 0 (some (.ofString "eyJzdGF0ZSI6Ilx1ZDgwMCIsInZlcmlmaWVyIjoiIn0=")) (.ofString "code")
      (.ofString "x") with
    | .raises .unicodeEncodeError => true
    | _ => false) = true := by decide +kernel
  split at h
  · rename_i hraises
    exact not_exact_of_raises hraises (by simp)
  · cases h

/-! ### The round trip -/

private theorem isBase64url_ofNat {b : UInt8} (h : Base64.isUrlsafe b = true ∨ b = Base64.pad) :
    b.toNat < 0x80 ∧ (CodePoint.ofNat b.toNat).isBase64url = true := by
  have hval : (CodePoint.ofNat b.toNat).val = b.toNat := CodePoint.val_ofNat (Nat.lt_trans b.toNat_lt (by decide))
  rcases h with h | rfl
  · unfold CodePoint.isBase64url CodePoint.is
    rw [hval]
    unfold Base64.isUrlsafe at h
    have hminus : b = 45 → b.toNat = 45 := fun h => h ▸ rfl
    have hline : b = 95 → b.toNat = 95 := fun h => h ▸ rfl
    simp only [Bool.or_eq_true, Bool.and_eq_true, decide_eq_true_eq] at h
    rcases h with (((h | h) | h) | h) | h
    · exact ⟨by omega, by simp [h]⟩
    · exact ⟨by omega, by simp [h]⟩
    · exact ⟨by omega, by simp [h]⟩
    · rw [hminus h]
      exact ⟨by decide, rfl⟩
    · rw [hline h]
      exact ⟨by decide, rfl⟩
  · exact ⟨by decide, rfl⟩

/-- The text of bytes of the URL-safe alphabet. -/
private theorem ofAscii_base64 {data : List UInt8} (h : ∀ b ∈ data, Base64.isUrlsafe b = true ∨ b = Base64.pad) :
    ∃ text, PyText.ofAscii data = some text ∧ text.encodeAscii = some data ∧ ∀ c ∈ text, c.isBase64url = true := by
  induction data with
  | nil => exact ⟨[], rfl, rfl, by simp⟩
  | cons b data ih =>
    obtain ⟨text, htext, hback, hall⟩ := ih fun d hd => h d (List.mem_cons_of_mem b hd)
    obtain ⟨hlt, hb⟩ := isBase64url_ofNat (h b List.mem_cons_self)
    have hval : (CodePoint.ofNat b.toNat).val = b.toNat := CodePoint.val_ofNat (Nat.lt_trans b.toNat_lt (by decide))
    refine ⟨CodePoint.ofNat b.toNat :: text, ?_, ?_, ?_⟩
    · unfold PyText.ofAscii at htext ⊢
      rw [List.mapM_cons, if_pos hlt, htext]
      rfl
    · unfold PyText.encodeAscii at hback ⊢
      rw [List.mapM_cons, hval, if_pos hlt, hback, UInt8.ofNat_toNat]
      rfl
    · intro c hc
      rcases List.mem_cons.1 hc with rfl | hc
      · exact hb
      · exact hall c hc

/-- A dumped object starts with a brace and a quotation mark, so that it is read as UTF-8. -/
private theorem decodeDocument_dumps (e : PyText × PyText) (es : List (PyText × PyText)) {data : List UInt8}
    (h : (dumps (e :: es)).encode = some data) : decodeDocument data = some (dumps (e :: es)) := by
  have hread := PyText.ofUtf8_encode h
  rw [PyText.encode_of_isAscii (dumps_isAscii _)] at h
  obtain ⟨rest, hrest⟩ : ∃ rest, data = 0x7B :: 0x22 :: rest := ⟨_, (Option.some.inj h).symm⟩
  subst hrest
  rw [← hread]
  match rest with
  | [] => rfl
  | [_] => rfl
  | _ :: _ :: _ => rfl

/-- The strings of a payload with the two keys. -/
private theorem payloadStrings_set (state verifier : PyText) :
    payloadStrings (.dict ([(PyText.ofString "state", state), (PyText.ofString "verifier", verifier)].foldl
      (fun d e => PyDict.set d e.1 (.str e.2)) [])) = some (state, verifier) := by
  have hne : PyText.ofString "verifier" ≠ PyText.ofString "state" := fun h =>
      absurd (PyText.ofString_inj h) (by decide)
  refine payloadStrings_eq_some.2 ⟨_, rfl, ?_, ?_⟩
  · rw [List.foldl_cons, List.foldl_cons, List.foldl_nil, PyDict.get_set, if_neg hne, PyDict.get_set, if_pos rfl]
  · rw [List.foldl_cons, List.foldl_cons, List.foldl_nil, PyDict.get_set, if_pos rfl]

/-- What is packed has the characters of URL-safe base64 only, and unpacks to itself. -/
theorem unpackStatePayload_packStatePayload (room : Nat) (state verifier : String) :
    ∃ text, packStatePayload (.ofString state) (.ofString verifier) = some text ∧
      (∀ c ∈ text, c.isBase64url = true) ∧
      unpackStatePayload room (some text) = .ok (some (.ofString state, .ofString verifier)) := by
  let entries := [(PyText.ofString "state", PyText.ofString state),
      (PyText.ofString "verifier", PyText.ofString verifier)]
  have hclean : ∀ (s : String), ∀ c ∈ PyText.ofString s, c.isSurrogate = false := by
    intro s c hc
    obtain ⟨d, -, rfl⟩ := List.mem_map.1 hc
    exact CodePoint.not_isSurrogate_ofChar d
  obtain ⟨payload, hpayload⟩ : ∃ payload, (dumps entries).encode = some payload :=
    ⟨_, PyText.encode_of_isAscii (dumps_isAscii entries)⟩
  have hdocument := decodeDocument_dumps _ _ hpayload
  obtain ⟨text, htext, hascii, hall⟩ := ofAscii_base64 (Base64.encode_alphabet payload)
  refine ⟨text, ?_, hall, ?_⟩
  · show (dumps entries).encode.bind _ = _
    rw [hpayload]
    exact htext
  have hcookie : cookieText text = some (dumps entries) := by
    unfold cookieText
    rw [hascii, Option.bind_some, Base64.decode_encode, Option.bind_some, hdocument]
  have hraw : text ≠ [] := by
    rintro rfl
    have hempty : cookieText [] = some [] := rfl
    exact absurd (hempty.symm.trans hcookie) (by simp [entries, dumps])
  have hentries : ∀ e ∈ entries, (∀ c ∈ e.1, c.isSurrogate = false) ∧ ∀ c ∈ e.2, c.isSurrogate = false := by
    intro e he
    rcases List.mem_cons.1 he with rfl | he
    · exact ⟨hclean _, hclean _⟩
    · rw [List.mem_singleton.1 he]
      exact ⟨hclean _, hclean _⟩
  have hloads := loadsText_dumps room (fun e he => (hentries e he).1) fun e he => (hentries e he).2
  rw [unpackStatePayload_some hraw]
  unfold loadState
  rw [loadPayload_eq, hcookie, Option.elim_some, hloads]
  exact (unpacked_payload _).trans (congrArg Except.ok (payloadStrings_set _ _))

end Pkce

end CleanBackend
