import CleanBackend.Lib.IpAddress
import CleanBackend.Lib.PyStr
import CleanBackend.RateLimiting.RateLimiter

/-!
# The client address

`resolveClientIp` walks the hops of an X-Forwarded-For text from the right when the socket peer is a trusted proxy.
The middleware and the dependency hand it the value of `headers.get`, which is the first header line only.  A request
with several lines should count as the one with the lines joined; the identifier is that of the joined lines exactly
when the first line decides it (`FirstLineDecides`).
-/

namespace CleanBackend

/-! ### The resolver -/

/-- The networks `parse_trusted_proxies` reads from the settings. -/
abbrev TrustedProxies := List IpNetwork

def unknownClient : String := "unknown"

/-- `_is_trusted` -/
def isTrusted (address : String) (trusted : TrustedProxies) : Bool :=
  match IpAddress.parse address with
  | none => false
  | some ip => trusted.any (·.contains ip)

/-- `[hop.strip() for hop in forwarded_for.split(",") if hop.strip()]` -/
def hopsOf (forwardedFor : String) : List String := (PyStr.fields ',' forwardedFor.toList).map String.ofList

def resolveClientIp (peerIp : Option String) (forwardedFor : Option String) (trustedProxies : TrustedProxies) :
    String :=
  match peerIp with
  | none => unknownClient
  | some peerIp =>
    if trustedProxies.isEmpty || !isTrusted peerIp trustedProxies || (forwardedFor.getD "").isEmpty then peerIp
    else
      let hops := hopsOf (forwardedFor.getD "")
      match hops.reverse.find? fun hop => !isTrusted hop trustedProxies with
      | some hop => hop
      | none => hops.head?.getD peerIp

/-- The first untrusted hop from the right. -/
def lastUntrusted (trusted : TrustedProxies) (hops : List String) : Option String :=
  hops.reverse.find? fun hop => !isTrusted hop trusted

section Resolver

variable {peer : String} {trusted : TrustedProxies}

private theorem resolve_untrusted (h : isTrusted peer trusted = false) (forwardedFor : Option String) :
    resolveClientIp (some peer) forwardedFor trusted = peer := by
  simp [resolveClientIp, h]

private theorem hopsOf_empty : hopsOf "" = [] := by simp [hopsOf]

/-- Behind a trusted peer only the hops count. -/
private theorem resolve_trusted (h : isTrusted peer trusted = true) (forwardedFor : Option String) :
    resolveClientIp (some peer) forwardedFor trusted =
      (lastUntrusted trusted (hopsOf (forwardedFor.getD ""))).getD
        ((hopsOf (forwardedFor.getD "")).head?.getD peer) := by
  have hne : trusted.isEmpty = false := by
    cases trusted with
    | nil =>
      unfold isTrusted at h
      split at h <;> simp at h
    | cons _ _ => rfl
  unfold resolveClientIp lastUntrusted
  simp only [hne, h, Bool.not_true, Bool.or_self, Bool.false_or]
  by_cases hempty : forwardedFor.getD "" = ""
  · simp [hempty, hopsOf_empty]
  · have hfalse : (forwardedFor.getD "").isEmpty = false := by simpa using hempty
    rw [hfalse]
    simp only [Bool.false_eq_true, if_false]
    cases (hopsOf (forwardedFor.getD "")).reverse.find? fun hop => !isTrusted hop trusted <;> rfl

private theorem lastUntrusted_append (A B : List String) :
    lastUntrusted trusted (A ++ B) = (lastUntrusted trusted B).or (lastUntrusted trusted A) := by
  simp [lastUntrusted, List.find?_append]

private theorem lastUntrusted_spec {hops : List String} {hop : String} (h : lastUntrusted trusted hops = some hop) :
    isTrusted hop trusted = false := by
  simpa using List.find?_some h

private theorem lastUntrusted_eq_none {hops : List String} :
    lastUntrusted trusted hops = none ↔ ∀ hop ∈ hops, isTrusted hop trusted = true := by
  simp [lastUntrusted]

private theorem exists_lastUntrusted {hops : List String} (h : ∃ hop ∈ hops, isTrusted hop trusted = false) :
    ∃ hop, lastUntrusted trusted hops = some hop := by
  rw [← Option.isSome_iff_exists, Option.isSome_iff_ne_none, ne_eq, lastUntrusted_eq_none]
  obtain ⟨hop, hmem, huntrusted⟩ := h
  intro hall
  rw [hall hop hmem] at huntrusted
  cases huntrusted

/-- Behind the last untrusted hop all are trusted. -/
private theorem lastUntrusted_split {hops : List String} {hop : String} (h : lastUntrusted trusted hops = some hop) :
    ∃ before after, hops = before ++ hop :: after ∧ ∀ other ∈ after, isTrusted other trusted = true := by
  obtain ⟨-, front, back, hsplit, hfront⟩ := List.find?_eq_some_iff_append.1 h
  refine ⟨back.reverse, front.reverse, ?_, fun other hother => ?_⟩
  · rw [← List.reverse_reverse hops, hsplit]
    simp
  · simpa using hfront other (List.mem_reverse.1 hother)

/-- What the hops `A` alone and the hops `A ++ B` resolve to. -/
def PrefixDecides (peer : String) (trusted : TrustedProxies) (A B : List String) : Prop :=
  match lastUntrusted trusted B with
  | some hop => lastUntrusted trusted A = some hop
  | none => A ≠ [] ∨ ∀ hop ∈ B.head?, hop = peer

/-- Leaving hops out keeps the value exactly when the prefix decides it. -/
private theorem prefixDecides_iff (h : isTrusted peer trusted = true) (A B : List String) :
    (lastUntrusted trusted A).getD (A.head?.getD peer) =
        (lastUntrusted trusted (A ++ B)).getD ((A ++ B).head?.getD peer) ↔
      PrefixDecides peer trusted A B := by
  rw [lastUntrusted_append]
  unfold PrefixDecides
  cases hB : lastUntrusted trusted B with
  | some hop =>
    have hhop : isTrusted hop trusted = false := lastUntrusted_spec hB
    cases hA : lastUntrusted trusted A with
    | some hop' => simp
    | none =>
      -- then the prefix resolves to a trusted address
      have htrusted : isTrusted (A.head?.getD peer) trusted = true := by
        cases hhead : A.head? with
        | none => exact h
        | some a => exact lastUntrusted_eq_none.1 hA a (List.mem_of_mem_head? hhead)
      have hne : A.head?.getD peer ≠ hop := by
        intro heq
        rw [heq, hhop] at htrusted
        cases htrusted
      simpa using hne
  | none =>
    cases A with
    | nil =>
      cases B with
      | nil => simp [lastUntrusted]
      | cons b B => simp [lastUntrusted, eq_comm]
    | cons a A =>
      cases hA : lastUntrusted trusted (a :: A) <;> simp

/-- The hops of joined lines are the hops of the lines. -/
private theorem hopsOf_join (lines : List String) : hopsOf (", ".intercalate lines) = lines.flatMap hopsOf := by
  unfold hopsOf
  rw [String.toList_intercalate, show ", ".toList = [',', ' '] by decide, PyStr.fields_join, List.flatMap_map,
    List.map_flatMap]

/-- Text in front of a comma adds hops in front. -/
private theorem hopsOf_append (a s : String) : hopsOf (a ++ "," ++ s) = hopsOf a ++ hopsOf s := by
  unfold hopsOf
  rw [String.toList_append, String.toList_append, show ",".toList = [','] by decide, List.append_assoc,
    List.singleton_append, PyStr.fields_append, List.map_append]

end Resolver

/-- No client forges its address.  An untrusted peer is its own address whatever it sends; behind a trusted peer the
address is the rightmost untrusted entry of what the proxies appended, whatever the client wrote in front. -/
theorem client_ip_not_forgeable (trusted : TrustedProxies) (peer : String) :
    (isTrusted peer trusted = false → ∀ forwardedFor, resolveClientIp (some peer) forwardedFor trusted = peer) ∧
    (isTrusted peer trusted = true → ∀ s, (∃ hop ∈ hopsOf s, isTrusted hop trusted = false) →
      ∃ before hop after, hopsOf s = before ++ hop :: after ∧ isTrusted hop trusted = false ∧
        (∀ other ∈ after, isTrusted other trusted = true) ∧ resolveClientIp (some peer) (some s) trusted = hop ∧
        ∀ a, resolveClientIp (some peer) (some (a ++ "," ++ s)) trusted =
          resolveClientIp (some peer) (some s) trusted) := by
  refine ⟨fun h forwardedFor => resolve_untrusted h forwardedFor, fun h s hs => ?_⟩
  obtain ⟨hop, hlast⟩ := exists_lastUntrusted hs
  obtain ⟨before, after, hsplit, hafter⟩ := lastUntrusted_split hlast
  have hresolve : resolveClientIp (some peer) (some s) trusted = hop := by
    rw [resolve_trusted h, Option.getD_some, hlast, Option.getD_some]
  refine ⟨before, hop, after, hsplit, lastUntrusted_spec hlast, hafter, hresolve, fun a => ?_⟩
  rw [hresolve, resolve_trusted h, Option.getD_some, hopsOf_append, lastUntrusted_append, hlast, Option.some_or,
    Option.getD_some]

/-- The client writes a trusted and an untrusted address in front of the entry its proxy appends. -/
theorem client_ip_not_forgeable_sample :
    resolveClientIp (some "10.0.0.1") (some ("10.0.0.2, 6.6.6.6" ++ "," ++ " 198.51.100.7"))
        [.v4 (.of 0x0a000000#32 8 (by decide))] =
      resolveClientIp (some "10.0.0.1") (some " 198.51.100.7") [.v4 (.of 0x0a000000#32 8 (by decide))] := by
  obtain ⟨-, -, -, -, -, -, -, h⟩ :=
    (client_ip_not_forgeable [.v4 (.of 0x0a000000#32 8 (by decide))] "10.0.0.1").2 (by decide)
      " 198.51.100.7" (by decide)
  exact h "10.0.0.2, 6.6.6.6"

/-! ### The requests -/

structure HttpRequest where
  client : Option String
  headers : List (String × String)
  path : String
  method : String
deriving DecidableEq, Repr

namespace HttpRequest

/-- The lines of a header, in order of arrival. -/
def lines (request : HttpRequest) (name : String) : List String :=
  (request.headers.filter fun header => decide (header.1 = name)).map Prod.snd

/-- `headers.get(name)`: the first line. -/
def getHeader (request : HttpRequest) (name : String) : Option String :=
  (findBy Prod.fst name request.headers).map Prod.snd

private theorem getHeader_eq (request : HttpRequest) (name : String) :
    request.getHeader name = (request.lines name).head? := by
  unfold getHeader lines findBy
  rw [List.head?_map, List.head?_filter]

end HttpRequest

def forwardedForHeader : String := "x-forwarded-for"

/-- The one header line that is equivalent to several. -/
def combinedLine (lines : List String) : Option String := if lines = [] then none else some (", ".intercalate lines)

/-! ### The call sites -/

def globalIpRuleName : String := "global.ip"

def rateLimitRules : List RateLimitRule :=
  [⟨globalIpRuleName, 300, 60, .ip, none⟩, ⟨"auth.login", 10, 60, .ip, some false⟩,
    ⟨"booking.create", 30, 60, .user, none⟩, ⟨"booking.approve", 60, 60, .user, none⟩,
    ⟨"profile.update", 20, 60, .user, none⟩, ⟨"events.read", 120, 60, .user, none⟩,
    ⟨"payment.refund", 5, 60, .user, some false⟩, ⟨"webhook.payment", 100, 60, .ip, none⟩]

/-- `none` is the `ValueError` of an unknown name. -/
def getRule (name : String) : Option RateLimitRule := findBy RateLimitRule.name name rateLimitRules

structure RateLimitSettings where
  apiPrefix : String
  trustedProxies : TrustedProxies

/-- `_is_exempt` -/
def isExempt (path apiPrefix : String) : Bool :=
  "/health".toList.isPrefixOf path.toList || (apiPrefix ++ "/health").toList.isPrefixOf path.toList

/-- The identifier `RateLimitMiddleware` keys on. -/
def middlewareIdentifier (settings : RateLimitSettings) (request : HttpRequest) : String :=
  resolveClientIp request.client (request.getHeader forwardedForHeader) settings.trustedProxies

/-- What the middleware does with a request: it is handed on, or answered with the error's response. -/
inductive Dispatch where
  | next
  | rateLimited (exc : RateLimitExceededError)
deriving DecidableEq, Repr

/-- `RateLimitMiddleware.dispatch` -/
def rateLimitDispatch {σ : Type} (limiter : Option (RateLimiter σ)) (settings : RateLimitSettings) (state : σ)
    (now : ℚ) (request : HttpRequest) : Option (Dispatch × σ) :=
  match limiter with
  | none => some (.next, state)
  | some limiter =>
    if isExempt request.path settings.apiPrefix then some (.next, state)
    else do
      let identifier := middlewareIdentifier settings request
      let rule ← getRule globalIpRuleName
      match limiter.check state now rule identifier with
      | (.error exc, state) => return (.rateLimited exc, state)
      | (.ok decision, state) =>
        if decision.allowed then return (.next, state)
        else
          return (.rateLimited (.new none [("rule", rule.name)] decision.resetAfterSeconds decision.limit
            decision.remaining), state)

/-- `_request_identifier` -/
def requestIdentifier (scope : RateLimitScope) (settings : RateLimitSettings) (request : HttpRequest) : String :=
  match scope with
  | .ip => resolveClientIp request.client (request.getHeader forwardedForHeader) settings.trustedProxies
  | .route | .resource => request.path
  | _ => "all"

structure RateLimitPrincipal where
  userId : String
  tenantId : String

/-- The dependency `rate_limit(rule_name)`; user and tenant rules key on the principal. -/
def rateLimit {σ : Type} (ruleName : String) (limiter : Option (RateLimiter σ)) (settings : RateLimitSettings)
    (state : σ) (now : ℚ) (principal : RateLimitPrincipal) (request : HttpRequest) :
    Option (Except RateLimitExceededError Unit × σ) := do
  let rule ← getRule ruleName
  match limiter with
  | none => return (.ok (), state)
  | some limiter =>
    let identifier :=
      match rule.scope with
      | .user => principal.userId
      | .tenant => principal.tenantId
      | scope => requestIdentifier scope settings request
    let (outcome, state) := limiter.enforce state now rule identifier
    return (outcome.map fun _ => (), state)

/-! ### Several header lines -/

/-- Behind a trusted peer, the hops of the first line decide the address. -/
def FirstLineDecides (trusted : TrustedProxies) (request : HttpRequest) : Prop :=
  ∀ peer ∈ request.client, isTrusted peer trusted = true →
    PrefixDecides peer trusted (((request.lines forwardedForHeader).take 1).flatMap hopsOf)
      (((request.lines forwardedForHeader).drop 1).flatMap hopsOf)

section Lines

variable (settings : RateLimitSettings) (request : HttpRequest)

private theorem hopsOf_combinedLine (lines : List String) :
    hopsOf ((combinedLine lines).getD "") = lines.flatMap hopsOf := by
  unfold combinedLine
  by_cases h : lines = []
  · simp [h, hopsOf_empty]
  · rw [if_neg h, Option.getD_some, hopsOf_join]

private theorem hopsOf_head (lines : List String) : hopsOf (lines.head?.getD "") = (lines.take 1).flatMap hopsOf := by
  cases lines <;> simp [hopsOf_empty]

/-- The first line alone resolves to what the joined lines resolve to, exactly when it decides the address. -/
private theorem first_line_iff :
    resolveClientIp request.client (request.getHeader forwardedForHeader) settings.trustedProxies =
        resolveClientIp request.client (combinedLine (request.lines forwardedForHeader)) settings.trustedProxies ↔
      FirstLineDecides settings.trustedProxies request := by
  unfold FirstLineDecides
  rw [request.getHeader_eq]
  cases hclient : request.client with
  | none => simp [resolveClientIp]
  | some peer =>
    cases htrusted : isTrusted peer settings.trustedProxies with
    | false => simp [resolve_untrusted htrusted, htrusted]
    | true =>
      have hsplit : (request.lines forwardedForHeader).flatMap hopsOf =
          ((request.lines forwardedForHeader).take 1).flatMap hopsOf ++
            ((request.lines forwardedForHeader).drop 1).flatMap hopsOf := by
        rw [← List.flatMap_append, List.take_append_drop]
      rw [resolve_trusted htrusted, resolve_trusted htrusted, hopsOf_combinedLine, hopsOf_head, hsplit,
        prefixDecides_iff htrusted]
      simp [htrusted]

/-- The address after the line a proxy appends: what the client sends in front of it does not matter exactly when its
own first line has the same last untrusted hop. -/
private theorem appended_line_iff {peer first appended : String} {front : List String}
    (hclient : request.client = some peer) (htrusted : isTrusted peer settings.trustedProxies = true)
    (hlines : request.lines forwardedForHeader = first :: (front ++ [appended]))
    (huntrusted : ∃ hop ∈ hopsOf appended, isTrusted hop settings.trustedProxies = false) :
    resolveClientIp request.client (request.getHeader forwardedForHeader) settings.trustedProxies =
        resolveClientIp (some peer) (some appended) settings.trustedProxies ↔
      lastUntrusted settings.trustedProxies (hopsOf first) =
        lastUntrusted settings.trustedProxies (hopsOf appended) := by
  obtain ⟨hop, hlast⟩ := exists_lastUntrusted huntrusted
  have hdecides := prefixDecides_iff htrusted (hopsOf first) (hopsOf appended)
  rw [lastUntrusted_append, hlast, Option.some_or, Option.getD_some] at hdecides
  rw [hclient, resolve_trusted htrusted, resolve_trusted htrusted, request.getHeader_eq, hlines, List.head?_cons,
    Option.getD_some, Option.getD_some, hlast, Option.getD_some, hdecides]
  unfold PrefixDecides
  rw [hlast]

end Lines

/-- The identifier of the middleware and of the IP-scoped dependency is that of the joined X-Forwarded-For lines
exactly when the first line decides it; and a line the client sends in front of the one its trusted proxy appends
leaves the identifier alone exactly when its last untrusted hop is the same. -/
theorem identifier_of_lines (settings : RateLimitSettings) (request : HttpRequest) :
    (middlewareIdentifier settings request =
        resolveClientIp request.client (combinedLine (request.lines forwardedForHeader)) settings.trustedProxies ↔
      FirstLineDecides settings.trustedProxies request) ∧
    (requestIdentifier .ip settings request =
        resolveClientIp request.client (combinedLine (request.lines forwardedForHeader)) settings.trustedProxies ↔
      FirstLineDecides settings.trustedProxies request) ∧
    ∀ (peer first appended : String) (front : List String), request.client = some peer →
      isTrusted peer settings.trustedProxies = true →
      request.lines forwardedForHeader = first :: (front ++ [appended]) →
      (∃ hop ∈ hopsOf appended, isTrusted hop settings.trustedProxies = false) →
      (middlewareIdentifier settings request =
          resolveClientIp (some peer) (some appended) settings.trustedProxies ↔
        lastUntrusted settings.trustedProxies (hopsOf first) =
          lastUntrusted settings.trustedProxies (hopsOf appended)) := by
  refine ⟨first_line_iff settings request, first_line_iff settings request, ?_⟩
  intro peer first appended front hclient htrusted hlines huntrusted
  exact appended_line_iff settings request hclient htrusted hlines huntrusted

/-! ### A forged line -/

def sampleProxySettings : RateLimitSettings :=
  ⟨"/api/v1", [.v4 (.of 0x0a000000#32 8 (by decide))]⟩

/-- A client that sends a line of its own through the proxy, which appends the client's address. -/
def forgedRequest (line : String) : HttpRequest where
  client := some "10.0.0.1"
  headers := [("host", "api"), (forwardedForHeader, line), (forwardedForHeader, "198.51.100.7")]
  path := "/api/v1/auth/login"
  method := "POST"

theorem identifier_of_lines_sample :
    middlewareIdentifier sampleProxySettings (forgedRequest "6.6.6.6, 198.51.100.7, 10.0.0.5") =
      resolveClientIp (some "10.0.0.1") (some "198.51.100.7") sampleProxySettings.trustedProxies :=
  ((identifier_of_lines sampleProxySettings (forgedRequest "6.6.6.6, 198.51.100.7, 10.0.0.5")).2.2 "10.0.0.1"
    "6.6.6.6, 198.51.100.7, 10.0.0.5" "198.51.100.7" [] rfl (by decide) (by decide)
    (by decide)).2 (by decide)

/-- A forged first line takes the place of the address that the proxy appends. -/
theorem forged_first_line :
    isTrusted "10.0.0.1" sampleProxySettings.trustedProxies = true ∧
    resolveClientIp (some "10.0.0.1") (combinedLine ((forgedRequest "6.6.6.6").lines forwardedForHeader))
      sampleProxySettings.trustedProxies = "198.51.100.7" ∧
    middlewareIdentifier sampleProxySettings (forgedRequest "6.6.6.6") = "6.6.6.6" ∧
    requestIdentifier .ip sampleProxySettings (forgedRequest "6.6.6.6") = "6.6.6.6" := by
  decide

end CleanBackend
