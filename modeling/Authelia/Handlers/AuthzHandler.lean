import Authelia.Handlers.Authz
import Authelia.Handlers.AuthzSession
import Authelia.Handlers.Response

/-! `Authz.Handler` (`handler_authz.go`), the endpoint a proxy asks whether a request may pass,
with the header strategies of `handler_authz_authn.go` and the strategies `handler_authz_builder.go`
installs by default. The handler reads the target URL, finds the session cookie domain of its host
and the portal URL, asks the strategies in turn who the requester is, asks the authorizer what the
target requires of that requester, and answers.

A request passes only to a secure target in the scope of a configured cookie domain, and only when
the rule the authorizer returns for the requester is a bypass, or asks a level that a strategy
vouched for without an error. When every strategy vouches only for a named user or client, as the
default ones do, nobody anonymous passes a rule that is not a bypass. A requester is sent only to a
portal in the scope of the target's cookie domain, or to the one configured for it. -/

namespace Authelia.Handlers
open Go Utils Validator Authentication Session

/-! ### Strategies -/

/-- `AuthnStrategy` as it answers one request: `Get`, for the session configuration of the target's
cookie domain, gives an `Authn` and whether it failed (`err != nil`). -/
structure AuthnStrategy where
  get : SessionCookie → Authn × Bool
  canHandleUnauthorized : Bool
  headerStrategy : Bool

/-- A strategy that vouches only for someone: an answer it gives without an error, at a level,
names a user or a client. -/
def AuthnStrategy.Identifies (s : AuthnStrategy) : Prop :=
  ∀ cookie, (s.get cookie).2 = false → (s.get cookie).1.level ≠ .notAuthenticated →
    (s.get cookie).1.details.username ≠ [] ∨ (s.get cookie).1.clientID ≠ []

/-- `CookieSessionAuthnStrategy`, over the session `GetSession` loads for each cookie domain. -/
def cookieSessionAuthnStrategy (F : CaseFolding) (ctx : AuthzContext)
    (refresh : RefreshIntervalDuration) (stored : List Char → Option UserSession) : AuthnStrategy where
  get cookie :=
    let g := cookieSessionAuthnStrategyGet F ctx ⟨cookie.domain, cookie.inactivity⟩ refresh
      (stored cookie.domain)
    (g.authn, g.failed)
  canHandleUnauthorized := false
  headerStrategy := false

inductive AuthorizationScheme
  | basic
  | bearer
  deriving DecidableEq, Repr

inductive AuthorizationHeader
  | basic (username password : List Char)
  | bearer (token : List Char)
  deriving DecidableEq, Repr

def AuthorizationHeader.scheme : AuthorizationHeader → AuthorizationScheme
  | .basic _ _ => .basic
  | .bearer _ => .bearer

inductive HeaderValue
  | absent
  | malformed
  | parsed (header : AuthorizationHeader)
  deriving DecidableEq, Repr

inductive BearerError
  | tokenIntent
  | other
  deriving DecidableEq, Repr

structure BearerOutcome where
  details : Option Authentication.UserDetails
  clientID : List Char
  ccs : Bool
  level : Authentication.Level
  deriving DecidableEq, Repr

/-- The scheme handlers as they answer the request: `handleGetBasic` gives the details of the user,
whom it then authenticates at one factor, or fails (`none`); `handleVerifyGETAuthorizationBearer`
gives what the token carries. -/
structure SchemeHandlers where
  basic : List Char → List Char → Option Authentication.UserDetails
  bearer : List Char → Except BearerError BearerOutcome

def headerAuthorization : List Char := "Authorization".toList
def headerProxyAuthorization : List Char := "Proxy-Authorization".toList

/-- `HeaderAuthnStrategy`, the fields `Get` and the handler read. -/
structure HeaderAuthnStrategy where
  authn : AuthnType
  headerAuthorize : List Char
  handleAuthenticate : Bool
  schemes : List AuthorizationScheme

/-- `NewHeaderAuthorizationAuthnStrategy`, with the schemes as `NewAuthorizationSchemes` reads
them. -/
def newHeaderAuthorizationAuthnStrategy (schemes : List AuthorizationScheme) : HeaderAuthnStrategy :=
  ⟨.authorization, headerAuthorization, true, schemes⟩

def newHeaderProxyAuthorizationAuthnStrategy (schemes : List AuthorizationScheme) :
    HeaderAuthnStrategy :=
  ⟨.proxyAuthorization, headerProxyAuthorization, true, schemes⟩

/-- `NewHeaderProxyAuthorizationAuthRequestAuthnStrategy`: it differs from the one above only in
the status and header of its unauthorized answer. -/
def newHeaderProxyAuthorizationAuthRequestAuthnStrategy (schemes : List AuthorizationScheme) :
    HeaderAuthnStrategy :=
  ⟨.proxyAuthorization, headerProxyAuthorization, true, schemes⟩

namespace HeaderAuthnStrategy

/-- The end of `HeaderAuthnStrategy.Get`, once a scheme handler has answered: a client credentials
grant must name its client, any other answer its user. -/
def identify (authn : Authn) (details : Option Authentication.UserDetails) (clientID : List Char)
    (ccs : Bool) (level : Authentication.Level) : Authn × Bool :=
  if ccs then
    if clientID.isEmpty then (authn, true)
    else ({ authn with clientID := clientID, level := level }, false)
  else
    match details with
    | none => (authn, true)
    | some d =>
      if d.username.isEmpty then (authn, true)
      else ({ authn with username := friendlyUsername d.username, details := d, level := level }, false)

/-- `HeaderAuthnStrategy.Get`, for the value of the header the strategy reads. -/
def get (s : HeaderAuthnStrategy) (handlers : SchemeHandlers) (value : HeaderValue) : Authn × Bool :=
  let authn : Authn :=
    { username := anonymous, details := { username := [] }, level := .notAuthenticated, type := s.authn }
  match value with
  | .absent => (authn, false)
  | .malformed => (authn, true)
  | .parsed header =>
    -- a scheme the endpoint is not configured for is skipped, not refused
    if !s.schemes.contains header.scheme then (authn, false)
    else
      match header with
      | .basic username password =>
        match handlers.basic username password with
        | none => (authn, true)
        | some d => identify authn (some d) [] false .oneFactor
      | .bearer token =>
        match handlers.bearer token with
        | .error .tokenIntent => (authn, false)
        | .error .other => (authn, true)
        | .ok r => identify authn r.details r.clientID r.ccs r.level

/-- The strategy as it answers a request whose headers read `headers`. -/
def toAuthnStrategy (s : HeaderAuthnStrategy) (handlers : SchemeHandlers)
    (headers : List Char → HeaderValue) : AuthnStrategy where
  get _ := s.get handlers (headers s.headerAuthorize)
  canHandleUnauthorized := s.handleAuthenticate
  headerStrategy := true

end HeaderAuthnStrategy

/-- `HeaderLegacyAuthnStrategy.Get`: the `Authorization` header, which must then be sent, when the
`auth` query argument is `basic`, else `Proxy-Authorization`; the basic scheme only. -/
def headerLegacyAuthnStrategyGet (handlers : SchemeHandlers) (headers : List Char → HeaderValue)
    (authBasic : Bool) : Authn × Bool :=
  let authn : Authn :=
    { username := anonymous, details := { username := [] }, level := .notAuthenticated,
      type := if authBasic then .authorization else .proxyAuthorization }
  match headers (if authBasic then headerAuthorization else headerProxyAuthorization) with
  | .absent => (authn, authBasic)
  | .malformed => (authn, true)
  | .parsed (.bearer _) => (authn, true)
  | .parsed (.basic username password) =>
    match handlers.basic username password with
    | none => (authn, true)
    | some d =>
      ({ authn with username := friendlyUsername d.username, details := d, level := .oneFactor }, false)

def headerLegacyAuthnStrategy (handlers : SchemeHandlers) (headers : List Char → HeaderValue)
    (authBasic : Bool) : AuthnStrategy where
  get _ := headerLegacyAuthnStrategyGet handlers headers authBasic
  canHandleUnauthorized := true
  headerStrategy := true

inductive AuthzImplementation
  | legacy
  | forwardAuth
  | authRequest
  | extAuthz
  deriving DecidableEq, Repr

/-- The strategies `AuthzBuilder.Build` installs when the configuration names none: a header
strategy for the basic scheme, then the session cookie. -/
def defaultAuthnStrategies (impl : AuthzImplementation) (cookie : AuthnStrategy)
    (handlers : SchemeHandlers) (headers : List Char → HeaderValue) (authBasic : Bool) :
    List AuthnStrategy :=
  match impl with
  | .legacy => [headerLegacyAuthnStrategy handlers headers authBasic, cookie]
  | .authRequest =>
    [(newHeaderProxyAuthorizationAuthRequestAuthnStrategy [.basic]).toAuthnStrategy handlers headers,
      cookie]
  | .forwardAuth | .extAuthz =>
    [(newHeaderProxyAuthorizationAuthnStrategy [.basic]).toAuthnStrategy handlers headers, cookie]

/-! ### The handler -/

/-- The `Authn` the loop leaves after a failed `Get`: whatever the strategy set, no level and no
identity. -/
def failedAuthn (authn : Authn) : Authn :=
  { authn with level := .notAuthenticated, username := anonymous, clientID := [],
               details := { username := [] } }

/-- The strategy the loop hands back with its answer: itself when it answers its own unauthorized
requests. -/
def unauthorizedStrategy (s : AuthnStrategy) : Option AuthnStrategy :=
  if s.canHandleUnauthorized then some s else none

/-- The loop of `Authz.authn` from strategy `s`, with `rest` after it: it stops at the first
strategy that fails or authenticates, and otherwise ends with the last one's answer. The flag is
`err != nil`. -/
def authnFrom (cookie : SessionCookie) (s : AuthnStrategy) (rest : List AuthnStrategy) :
    Authn × Option AuthnStrategy × Bool :=
  if (s.get cookie).2 then (failedAuthn (s.get cookie).1, unauthorizedStrategy s, true)
  else if (s.get cookie).1.level != .notAuthenticated then
    ((s.get cookie).1, unauthorizedStrategy s, false)
  else
    match rest with
    | [] => ((s.get cookie).1, unauthorizedStrategy s, false)
    | s' :: rest' => authnFrom cookie s' rest'

/-- `Authz.authn`; `none` where it panics, asking the nil strategy of an empty loop
`CanHandleUnauthorized`. -/
def authzAuthn (strategies : List AuthnStrategy) (cookie : SessionCookie) :
    Option (Authn × Option AuthnStrategy × Bool) :=
  match strategies with
  | [] => none
  | s :: rest => some (authnFrom cookie s rest)

structure Authz where
  strategies : List AuthnStrategy
  implementation : AuthzImplementation

structure AuthzRequest where
  target : Option (URL × List Char)
  autheliaURL : Option (Option URL)
  cookies : List SessionCookie
  authorizer : Authorization.Authorizer
  remoteIP : List UInt8

/-- `session.Provider.Get`: `NewProvider` registers each cookie under its domain, a later one
replacing an earlier, and there is none for the empty domain. -/
def providerGet (cookies : List SessionCookie) (domain : List Char) : Option SessionCookie :=
  if domain.isEmpty then none else cookies.reverse.find? fun c => c.domain == domain

/-- `Authz.getAutheliaURL`, `none` for an error: the portal the request names if its host is in the
cookie domain's scope (`getSafeAutheliaURL`), else none for the legacy implementation, else the
portal configured for the cookie domain. -/
def getAutheliaURL (F : CaseFolding) (impl : AuthzImplementation) (requested : Option (Option URL))
    (cookie : SessionCookie) : Option (Option URL) :=
  match requested with
  | none => none
  | some (some u) => if hasURIDomainSuffix F u cookie.domain then some (some u) else none
  | some none => if impl = .legacy then some none else cookie.autheliaURL.map some

def authzSubject (authn : Authn) (ip : List UInt8) : Authorization.Subject :=
  { username := authn.details.username, groups := authn.details.groups, clientID := authn.clientID,
    ip := ip }

inductive AuthzReply
  | badRequest
  | unauthorized
  | strategyUnauthorized
  | portalRedirect (autheliaURL : Option URL)
  | forbidden
  | authorized (authn : Authn)
  deriving DecidableEq, Repr

def authzDecision (authn : Authn) (strategy : Option AuthnStrategy)
    (required : Authorization.Level) (ruleHasSubject : Bool) (autheliaURL : Option URL) :
    AuthzReply :=
  match isAuthzResult authn.level required ruleHasSubject with
  | .forbidden => .forbidden
  | .unauthorized => if strategy.isSome then .strategyUnauthorized else .portalRedirect autheliaURL
  | .authorized => .authorized authn

def authzReplies (authn : Authn) (strategy : Option AuthnStrategy) (failed ruleHasSubject : Bool)
    (required : Authorization.Level) (autheliaURL : Option URL) : List AuthzReply :=
  -- a failed authentication under a rule that is no bypass and names no subject
  if failed && !ruleHasSubject && required != .bypass then
    match strategy with
    | none => [.unauthorized, authzDecision authn strategy required ruleHasSubject autheliaURL]
    | some s =>
      if s.headerStrategy then [.strategyUnauthorized]
      else [authzDecision authn strategy required ruleHasSubject autheliaURL]
  else [authzDecision authn strategy required ruleHasSubject autheliaURL]

section Handler
variable (F : CaseFolding) (query : List Char → List (List Char × List Char))

/-- `Authz.Handler`; `none` where it panics. -/
def Authz.handler (authz : Authz) (req : AuthzRequest) : Option (List AuthzReply) :=
  match req.target with
  | none => some [.badRequest]
  | some (targetURL, method) =>
    if !isURISecure targetURL then some [.badRequest]
    else
      -- `GetSessionManagerByTargetURI`
      match providerGet req.cookies (getCookieDomainFromTargetURI F req.cookies (some targetURL)) with
      | none => some [.badRequest]
      | some cookie =>
        if cookie.domain.isEmpty then some [.badRequest]
        else
          match getAutheliaURL F authz.implementation req.autheliaURL cookie with
          | none => some [.badRequest]
          | some autheliaURL =>
            (authzAuthn authz.strategies cookie).bind fun r =>
              (req.authorizer.getRequiredLevel F (authzSubject r.1 req.remoteIP)
                  (Authorization.newObject query targetURL method)).map fun l =>
                authzReplies r.1 r.2.1 r.2.2 l.1 l.2 autheliaURL

end Handler

/-! ### Levels -/

/-- The level a requester reached is enough for a rule that asks one or two factors. -/
def Meets (level : Authentication.Level) : Authorization.Level → Prop
  | .oneFactor => level ≠ .notAuthenticated
  | .twoFactor => level = .twoFactor
  | .bypass | .denied => False

instance (level : Authentication.Level) (required : Authorization.Level) :
    Decidable (Meets level required) :=
  match required with
  | .oneFactor => inferInstanceAs (Decidable (level ≠ .notAuthenticated))
  | .twoFactor => inferInstanceAs (Decidable (level = .twoFactor))
  | .bypass | .denied => inferInstanceAs (Decidable False)

theorem Meets.ne_notAuthenticated {level : Authentication.Level} {required : Authorization.Level}
    (h : Meets level required) : level ≠ .notAuthenticated := by
  cases required with
  | oneFactor => exact h
  | twoFactor =>
    intro hnot
    rw [hnot] at h
    cases h
  | bypass => exact h.elim
  | denied => exact h.elim

theorem isAuthzResult_eq_authorized_iff {level : Authentication.Level}
    {required : Authorization.Level} {ruleHasSubject : Bool} :
    isAuthzResult level required ruleHasSubject = .authorized ↔
      required = .bypass ∨ Meets level required := by
  cases level <;> cases required <;> cases ruleHasSubject <;> decide

/-! ### What each step can answer -/

theorem authnFrom_cases (cookie : SessionCookie) (s : AuthnStrategy) (rest : List AuthnStrategy) :
    ((authnFrom cookie s rest).2.2 = true ∧ (authnFrom cookie s rest).1.level = .notAuthenticated) ∨
      ((authnFrom cookie s rest).2.2 = false ∧
        ∃ t ∈ s :: rest, t.get cookie = ((authnFrom cookie s rest).1, false)) := by
  -- on the strategies after the current one, which the loop moves along
  induction rest generalizing s with
  | nil =>
    unfold authnFrom
    split_ifs with hfail
    · exact Or.inl ⟨rfl, rfl⟩
    all_goals exact Or.inr ⟨rfl, s, List.mem_cons_self, Prod.ext rfl (Bool.eq_false_iff.mpr hfail)⟩
  | cons s' rest ih =>
    unfold authnFrom
    split_ifs with hfail hlevel
    · exact Or.inl ⟨rfl, rfl⟩
    · exact Or.inr ⟨rfl, s, List.mem_cons_self, Prod.ext rfl (Bool.eq_false_iff.mpr hfail)⟩
    · -- the current strategy found nobody, and the next one carries on
      rcases ih s' with hstop | ⟨hok, t, ht, hget⟩
      · exact Or.inl hstop
      · exact Or.inr ⟨hok, t, List.mem_cons_of_mem s ht, hget⟩

theorem authzAuthn_cases {strategies : List AuthnStrategy} {cookie : SessionCookie}
    {r : Authn × Option AuthnStrategy × Bool} (h : authzAuthn strategies cookie = some r) :
    (r.2.2 = true ∧ r.1.level = .notAuthenticated) ∨
      (r.2.2 = false ∧ ∃ t ∈ strategies, t.get cookie = (r.1, false)) := by
  cases strategies with
  | nil => cases h
  | cons s rest =>
    obtain rfl := Option.some.inj h
    exact authnFrom_cases cookie s rest

theorem mem_authzReplies {x : AuthzReply} {authn : Authn} {strategy : Option AuthnStrategy}
    {failed ruleHasSubject : Bool} {required : Authorization.Level} {autheliaURL : Option URL}
    (h : x ∈ authzReplies authn strategy failed ruleHasSubject required autheliaURL) :
    x = .unauthorized ∨ x = .strategyUnauthorized ∨
      x = authzDecision authn strategy required ruleHasSubject autheliaURL := by
  unfold authzReplies at h
  split_ifs at h
  · split at h
    · simp only [List.mem_cons, List.not_mem_nil, or_false] at h
      rcases h with h | h
      · exact Or.inl h
      · exact Or.inr (Or.inr h)
    · split_ifs at h <;> simp_all
  · simp_all

theorem authzDecision_eq_authorized {authn a : Authn} {strategy : Option AuthnStrategy}
    {required : Authorization.Level} {ruleHasSubject : Bool} {autheliaURL : Option URL}
    (h : authzDecision authn strategy required ruleHasSubject autheliaURL = .authorized a) :
    a = authn ∧ isAuthzResult authn.level required ruleHasSubject = .authorized := by
  unfold authzDecision at h
  split at h
  · cases h
  · split_ifs at h
  · rename_i hresult
    cases h
    exact ⟨rfl, hresult⟩

/-! ### Strategies that vouch only for someone -/

namespace HeaderAuthnStrategy

theorem identify_identified {authn : Authn} {details : Option Authentication.UserDetails}
    {clientID : List Char} {ccs : Bool} {level : Authentication.Level}
    (h : (identify authn details clientID ccs level).2 = false) :
    (identify authn details clientID ccs level).1.details.username ≠ [] ∨
      (identify authn details clientID ccs level).1.clientID ≠ [] := by
  cases details with
  | none =>
    unfold identify at h ⊢
    split_ifs at h ⊢ with hccs hclient
    exact Or.inr (by simpa using hclient)
  | some d =>
    unfold identify at h ⊢
    dsimp only at h ⊢
    split_ifs at h ⊢ with hccs hclient hname
    · exact Or.inr (by simpa using hclient)
    · exact Or.inl (by simpa using hname)

theorem get_cases (s : HeaderAuthnStrategy) (handlers : SchemeHandlers) (value : HeaderValue) :
    (s.get handlers value).1.level = .notAuthenticated ∨
      ∃ authn details clientID ccs level,
        s.get handlers value = identify authn details clientID ccs level := by
  unfold get
  cases value with
  | absent => exact Or.inl rfl
  | malformed => exact Or.inl rfl
  | parsed header =>
    dsimp only
    split_ifs
    · exact Or.inl rfl
    cases header with
    | basic username password =>
      dsimp only
      cases handlers.basic username password with
      | none => exact Or.inl rfl
      | some d => exact Or.inr ⟨_, _, _, _, _, rfl⟩
    | bearer token =>
      dsimp only
      rcases handlers.bearer token with (_ | _) | r
      · exact Or.inl rfl
      · exact Or.inl rfl
      · exact Or.inr ⟨_, _, _, _, _, rfl⟩

theorem toAuthnStrategy_identifies (s : HeaderAuthnStrategy) (handlers : SchemeHandlers)
    (headers : List Char → HeaderValue) : (s.toAuthnStrategy handlers headers).Identifies := by
  intro _ hok hlevel
  rcases s.get_cases handlers (headers s.headerAuthorize) with hanon | ⟨authn, details, clientID, ccs, level, hget⟩
  · exact absurd hanon hlevel
  · change (s.get handlers (headers s.headerAuthorize)).2 = false at hok
    change (s.get handlers (headers s.headerAuthorize)).1.details.username ≠ [] ∨
      (s.get handlers (headers s.headerAuthorize)).1.clientID ≠ []
    rw [hget] at hok ⊢
    exact identify_identified hok

end HeaderAuthnStrategy

theorem headerLegacyAuthnStrategyGet_cases (handlers : SchemeHandlers)
    (headers : List Char → HeaderValue) (authBasic : Bool) :
    (headerLegacyAuthnStrategyGet handlers headers authBasic).1.level = .notAuthenticated ∨
      ∃ u p d, handlers.basic u p = some d ∧
        (headerLegacyAuthnStrategyGet handlers headers authBasic).1.details = d := by
  unfold headerLegacyAuthnStrategyGet
  dsimp only
  split
  · exact Or.inl rfl
  · exact Or.inl rfl
  · exact Or.inl rfl
  · rename_i username password _
    cases hd : handlers.basic username password with
    | none => exact Or.inl rfl
    | some d => exact Or.inr ⟨username, password, d, hd, rfl⟩

theorem headerLegacyAuthnStrategy_identifies {handlers : SchemeHandlers}
    (hbasic : ∀ u p d, handlers.basic u p = some d → d.username ≠ [])
    (headers : List Char → HeaderValue) (authBasic : Bool) :
    (headerLegacyAuthnStrategy handlers headers authBasic).Identifies := by
  intro _ _ hlevel
  rcases headerLegacyAuthnStrategyGet_cases handlers headers authBasic with hanon | ⟨u, p, d, hd, hdetails⟩
  · exact absurd hanon hlevel
  · change (headerLegacyAuthnStrategyGet handlers headers authBasic).1.details.username ≠ [] ∨ _
    rw [hdetails]
    exact Or.inl (hbasic u p d hd)

theorem cookieSessionAuthnStrategy_identifies (F : CaseFolding) (ctx : AuthzContext)
    (refresh : RefreshIntervalDuration) (stored : List Char → Option UserSession) :
    (cookieSessionAuthnStrategy F ctx refresh stored).Identifies := by
  intro cookie _ hlevel
  obtain ⟨s, -, hvouch⟩ := cookieSessionAuthnStrategyGet_authenticated F ctx
    ⟨cookie.domain, cookie.inactivity⟩ refresh (stored cookie.domain) hlevel
  have hname : ((cookieSessionAuthnStrategy F ctx refresh stored).get cookie).1.details.username =
      s.username := hvouch.username_eq
  rw [hname]
  exact Or.inl hvouch.username_ne_nil

theorem defaultAuthnStrategies_identifies {impl : AuthzImplementation} {cookie : AuthnStrategy}
    {handlers : SchemeHandlers} (hcookie : cookie.Identifies)
    (hbasic : impl = .legacy → ∀ u p d, handlers.basic u p = some d → d.username ≠ [])
    (headers : List Char → HeaderValue) (authBasic : Bool) :
    ∀ s ∈ defaultAuthnStrategies impl cookie handlers headers authBasic, s.Identifies := by
  intro s hs
  cases impl with
  | legacy =>
    rcases List.mem_pair.mp hs with rfl | rfl
    · exact headerLegacyAuthnStrategy_identifies (hbasic rfl) headers authBasic
    · exact hcookie
  | authRequest =>
    rcases List.mem_pair.mp hs with rfl | rfl
    · exact HeaderAuthnStrategy.toAuthnStrategy_identifies _ handlers headers
    · exact hcookie
  | forwardAuth | extAuthz =>
    rcases List.mem_pair.mp hs with rfl | rfl
    · exact HeaderAuthnStrategy.toAuthnStrategy_identifies _ handlers headers
    · exact hcookie

section Handler
variable (F : CaseFolding) (query : List Char → List (List Char × List Char))

theorem providerGet_getCookieDomainFromTargetURI {cookies : List SessionCookie} {target : URL}
    {cookie : SessionCookie}
    (h : providerGet cookies (getCookieDomainFromTargetURI F cookies (some target)) = some cookie) :
    cookie ∈ cookies ∧ hasDomainSuffix F target.hostname cookie.domain = true := by
  unfold providerGet at h
  split_ifs at h with hempty
  refine ⟨List.mem_reverse.mp (List.mem_of_find?_eq_some h), ?_⟩
  have hdomain : cookie.domain = getCookieDomainFromTargetURI F cookies (some target) := by
    simpa using List.find?_some h
  -- the domain is that of the first cookie whose scope holds the host
  unfold getCookieDomainFromTargetURI at hempty hdomain
  dsimp only at hempty hdomain
  cases hfind : cookies.find? (fun c => hasDomainSuffix F target.hostname c.domain) with
  | none => simp [hfind] at hempty
  | some c =>
    rw [hfind, Option.map_some, Option.getD_some] at hdomain
    have hc := List.find?_some hfind
    rw [hdomain]
    exact hc

theorem Authz.handler_cases {authz : Authz} {req : AuthzRequest} {replies : List AuthzReply}
    (h : authz.handler F query req = some replies) :
    replies = [.badRequest] ∨
      ∃ target method cookie autheliaURL r hasSubjects required,
        req.target = some (target, method) ∧ isURISecure target = true ∧ cookie ∈ req.cookies ∧
        hasDomainSuffix F target.hostname cookie.domain = true ∧
        getAutheliaURL F authz.implementation req.autheliaURL cookie = some autheliaURL ∧
        authzAuthn authz.strategies cookie = some r ∧
        req.authorizer.getRequiredLevel F (authzSubject r.1 req.remoteIP)
          (Authorization.newObject query target method) = some (hasSubjects, required) ∧
        replies = authzReplies r.1 r.2.1 r.2.2 hasSubjects required autheliaURL := by
  unfold Authz.handler at h
  rcases htarget : req.target with _ | ⟨target, method⟩
  · rw [htarget] at h
    exact Or.inl (Option.some.inj h).symm
  rw [htarget] at h
  dsimp only at h
  split_ifs at h with hinsecure
  · exact Or.inl (Option.some.inj h).symm
  have hsecure : isURISecure target = true := by simpa using hinsecure
  split at h
  · exact Or.inl (Option.some.inj h).symm
  rename_i cookie hprovider
  obtain ⟨hcookie, hsuffix⟩ := providerGet_getCookieDomainFromTargetURI F hprovider
  split_ifs at h with hempty
  · exact Or.inl (Option.some.inj h).symm
  split at h
  · exact Or.inl (Option.some.inj h).symm
  rename_i autheliaURL hportal
  -- the rest is the loop, then the authorizer, each of which may panic
  obtain ⟨r, hauthn, hlevel⟩ := Option.bind_eq_some_iff.mp h
  obtain ⟨⟨hasSubjects, required⟩, hrequired, hreplies⟩ := Option.map_eq_some_iff.mp hlevel
  exact Or.inr ⟨target, method, cookie, autheliaURL, r, hasSubjects, required, rfl, hsecure, hcookie,
    hsuffix, hportal, hauthn, hrequired, hreplies.symm⟩

theorem Authz.handler_authorized {authz : Authz} {req : AuthzRequest} {replies : List AuthzReply}
    {a : Authn} (h : authz.handler F query req = some replies) (ha : .authorized a ∈ replies) :
    ∃ target method cookie hasSubjects required, req.target = some (target, method) ∧
      isURISecure target = true ∧ cookie ∈ req.cookies ∧
      hasDomainSuffix F target.hostname cookie.domain = true ∧
      req.authorizer.getRequiredLevel F (authzSubject a req.remoteIP)
        (Authorization.newObject query target method) = some (hasSubjects, required) ∧
      (required = .bypass ∨ Meets a.level required ∧ ∃ s ∈ authz.strategies, s.get cookie = (a, false)) := by
  rcases Authz.handler_cases F query h with rfl | ⟨target, method, cookie, autheliaURL, r, hasSubjects,
    required, htarget, hsecure, hcookie, hsuffix, -, hauthn, hrequired, rfl⟩
  · simp at ha
  -- only the decision lets a request pass, and with the loop's answer
  have hdecision : authzDecision r.1 r.2.1 required hasSubjects autheliaURL = .authorized a := by
    rcases mem_authzReplies ha with h | h | h
    · cases h
    · cases h
    · exact h.symm
  obtain ⟨rfl, hresult⟩ := authzDecision_eq_authorized hdecision
  refine ⟨target, method, cookie, hasSubjects, required, htarget, hsecure, hcookie, hsuffix, hrequired, ?_⟩
  rcases isAuthzResult_eq_authorized_iff.mp hresult with hbypass | hmeets
  · exact Or.inl hbypass
  · -- a level is only ever reached by an answer given without an error
    rcases authzAuthn_cases hauthn with ⟨-, hnot⟩ | ⟨-, hvouched⟩
    · exact absurd hnot hmeets.ne_notAuthenticated
    · exact Or.inr ⟨hmeets, hvouched⟩

/-- When every strategy vouches only for someone, nobody anonymous passes a rule that is not a
bypass: the requester reached the level the rule asks and is a named user or client. -/
theorem Authz.handler_authorized_identified {authz : Authz} {req : AuthzRequest}
    {replies : List AuthzReply} {a : Authn} (hids : ∀ s ∈ authz.strategies, s.Identifies)
    (h : authz.handler F query req = some replies) (ha : .authorized a ∈ replies) :
    ∃ target method hasSubjects required, req.target = some (target, method) ∧
      isURISecure target = true ∧
      req.authorizer.getRequiredLevel F (authzSubject a req.remoteIP)
        (Authorization.newObject query target method) = some (hasSubjects, required) ∧
      (required = .bypass ∨ Meets a.level required ∧ (a.details.username ≠ [] ∨ a.clientID ≠ [])) := by
  obtain ⟨target, method, cookie, hasSubjects, required, htarget, hsecure, -, -, hrequired, hcases⟩ :=
    Authz.handler_authorized F query h ha
  refine ⟨target, method, hasSubjects, required, htarget, hsecure, hrequired, ?_⟩
  rcases hcases with hbypass | ⟨hmeets, s, hs, hget⟩
  · exact Or.inl hbypass
  · -- the strategy that answered vouches only for someone
    have hid := hids s hs cookie (by rw [hget]) (by rw [hget]; exact hmeets.ne_notAuthenticated)
    rw [hget] at hid
    exact Or.inr ⟨hmeets, hid⟩

/-- With the session cookie strategy alone, a request passes a rule that is not a bypass only
with the session stored for the target's cookie domain, once the strategy has checked what
`Vouches` lists of it, and at a level the rule asks. -/
theorem Authz.handler_authorized_cookieSession {ctx : AuthzContext}
    {refresh : RefreshIntervalDuration} {stored : List Char → Option UserSession}
    {impl : AuthzImplementation} {req : AuthzRequest} {replies : List AuthzReply} {a : Authn}
    (h : Authz.handler F query ⟨[cookieSessionAuthnStrategy F ctx refresh stored], impl⟩ req =
      some replies)
    (ha : .authorized a ∈ replies) :
    ∃ target method cookie hasSubjects required, req.target = some (target, method) ∧
      isURISecure target = true ∧ cookie ∈ req.cookies ∧
      hasDomainSuffix F target.hostname cookie.domain = true ∧
      req.authorizer.getRequiredLevel F (authzSubject a req.remoteIP)
        (Authorization.newObject query target method) = some (hasSubjects, required) ∧
      (required = .bypass ∨ Meets a.level required ∧
        ∃ s, stored cookie.domain = some s ∧ Vouches F ctx ⟨cookie.domain, cookie.inactivity⟩ refresh s a) := by
  obtain ⟨target, method, cookie, hasSubjects, required, htarget, hsecure, hcookie, hsuffix, hrequired,
    hcases⟩ := Authz.handler_authorized F query h ha
  refine ⟨target, method, cookie, hasSubjects, required, htarget, hsecure, hcookie, hsuffix, hrequired, ?_⟩
  rcases hcases with hbypass | ⟨hmeets, s, hs, hget⟩
  · exact Or.inl hbypass
  · rw [List.mem_singleton] at hs
    subst hs
    -- the answer is the cookie strategy's, which authenticates only a session it vouches for
    have hauthn : (cookieSessionAuthnStrategyGet F ctx ⟨cookie.domain, cookie.inactivity⟩ refresh
        (stored cookie.domain)).authn = a := congrArg Prod.fst hget
    obtain ⟨s, hstored, hvouch⟩ := cookieSessionAuthnStrategyGet_authenticated F ctx _ refresh _
      (by rw [hauthn]; exact hmeets.ne_notAuthenticated)
    rw [hauthn] at hvouch
    exact Or.inr ⟨hmeets, s, hstored, hvouch⟩

end Handler

/-! ### Requests to `app.example.com` -/

def portalURL : URL := { scheme := "https".toList, host := "auth.example.com".toList, path := "/".toList }

def johnSession : UserSession :=
  { cookieDomain := "example.com".toList, username := "john".toList, keepMeLoggedIn := true,
    authenticationMethodRefs := { usernameAndPassword := true } }

def johnCtx : AuthzContext :=
  { now := 0, sessionUsername := none, getDetails := fun _ => .error .other, passkey2FA := false }

def appRequest : AuthzRequest :=
  { target := some (appTarget, "GET".toList), autheliaURL := some none,
    cookies := [{ domain := "example.com".toList, autheliaURL := some portalURL }],
    authorizer := ⟨.oneFactor, []⟩, remoteIP := [] }

def johnCookieStrategy : AuthnStrategy :=
  cookieSessionAuthnStrategy .ascii johnCtx { value := 0, never := true } fun _ => some johnSession

def noHeaderHandlers : SchemeHandlers :=
  { basic := fun _ _ => none, bearer := fun _ => .error .other }

def johnForwardAuth : Authz :=
  ⟨defaultAuthnStrategies .forwardAuth johnCookieStrategy noHeaderHandlers (fun _ => .absent) false,
    .forwardAuth⟩

theorem Authz.handler_authorized_identified_john :
    (∀ s ∈ johnForwardAuth.strategies, s.Identifies) ∧
      johnForwardAuth.handler .ascii (fun _ => []) appRequest =
        some [.authorized (sessionAuthn johnSession false)] ∧
      AuthzReply.authorized (sessionAuthn johnSession false) ∈ [.authorized (sessionAuthn johnSession false)] ∧
      ∃ target method hasSubjects required, appRequest.target = some (target, method) ∧
        isURISecure target = true ∧
        appRequest.authorizer.getRequiredLevel .ascii
            (authzSubject (sessionAuthn johnSession false) appRequest.remoteIP)
            (Authorization.newObject (fun _ => []) target method) = some (hasSubjects, required) ∧
        (required = .bypass ∨ Meets (sessionAuthn johnSession false).level required ∧
          ((sessionAuthn johnSession false).details.username ≠ [] ∨
            (sessionAuthn johnSession false).clientID ≠ [])) := by
  have hids : ∀ s ∈ johnForwardAuth.strategies, s.Identifies :=
    @defaultAuthnStrategies_identifies .forwardAuth johnCookieStrategy noHeaderHandlers
      (cookieSessionAuthnStrategy_identifies _ _ _ _) nofun (fun _ => .absent) false
  have h : johnForwardAuth.handler .ascii (fun _ => []) appRequest =
      some [.authorized (sessionAuthn johnSession false)] := by decide
  exact ⟨hids, h, List.mem_singleton_self _,
    Authz.handler_authorized_identified .ascii _ hids h (List.mem_singleton_self _)⟩

theorem Authz.handler_authorized_cookieSession_john :
    Authz.handler .ascii (fun _ => [])
        ⟨[cookieSessionAuthnStrategy .ascii johnCtx { value := 0, never := true } fun _ => some johnSession],
          .forwardAuth⟩ appRequest = some [.authorized (sessionAuthn johnSession false)] ∧
      AuthzReply.authorized (sessionAuthn johnSession false) ∈ [.authorized (sessionAuthn johnSession false)] ∧
      ∃ target method cookie hasSubjects required, appRequest.target = some (target, method) ∧
        isURISecure target = true ∧ cookie ∈ appRequest.cookies ∧
        hasDomainSuffix .ascii target.hostname cookie.domain = true ∧
        appRequest.authorizer.getRequiredLevel .ascii
            (authzSubject (sessionAuthn johnSession false) appRequest.remoteIP)
            (Authorization.newObject (fun _ => []) target method) = some (hasSubjects, required) ∧
        (required = .bypass ∨ Meets (sessionAuthn johnSession false).level required ∧
          ∃ s, (fun _ => some johnSession : List Char → Option UserSession) cookie.domain = some s ∧
            Vouches .ascii johnCtx ⟨cookie.domain, cookie.inactivity⟩ { value := 0, never := true } s
              (sessionAuthn johnSession false)) := by
  have h : Authz.handler .ascii (fun _ => [])
      ⟨[cookieSessionAuthnStrategy .ascii johnCtx { value := 0, never := true } fun _ => some johnSession],
        .forwardAuth⟩ appRequest = some [.authorized (sessionAuthn johnSession false)] := by decide
  exact ⟨h, List.mem_singleton_self _,
    Authz.handler_authorized_cookieSession .ascii _ h (List.mem_singleton_self _)⟩

end Authelia.Handlers
