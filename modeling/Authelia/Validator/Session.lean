import Authelia.Validator.AccessControl
import Authelia.Go.Url

/-! The session validator (`configuration/validator/session.go`) and the lookup of a cookie domain
for a target URI (`AutheliaCtx.GetCookieDomainFromTargetURI`). The uniqueness check of a cookie
domain compares it only with the domains listed before it, and only in one direction: is the new
domain inside an earlier domain's scope. The Redis part of `ValidateSession` is left out. -/

namespace Authelia.Validator
open Go Utils

/-! ### Configuration -/

/-- `schema.SessionCookie`; durations are nanoseconds. -/
structure SessionCookie where
  domain : List Char := []
  autheliaURL : Option URL := none
  defaultRedirectionURL : Option URL := none
  legacy : Bool := false
  name : List Char := []
  sameSite : List Char := []
  expiration : Int := 0
  inactivity : Int := 0
  rememberMe : Int := 0
  disableRememberMe : Bool := false
  deriving DecidableEq, Repr

/-- `schema.Session` without its Redis section; `domain` is the deprecated single domain. -/
structure Session where
  name : List Char := []
  domain : List Char := []
  sameSite : List Char := []
  expiration : Int := 0
  inactivity : Int := 0
  rememberMe : Int := 0
  disableRememberMe : Bool := false
  cookies : List SessionCookie := []
  deriving DecidableEq, Repr

/-- What the validator asks of libraries outside the repository: case folding, `net.ParseIP`,
`net.SplitHostPort` (the host when it succeeds) and whether `publicsuffix.Domain` reports the
domain as a public suffix. -/
structure SessionEnv where
  foldCase : CaseFolding
  parseIP : List Char → Bool
  splitHostPort : List Char → Option (List Char)
  inPublicSuffixList : List Char → Bool

def durationSecond : Int := 1000000000

def rememberMeDisabled : Int := -durationSecond

def defaultSessionName : List Char := "authelia_session".toList
def defaultSessionExpiration : Int := 3600 * durationSecond
def defaultSessionInactivity : Int := 300 * durationSecond
def defaultSessionRememberMe : Int := 30 * 24 * 3600 * durationSecond
def defaultSessionSameSite : List Char := "lax".toList

def validSessionSameSiteValues : List (List Char) := ["none", "lax", "strict"].map String.toList

def attrSessionAutheliaURL : List Char := "authelia_url".toList
def attrSessionDomain : List Char := "domain".toList
def attrDefaultRedirectionURL : List Char := "default_redirection_url".toList

def errFmtSessionDomainLegacy : List Char :=
  ("session: option 'domain' is deprecated in v4.38.0 and has been replaced by a multi-domain " ++
    "configuration: this has automatically been mapped for you but you will need to adjust your " ++
    "configuration to remove this message and receive the latest messages").toList
def errFmtSessionLegacyRedirectionURL : List Char :=
  ("session: option 'cookies' must be configured with the per cookie option " ++
    "'default_redirection_url' but the global one is configured which is not supported").toList
def errFmtSessionOptionRequired : List Char := "session: option '%s' is required".toList
def errFmtSessionLegacyAndWarning : List Char :=
  "session: option 'domain' and option 'cookies' can't be specified at the same time".toList
def errFmtSessionSameSite : List Char :=
  "session: option 'same_site' must be one of %s but it's configured as '%s'".toList
def errFmtSessionDomainMustBeRoot : List Char :=
  ("session: domain config %s: option 'domain' must be the domain you wish to protect not a " ++
    "wildcard domain but it's configured as '%s'").toList
def errFmtSessionDomainSameSite : List Char :=
  "session: domain config %s: option 'same_site' must be one of %s but it's configured as '%s'".toList
def errFmtSessionDomainOptionRequired : List Char :=
  "session: domain config %s: option '%s' is required".toList
def errFmtSessionDomainHasPeriodPrefix : List Char :=
  ("session: domain config %s: option 'domain' has a prefix of '.' which is not supported or " ++
    "intended behavior: you can use this at your own risk but we recommend removing it").toList
def errFmtSessionDomainHasPort : List Char :=
  ("session: domain config %s: option 'domain' with value '%s' should probably have value '%s' " ++
    "as it appears to include a port which is not supported and will likely fail to start and " ++
    "is otherwise unsupported").toList
def errFmtSessionDomainDuplicate : List Char :=
  ("session: domain config %s: option 'domain' is a duplicate value for another configured " ++
    "session domain").toList
def errFmtSessionDomainDuplicateCookieScope : List Char :=
  ("session: domain config %s: option 'domain' shares the same cookie domain scope as another " ++
    "configured session domain").toList
def errFmtSessionDomainURLNotAbsolute : List Char :=
  "session: domain config %s: option '%s' is not absolute with a value of '%s'".toList
def errFmtSessionDomainURLInsecure : List Char :=
  "session: domain config %s: option '%s' does not have a secure scheme with a value of '%s'".toList
def errFmtSessionDomainURLNotInCookieScope : List Char :=
  ("session: domain config %s: option '%s' does not share a cookie scope with domain '%s' with " ++
    "a value of '%s'").toList
def errFmtSessionDomainAutheliaURLAndRedirectionURLEqual : List Char :=
  ("session: domain config %s: option 'default_redirection_url' with value '%s' is effectively " ++
    "equal to option 'authelia_url' with value '%s' which is not permitted").toList
def errFmtSessionDomainInvalidDomain : List Char :=
  ("session: domain config %s: option 'domain' does not appear to be a valid cookie domain or an " ++
    "ip address").toList
def errFmtSessionDomainInvalidDomainNoDots : List Char :=
  ("session: domain config %s: option 'domain' is not a valid cookie domain: must have at least " ++
    "a single period or be an ip address").toList
def errFmtSessionDomainInvalidDomainPublic : List Char :=
  ("session: domain config %s: option 'domain' is not a valid cookie domain: the domain is part " ++
    "of the special public suffix list").toList

/-! ### Helpers -/

/-- A label of `reDomainCharacters`: `[a-z0-9](?:[a-z0-9-]*[a-z0-9])?`. -/
def isDomainLabel (label : List Char) : Bool :=
  let alnum (c : Char) : Bool := ('a' ≤ c && c ≤ 'z') || ('0' ≤ c && c ≤ '9')
  match label.head?, label.getLast? with
  | some first, some last => alnum first && alnum last && label.all fun c => alnum c || c == '-'
  | _, _ => false

/-- `reDomainCharacters.MatchString`: two or more labels joined by periods. -/
def reDomainCharacters (domain : List Char) : Bool :=
  let labels := domain.splitOn '.'
  decide (2 ≤ labels.length) && labels.all isDomainLabel

def isCookieDomainAPublicSuffix (env : SessionEnv) (domain : List Char) : Bool :=
  env.inPublicSuffixList (domain.dropWhile (· == '.'))

def isURISecure (u : URL) : Bool := u.scheme == "https".toList || u.scheme == "wss".toList

def hasURIDomainSuffix (F : CaseFolding) (u : URL) (domainSuffix : List Char) : Bool :=
  hasDomainSuffix F u.hostname domainSuffix

/-- `utils.EqualURLs`; `none` is the nil URL. -/
def equalURLs (F : CaseFolding) : Option URL → Option URL → Bool
  | none, none => true
  | some u, some w =>
    equalFold F u.scheme w.scheme && equalFold F u.host w.host && u.path == w.path &&
      u.rawQuery == w.rawQuery && u.fragment == w.fragment
  | _, _ => false

def sessionDomainDescriptor (position : Nat) (d : SessionCookie) : List Char :=
  sprintf "#%d (domain '%s')".toList [itoa (position + 1), d.domain]

/-! ### The checks of one cookie -/

variable (env : SessionEnv)

def validateSessionDomainName (i : Nat) (d : SessionCookie) (v : StructValidator) :
    StructValidator :=
  let desc := sessionDomainDescriptor i d
  let v := if hasPrefix d.domain ['.'] then
      v.pushWarning (sprintf errFmtSessionDomainHasPeriodPrefix [desc]) else v
  let v := if d.domain.contains ':' then
      match env.splitHostPort d.domain with
      | some host => v.pushWarning (sprintf errFmtSessionDomainHasPort [desc, d.domain, host])
      | none => v
    else v
  if d.domain.isEmpty then v.push (sprintf errFmtSessionDomainOptionRequired [desc, attrSessionDomain])
  else if hasPrefix d.domain "*.".toList then
    v.push (sprintf errFmtSessionDomainMustBeRoot [desc, d.domain])
  else if env.parseIP d.domain then v
  else if !d.domain.contains '.' then v.push (sprintf errFmtSessionDomainInvalidDomainNoDots [desc])
  else if !reDomainCharacters d.domain then v.push (sprintf errFmtSessionDomainInvalidDomain [desc])
  else if isCookieDomainAPublicSuffix env d.domain then
    v.push (sprintf errFmtSessionDomainInvalidDomainPublic [desc])
  else v

/-- The new domain is compared with each earlier one as `HasDomainSuffix(new, earlier)` only. -/
def validateSessionUniqueCookieDomain (i : Nat) (d : SessionCookie) (domains : List (List Char))
    (v : StructValidator) : StructValidator :=
  if isStringInSliceF d.domain domains (hasDomainSuffix env.foldCase) then
    if isStringInSlice d.domain domains then
      v.push (sprintf errFmtSessionDomainDuplicate [sessionDomainDescriptor i d])
    else v.push (sprintf errFmtSessionDomainDuplicateCookieScope [sessionDomainDescriptor i d])
  else v

def validateSessionCookieName (config : Session) (d : SessionCookie) : SessionCookie :=
  if d.name.isEmpty then { d with name := config.name } else d

/-- The Authelia URL: a path other than `/` gets a trailing slash, and the URL must be absolute,
secure and inside the cookie's scope. -/
def validateSessionAutheliaURL (i : Nat) (d : SessionCookie) (v : StructValidator) :
    SessionCookie × StructValidator :=
  match d.autheliaURL with
  | none =>
    (d, if !d.legacy && !d.domain.isEmpty then
      v.push (sprintf errFmtSessionDomainOptionRequired
        [sessionDomainDescriptor i d, attrSessionAutheliaURL]) else v)
  | some u =>
    let u := if u.path.isEmpty || u.path == ['/'] then u
      else if u.path.getLast? == some '/' || !u.isAbs then u
      else { u with path := u.path ++ ['/'] }
    let desc := sessionDomainDescriptor i d
    let v := if !u.isAbs then
        v.push (sprintf errFmtSessionDomainURLNotAbsolute [desc, attrSessionAutheliaURL, u.string])
      else if !isURISecure u then
        v.push (sprintf errFmtSessionDomainURLInsecure [desc, attrSessionAutheliaURL, u.string])
      else v
    let v := if !d.domain.isEmpty && !hasURIDomainSuffix env.foldCase u d.domain then
        v.push (sprintf errFmtSessionDomainURLNotInCookieScope
          [desc, attrSessionAutheliaURL, d.domain, u.string])
      else v
    ({ d with autheliaURL := some u }, v)

/-- The default redirection URL: absolute, secure and inside the scope (a legacy cookie only gets a
warning and loses the URL), and not the Authelia URL. -/
def validateSessionDefaultRedirectionURL (i : Nat) (d : SessionCookie) (v : StructValidator) :
    SessionCookie × StructValidator :=
  match d.defaultRedirectionURL with
  | none => (d, v)
  | some r =>
    let desc := sessionDomainDescriptor i d
    let v := if !r.isAbs then
        v.push (sprintf errFmtSessionDomainURLNotAbsolute [desc, attrDefaultRedirectionURL, r.string])
      else if !isURISecure r then
        v.push (sprintf errFmtSessionDomainURLInsecure [desc, attrDefaultRedirectionURL, r.string])
      else v
    let (d, v) := if !d.domain.isEmpty && !hasURIDomainSuffix env.foldCase r d.domain then
        let err := sprintf errFmtSessionDomainURLNotInCookieScope
          [desc, attrDefaultRedirectionURL, d.domain, r.string]
        if d.legacy then ({ d with defaultRedirectionURL := none }, v.pushWarning err)
        else (d, v.push err)
      else (d, v)
    match d.autheliaURL with
    | some a =>
      if equalURLs env.foldCase (some a) d.defaultRedirectionURL then
        (d, v.push (sprintf errFmtSessionDomainAutheliaURLAndRedirectionURLEqual
          [desc, r.string, a.string]))
      else (d, v)
    | none => (d, v)

def validateSessionCookiesURLs (i : Nat) (d : SessionCookie) (v : StructValidator) :
    SessionCookie × StructValidator :=
  let (d, v) := validateSessionAutheliaURL env i d v
  validateSessionDefaultRedirectionURL env i d v

def validateSessionExpiration (config : Session) (d : SessionCookie) : SessionCookie :=
  let d := if d.expiration ≤ 0 then { d with expiration := config.expiration } else d
  if d.inactivity ≤ 0 then { d with inactivity := config.inactivity } else d

def validateSessionRememberMe (config : Session) (d : SessionCookie) : SessionCookie :=
  let d := if d.rememberMe ≤ 0 ∧ d.rememberMe ≠ rememberMeDisabled then
      { d with rememberMe := config.rememberMe } else d
  if d.rememberMe = rememberMeDisabled then { d with disableRememberMe := true } else d

def validateSessionSameSite (config : Session) (i : Nat) (d : SessionCookie) (v : StructValidator) :
    SessionCookie × StructValidator :=
  if d.sameSite.isEmpty then
    if isStringInSlice config.sameSite validSessionSameSiteValues then
      ({ d with sameSite := config.sameSite }, v)
    else ({ d with sameSite := defaultSessionSameSite }, v)
  else if !isStringInSlice d.sameSite validSessionSameSiteValues then
    (d, v.push (sprintf errFmtSessionDomainSameSite
      [sessionDomainDescriptor i d, stringJoinOr validSessionSameSiteValues, d.sameSite]))
  else (d, v)

def validateSessionCookie (config : Session) (i : Nat) (d : SessionCookie)
    (domains : List (List Char)) (v : StructValidator) : SessionCookie × StructValidator :=
  let v := validateSessionDomainName env i d v
  let v := validateSessionUniqueCookieDomain env i d domains v
  let d := validateSessionCookieName config d
  let (d, v) := validateSessionCookiesURLs env i d v
  let d := validateSessionExpiration config d
  let d := validateSessionRememberMe config d
  validateSessionSameSite config i d v

def validateSessionCookiesFrom (config : Session) :
    Nat → List SessionCookie → List (List Char) → StructValidator →
      List SessionCookie × StructValidator
  | _, [], _, v => ([], v)
  | i, d :: ds, domains, v =>
    let (d', v) := validateSessionCookie env config i d domains v
    let (ds', v) := validateSessionCookiesFrom config (i + 1) ds (domains ++ [d.domain]) v
    (d' :: ds', v)

def validateSessionCookieDomains (config : Session) (v : StructValidator) :
    Session × StructValidator :=
  let v := if config.cookies.isEmpty then
      v.push (sprintf errFmtSessionOptionRequired ["cookies".toList]) else v
  let (cookies, v) := validateSessionCookiesFrom env config 0 config.cookies [] v
  ({ config with cookies }, v)

/-- `validateSession`, given the global `default_redirection_url`. -/
def validateSession (defaultRedirectionURL : Option URL) (config : Session) (v : StructValidator) :
    Session × StructValidator :=
  let config := if config.expiration ≤ 0 then
      { config with expiration := defaultSessionExpiration } else config
  let config := if config.inactivity ≤ 0 then
      { config with inactivity := defaultSessionInactivity } else config
  let config := if config.rememberMe = rememberMeDisabled then
      { config with disableRememberMe := true }
    else if config.rememberMe ≤ 0 then { config with rememberMe := defaultSessionRememberMe }
    else config
  let (config, v) := if config.sameSite.isEmpty then
      ({ config with sameSite := defaultSessionSameSite }, v)
    else if !isStringInSlice config.sameSite validSessionSameSiteValues then
      (config, v.push (sprintf errFmtSessionSameSite
        [stringJoinOr validSessionSameSiteValues, config.sameSite]))
    else (config, v)
  let v := if !config.cookies.isEmpty && defaultRedirectionURL.isSome then
      v.push errFmtSessionLegacyRedirectionURL else v
  let (config, v) :=
    if config.cookies.isEmpty && !config.domain.isEmpty then
      ({ config with cookies := config.cookies ++
          [{ name := config.name, sameSite := config.sameSite, expiration := config.expiration,
             inactivity := config.inactivity, rememberMe := config.rememberMe,
             disableRememberMe := config.disableRememberMe, domain := config.domain,
             defaultRedirectionURL, legacy := true }] },
        v.pushWarning errFmtSessionDomainLegacy)
    else if !config.cookies.isEmpty && !config.domain.isEmpty then
      (config, v.push errFmtSessionLegacyAndWarning)
    else (config, v)
  validateSessionCookieDomains env config v

def validateSessionConfiguration (defaultRedirectionURL : Option URL) (config : Session)
    (v : StructValidator) : Session × StructValidator :=
  let config := if config.name.isEmpty then { config with name := defaultSessionName } else config
  validateSession env defaultRedirectionURL config v

/-- `GetCookieDomainFromTargetURI`: the first configured domain whose scope holds the host. -/
def getCookieDomainFromTargetURI (F : CaseFolding) (cookies : List SessionCookie) :
    Option URL → List Char
  | none => []
  | some target =>
    ((cookies.find? fun c => hasDomainSuffix F target.hostname c.domain).map (·.domain)).getD []

/-! ### Pushes only add -/

section Extends
open StructValidator

theorem extends_ite {c : Prop} [Decidable c] {v w w' : StructValidator} (hw : v.Extends w)
    (hw' : v.Extends w') : v.Extends (if c then w else w') := by
  split
  · exact hw
  · exact hw'

theorem validateSessionDomainName_extends (i : Nat) (d : SessionCookie) (v : StructValidator) :
    v.Extends (validateSessionDomainName env i d v) := by
  unfold validateSessionDomainName
  extract_lets desc v₁ v₂
  have h₁ : v.Extends v₁ := extends_ite (extends_pushWarning _ _) (Extends.refl _)
  have h₂ : v₁.Extends v₂ := by
    refine extends_ite ?_ (Extends.refl _)
    split
    · exact extends_pushWarning _ _
    · exact Extends.refl _
  -- the chain of domain checks pushes at most one error
  refine h₁.trans (h₂.trans ?_)
  repeat' first
    | exact extends_push _ _
    | exact Extends.refl _
    | refine extends_ite ?_ ?_

theorem validateSessionUniqueCookieDomain_extends (i : Nat) (d : SessionCookie)
    (domains : List (List Char)) (v : StructValidator) :
    v.Extends (validateSessionUniqueCookieDomain env i d domains v) :=
  extends_ite (extends_ite (extends_push _ _) (extends_push _ _)) (Extends.refl _)

theorem validateSessionAutheliaURL_extends (i : Nat) (d : SessionCookie) (v : StructValidator) :
    v.Extends (validateSessionAutheliaURL env i d v).2 := by
  unfold validateSessionAutheliaURL
  split
  · exact extends_push_ite v _
  · extract_lets u desc v₁ v₂
    have h₁ : v.Extends v₁ := extends_ite (extends_push _ _) (extends_push_ite _ _)
    exact h₁.trans (extends_push_ite _ _)

theorem validateSessionDefaultRedirectionURL_extends (i : Nat) (d : SessionCookie)
    (v : StructValidator) : v.Extends (validateSessionDefaultRedirectionURL env i d v).2 := by
  unfold validateSessionDefaultRedirectionURL
  split
  · exact Extends.refl v
  · extract_lets desc v₁
    have h₁ : v.Extends v₁ := extends_ite (extends_push _ _) (extends_push_ite _ _)
    -- the scope check: a warning for a legacy cookie, an error otherwise
    split
    rename_i w hw
    have h₂ : v₁.Extends w := by
      rw [show w = _ from (congrArg Prod.snd hw).symm]
      split
      · split
        · exact extends_pushWarning _ _
        · exact extends_push _ _
      · exact Extends.refl _
    refine h₁.trans (h₂.trans ?_)
    split
    · split
      · exact extends_push _ _
      · exact Extends.refl _
    · exact Extends.refl _

theorem validateSessionSameSite_extends (config : Session) (i : Nat) (d : SessionCookie)
    (v : StructValidator) : v.Extends (validateSessionSameSite config i d v).2 := by
  unfold validateSessionSameSite
  split
  · split <;> exact Extends.refl v
  · split
    · exact extends_push v _
    · exact Extends.refl v

theorem validateSessionCookiesURLs_extends (i : Nat) (d : SessionCookie) (v : StructValidator) :
    v.Extends (validateSessionCookiesURLs env i d v).2 :=
  (validateSessionAutheliaURL_extends env i d v).trans
    (validateSessionDefaultRedirectionURL_extends env i _ _)

theorem validateSessionCookie_extends_unique (config : Session) (i : Nat) (d : SessionCookie)
    (domains : List (List Char)) (v : StructValidator) :
    (validateSessionUniqueCookieDomain env i d domains (validateSessionDomainName env i d v)).Extends
      (validateSessionCookie env config i d domains v).2 :=
  (validateSessionCookiesURLs_extends env i _ _).trans (validateSessionSameSite_extends config i _ _)

theorem validateSessionCookie_extends (config : Session) (i : Nat) (d : SessionCookie)
    (domains : List (List Char)) (v : StructValidator) :
    v.Extends (validateSessionCookie env config i d domains v).2 :=
  ((validateSessionDomainName_extends env i d v).trans
    (validateSessionUniqueCookieDomain_extends env i d domains _)).trans
    (validateSessionCookie_extends_unique env config i d domains v)

theorem validateSessionCookiesFrom_extends (config : Session) :
    ∀ (i : Nat) (ds : List SessionCookie) (domains : List (List Char)) (v : StructValidator),
      v.Extends (validateSessionCookiesFrom env config i ds domains v).2
  | _, [], _, v => Extends.refl v
  | i, d :: ds, domains, v =>
    (validateSessionCookie_extends env config i d domains v).trans
      (validateSessionCookiesFrom_extends config (i + 1) ds _ _)

end Extends

/-! ### The loop keeps the domains -/

section Domains

@[simp] theorem validateSessionCookieName_domain (config : Session) (d : SessionCookie) :
    (validateSessionCookieName config d).domain = d.domain := by
  unfold validateSessionCookieName
  split <;> rfl

@[simp] theorem validateSessionAutheliaURL_domain (i : Nat) (d : SessionCookie)
    (v : StructValidator) : (validateSessionAutheliaURL env i d v).1.domain = d.domain := by
  unfold validateSessionAutheliaURL
  split <;> rfl

@[simp] theorem validateSessionDefaultRedirectionURL_domain (i : Nat) (d : SessionCookie)
    (v : StructValidator) : (validateSessionDefaultRedirectionURL env i d v).1.domain = d.domain := by
  unfold validateSessionDefaultRedirectionURL
  split
  · rfl
  · extract_lets desc v₁
    split
    rename_i d' w hw
    have hd' : d'.domain = d.domain := by
      rw [show d' = _ from (congrArg Prod.fst hw).symm]
      split
      · split <;> rfl
      · rfl
    split
    · split <;> exact hd'
    · exact hd'

@[simp] theorem validateSessionExpiration_domain (config : Session) (d : SessionCookie) :
    (validateSessionExpiration config d).domain = d.domain := by
  unfold validateSessionExpiration
  dsimp only
  split <;> split <;> rfl

@[simp] theorem validateSessionRememberMe_domain (config : Session) (d : SessionCookie) :
    (validateSessionRememberMe config d).domain = d.domain := by
  unfold validateSessionRememberMe
  dsimp only
  split <;> split <;> rfl

@[simp] theorem validateSessionSameSite_domain (config : Session) (i : Nat) (d : SessionCookie)
    (v : StructValidator) : (validateSessionSameSite config i d v).1.domain = d.domain := by
  unfold validateSessionSameSite
  split
  · split <;> rfl
  · split <;> rfl

@[simp] theorem validateSessionCookiesURLs_domain (i : Nat) (d : SessionCookie)
    (v : StructValidator) : (validateSessionCookiesURLs env i d v).1.domain = d.domain := by
  show (validateSessionDefaultRedirectionURL env i (validateSessionAutheliaURL env i d v).1 _).1.domain = _
  rw [validateSessionDefaultRedirectionURL_domain, validateSessionAutheliaURL_domain]

theorem validateSessionCookie_domain (config : Session) (i : Nat) (d : SessionCookie)
    (domains : List (List Char)) (v : StructValidator) :
    (validateSessionCookie env config i d domains v).1.domain = d.domain := by
  show (validateSessionSameSite config i (validateSessionRememberMe config (validateSessionExpiration
    config (validateSessionCookiesURLs env i (validateSessionCookieName config d) _).1)) _).1.domain = _
  rw [validateSessionSameSite_domain, validateSessionRememberMe_domain,
    validateSessionExpiration_domain, validateSessionCookiesURLs_domain,
    validateSessionCookieName_domain]

theorem validateSessionCookiesFrom_domains (config : Session) :
    ∀ (i : Nat) (ds : List SessionCookie) (domains : List (List Char)) (v : StructValidator),
      (validateSessionCookiesFrom env config i ds domains v).1.map (·.domain) = ds.map (·.domain)
  | _, [], _, _ => rfl
  | i, d :: ds, domains, v => by
    show (validateSessionCookie env config i d domains v).1.domain ::
        (validateSessionCookiesFrom env config (i + 1) ds _ _).1.map (·.domain) = _
    rw [validateSessionCookie_domain, validateSessionCookiesFrom_domains config (i + 1) ds]
    rfl

theorem validateSessionCookieDomains_domains (config : Session) (v : StructValidator) :
    (validateSessionCookieDomains env config v).1.cookies.map (·.domain) =
      config.cookies.map (·.domain) :=
  validateSessionCookiesFrom_domains env config 0 config.cookies [] _

end Domains

/-! ### What acceptance guarantees

The uniqueness check compares a new domain with the earlier ones in one direction, so what an
accepted configuration has is an order: no domain lies in the scope of a domain listed before it. -/

section Scopes
open StructValidator

/-- Cookie domains in list order, none inside the scope of one before it. -/
def ScopesOrdered (F : CaseFolding) (domains : List (List Char)) : Prop :=
  domains.Pairwise fun earlier later => hasDomainSuffix F later earlier = false

theorem not_hasDomainSuffix_of_unique {i : Nat} {d : SessionCookie} {domains : List (List Char)}
    {v : StructValidator} (h : (validateSessionUniqueCookieDomain env i d domains v).errors = []) :
    ∀ e ∈ domains, hasDomainSuffix env.foldCase d.domain e = false := by
  unfold validateSessionUniqueCookieDomain at h
  split at h
  · split at h <;> exact absurd h (push_errors_ne_nil _ _)
  · rename_i hnone
    intro e he
    simp only [isStringInSliceF, List.any_eq_true, not_exists, not_and] at hnone
    simpa using hnone e he

theorem scopesOrdered_validateSessionCookiesFrom (config : Session) :
    ∀ (i : Nat) (ds : List SessionCookie) (domains : List (List Char)) (v : StructValidator),
      ScopesOrdered env.foldCase domains →
      (validateSessionCookiesFrom env config i ds domains v).2.errors = [] →
      ScopesOrdered env.foldCase (domains ++ ds.map (·.domain))
  | _, [], _, _, hdom, _ => by simpa using hdom
  | i, d :: ds, domains, v, hdom, h => by
    have hrest : (validateSessionCookiesFrom env config (i + 1) ds (domains ++ [d.domain])
        (validateSessionCookie env config i d domains v).2).2.errors = [] := h
    have hcookie := errors_eq_nil_of_extends
      (validateSessionCookiesFrom_extends env config (i + 1) ds _ _) hrest
    have hunique := not_hasDomainSuffix_of_unique env
      (errors_eq_nil_of_extends (validateSessionCookie_extends_unique env config i d domains v) hcookie)
    -- the new domain joins the ordered prefix
    have hdom' : ScopesOrdered env.foldCase (domains ++ [d.domain]) := by
      refine List.pairwise_append.mpr ⟨hdom, List.pairwise_singleton _ _, ?_⟩
      intro e he d' hd'
      rw [List.mem_singleton.mp hd']
      exact hunique e he
    simpa using scopesOrdered_validateSessionCookiesFrom config (i + 1) ds _ _ hdom' hrest

theorem scopesOrdered_validateSessionCookieDomains (config : Session) (v : StructValidator)
    (h : (validateSessionCookieDomains env config v).2.errors = []) :
    ScopesOrdered env.foldCase ((validateSessionCookieDomains env config v).1.cookies.map (·.domain)) := by
  rw [validateSessionCookieDomains_domains]
  simpa using scopesOrdered_validateSessionCookiesFrom env config 0 config.cookies [] _
    List.Pairwise.nil h

theorem validateSessionConfiguration_eq_cookieDomains (r : Option URL) (config : Session)
    (v : StructValidator) :
    ∃ c w, validateSessionConfiguration env r config v = validateSessionCookieDomains env c w :=
  ⟨_, _, rfl⟩

theorem scopesOrdered_validateSessionConfiguration (r : Option URL) (config : Session)
    (v : StructValidator) (h : (validateSessionConfiguration env r config v).2.errors = []) :
    ScopesOrdered env.foldCase
      ((validateSessionConfiguration env r config v).1.cookies.map (·.domain)) := by
  obtain ⟨c, w, hcw⟩ := validateSessionConfiguration_eq_cookieDomains env r config v
  rw [hcw] at h ⊢
  exact scopesOrdered_validateSessionCookieDomains env c w h

end Scopes

/-! ### When nothing is pushed -/

section Accepted

theorem isCookieDomainAPublicSuffix_of_head {domain : List Char} (h : domain.head? ≠ some '.') :
    isCookieDomainAPublicSuffix env domain = env.inPublicSuffixList domain := by
  cases domain with
  | nil => rfl
  | cons c cs =>
    have hc : (c == '.') = false := by simpa using h
    simp [isCookieDomainAPublicSuffix, hc]

theorem validateSessionDomainName_of_valid {i : Nat} {d : SessionCookie} (v : StructValidator)
    (hempty : d.domain ≠ []) (hperiod : hasPrefix d.domain ['.'] = false)
    (hport : d.domain.contains ':' = false) (hwild : hasPrefix d.domain "*.".toList = false)
    (hdot : d.domain.contains '.' = true) (hchars : reDomainCharacters d.domain = true)
    (hpublic : isCookieDomainAPublicSuffix env d.domain = false) :
    validateSessionDomainName env i d v = v := by
  have hport' : ':' ∉ d.domain := by simpa using hport
  have hdot' : '.' ∈ d.domain := by simpa using hdot
  have hwild' : hasPrefix d.domain ['*', '.'] = false := hwild
  simp [validateSessionDomainName, hempty, hperiod, hport', hwild', hdot', hchars, hpublic]

theorem validateSessionUniqueCookieDomain_of_forall {i : Nat} {d : SessionCookie}
    {domains : List (List Char)} (v : StructValidator)
    (h : ∀ e ∈ domains, hasDomainSuffix env.foldCase d.domain e = false) :
    validateSessionUniqueCookieDomain env i d domains v = v := by
  have hnone : isStringInSliceF d.domain domains (hasDomainSuffix env.foldCase) = false := by
    simpa [isStringInSliceF] using h
  simp [validateSessionUniqueCookieDomain, hnone]

theorem isAbs_of_isURISecure {u : URL} (h : isURISecure u = true) : u.isAbs = true := by
  simp only [isURISecure, Bool.or_eq_true, beq_iff_eq] at h
  rcases h with h | h <;> simp [URL.isAbs, h]

theorem validateSessionAutheliaURL_of_valid {i : Nat} {d : SessionCookie} (v : StructValidator)
    {u : URL} (hurl : d.autheliaURL = some u) (hpath : u.path = []) (hsecure : isURISecure u = true)
    (hscope : hasURIDomainSuffix env.foldCase u d.domain = true) :
    validateSessionAutheliaURL env i d v = (d, v) := by
  have hd : { d with autheliaURL := some u } = d := by
    cases d
    simp_all
  simp [validateSessionAutheliaURL, hurl, hpath, isAbs_of_isURISecure hsecure, hsecure, hscope, hd]

theorem validateSessionExpiration_eq (config : Session) (d : SessionCookie) :
    ∃ e n, validateSessionExpiration config d = { d with expiration := e, inactivity := n } := by
  unfold validateSessionExpiration
  dsimp only
  split <;> split <;> exact ⟨_, _, rfl⟩

theorem validateSessionRememberMe_eq (config : Session) (d : SessionCookie) :
    ∃ r b, validateSessionRememberMe config d = { d with rememberMe := r, disableRememberMe := b } := by
  unfold validateSessionRememberMe
  dsimp only
  split <;> split <;> exact ⟨_, _, rfl⟩

theorem validateSessionSameSite_of_empty (config : Session) (i : Nat) {d : SessionCookie}
    (v : StructValidator) (h : d.sameSite = []) : (validateSessionSameSite config i d v).2 = v := by
  simp only [validateSessionSameSite, h, List.isEmpty_nil, if_true]
  split <;> rfl

theorem validateSessionCookie_of_wellFormed (config : Session) {i : Nat} {d : SessionCookie}
    {domains : List (List Char)} {v : StructValidator} {u : URL}
    (hname : validateSessionDomainName env i d v = v)
    (hunique : ∀ e ∈ domains, hasDomainSuffix env.foldCase d.domain e = false)
    (hurl : d.autheliaURL = some u) (hpath : u.path = []) (hsecure : isURISecure u = true)
    (hscope : hasURIDomainSuffix env.foldCase u d.domain = true)
    (hredirect : d.defaultRedirectionURL = none) (hsameSite : d.sameSite = []) :
    (validateSessionCookie env config i d domains v).2 = v := by
  obtain ⟨n, hn⟩ : ∃ n, validateSessionCookieName config d = { d with name := n } := by
    unfold validateSessionCookieName
    split <;> exact ⟨_, rfl⟩
  -- the URLs pass unchanged and leave no message
  have hurls : validateSessionCookiesURLs env i { d with name := n } v = ({ d with name := n }, v) := by
    show validateSessionDefaultRedirectionURL env i (validateSessionAutheliaURL env i _ v).1
      (validateSessionAutheliaURL env i _ v).2 = _
    have hurl' : ({ d with name := n } : SessionCookie).autheliaURL = some u := hurl
    rw [validateSessionAutheliaURL_of_valid env v hurl' hpath hsecure hscope]
    simp [validateSessionDefaultRedirectionURL, hredirect]
  obtain ⟨e, t, he⟩ := validateSessionExpiration_eq config { d with name := n }
  obtain ⟨r, b, hr⟩ := validateSessionRememberMe_eq config
    { d with name := n, expiration := e, inactivity := t }
  show (validateSessionSameSite config i (validateSessionRememberMe config (validateSessionExpiration
    config (validateSessionCookiesURLs env i (validateSessionCookieName config d)
      (validateSessionUniqueCookieDomain env i d domains (validateSessionDomainName env i d v))).1))
    (validateSessionCookiesURLs env i (validateSessionCookieName config d)
      (validateSessionUniqueCookieDomain env i d domains (validateSessionDomainName env i d v))).2).2 = v
  rw [hname, validateSessionUniqueCookieDomain_of_forall env v hunique, hn, hurls, he, hr]
  exact validateSessionSameSite_of_empty config i v hsameSite

theorem validateSessionConfiguration_of_cookies {config : Session} (v : StructValidator)
    (hdomain : config.domain = [])
    (hsameSite : config.sameSite = []) :
    ∃ c : Session, c.cookies = config.cookies ∧
      validateSessionConfiguration env none config v = validateSessionCookieDomains env c v := by
  unfold validateSessionConfiguration validateSession
  extract_lets c₁ c₂ c₃ c₄
  -- the duration and name defaults keep the cookies, the domain and the same-site value
  have h₁ : c₁.cookies = config.cookies ∧ c₁.domain = [] ∧ c₁.sameSite = [] := by
    simp only [c₁]
    split <;> exact ⟨rfl, hdomain, hsameSite⟩
  have h₂ : c₂.cookies = config.cookies ∧ c₂.domain = [] ∧ c₂.sameSite = [] := by
    simp only [c₂]
    split <;> exact h₁
  have h₃ : c₃.cookies = config.cookies ∧ c₃.domain = [] ∧ c₃.sameSite = [] := by
    simp only [c₃]
    split <;> exact h₂
  have h₄ : c₄.cookies = config.cookies ∧ c₄.domain = [] ∧ c₄.sameSite = [] := by
    simp only [c₄]
    split
    · exact h₃
    · split <;> exact h₃
  simp only [h₄.2.2, List.isEmpty_nil, if_true]
  simp [h₄.1, h₄.2.1]
  refine ⟨_, ?_, rfl⟩
  rfl

theorem validateSessionCookieDomains_snd_of_ne_nil {config : Session} (v : StructValidator)
    (h : config.cookies ≠ []) :
    (validateSessionCookieDomains env config v).2 =
      (validateSessionCookiesFrom env config 0 config.cookies [] v).2 := by
  simp [validateSessionCookieDomains, h]

theorem validateSessionCookiesFrom_cons_snd (config : Session) (i : Nat) (d : SessionCookie)
    (ds : List SessionCookie) (domains : List (List Char)) (v : StructValidator) :
    (validateSessionCookiesFrom env config i (d :: ds) domains v).2 =
      (validateSessionCookiesFrom env config (i + 1) ds (domains ++ [d.domain])
        (validateSessionCookie env config i d domains v).2).2 := by
  rw [validateSessionCookiesFrom]

end Accepted

/-! ### Lookup by target URI -/

theorem hasURIDomainSuffix_of_host (F : CaseFolding) {u : URL} {s : List Char} (w : List Char)
    (hhost : u.host = w ++ '.' :: s) (hcolon : ':' ∉ u.host) (hbracket : u.host.head? ≠ some '[')
    (hs : s ≠ []) : hasURIDomainSuffix F u s = true := by
  rw [hasURIDomainSuffix, URL.hostname_of_no_colon hcolon hbracket, hhost]
  exact hasDomainSuffix_append_period F w hs

theorem getCookieDomainFromTargetURI_some (F : CaseFolding) (cookies : List SessionCookie)
    (target : URL) :
    getCookieDomainFromTargetURI F cookies (some target) =
      ((cookies.map (·.domain)).find? (hasDomainSuffix F target.hostname)).getD [] := by
  rw [getCookieDomainFromTargetURI, List.find?_map]
  rfl

/-! ### A parent domain listed after its subdomain -/

def subdomainCookie : SessionCookie where
  domain := "sub.example.com".toList
  autheliaURL := some { scheme := "https".toList, host := "auth.sub.example.com".toList }

def parentDomainCookie : SessionCookie where
  domain := "example.com".toList
  autheliaURL := some { scheme := "https".toList, host := "auth.example.com".toList }

def nestedCookieDomains : Session where
  cookies := [subdomainCookie, parentDomainCookie]

/-- Whatever the case folding and the public suffix list (as long as neither domain is on it), the
validator accepts the subdomain before its parent, although the parent's scope holds the subdomain;
the reverse order is rejected, and a host under the subdomain is in both scopes. -/
theorem validateSessionConfiguration_accepts_nested_scopes (env : SessionEnv)
    (hsub : env.inPublicSuffixList "sub.example.com".toList = false)
    (hparent : env.inPublicSuffixList "example.com".toList = false) :
    (validateSessionConfiguration env none nestedCookieDomains {}).2.errors = [] ∧
      (validateSessionConfiguration env none nestedCookieDomains {}).1.cookies.map (·.domain) =
        ["sub.example.com".toList, "example.com".toList] ∧
      hasDomainSuffix env.foldCase "sub.example.com".toList "example.com".toList = true ∧
      hasDomainSuffix env.foldCase "app.sub.example.com".toList "example.com".toList = true ∧
      getCookieDomainFromTargetURI env.foldCase
        (validateSessionConfiguration env none nestedCookieDomains {}).1.cookies
        (some { scheme := "https".toList, host := "app.sub.example.com".toList }) =
        "sub.example.com".toList ∧
      (validateSessionConfiguration env none
        { nestedCookieDomains with cookies := nestedCookieDomains.cookies.reverse } {}).2.errors ≠ [] := by
  have hnested : hasDomainSuffix env.foldCase "sub.example.com".toList "example.com".toList = true := by
    rw [show "sub.example.com".toList = "sub".toList ++ '.' :: "example.com".toList by decide]
    exact hasDomainSuffix_append_period _ _ (by decide)
  obtain ⟨c, hc, hcw⟩ := validateSessionConfiguration_of_cookies env {}
    (show nestedCookieDomains.domain = [] from rfl) (show nestedCookieDomains.sameSite = [] from rfl)
  have hdomains : (validateSessionConfiguration env none nestedCookieDomains {}).1.cookies.map
      (·.domain) = ["sub.example.com".toList, "example.com".toList] := by
    rw [hcw, validateSessionCookieDomains_domains, hc]
    rfl
  -- both cookies pass every check: the subdomain first, then the parent, which is not in its scope
  have hsubdomain : (validateSessionCookie env c 0 subdomainCookie [] {}).2 = {} := by
    refine validateSessionCookie_of_wellFormed env c ?_ (by simp) rfl rfl (by decide) ?_ rfl rfl
    · refine validateSessionDomainName_of_valid env {} (by decide) (by decide) (by decide) (by decide)
        (by decide) (by decide) ?_
      exact (isCookieDomainAPublicSuffix_of_head env (by decide)).trans hsub
    · exact hasURIDomainSuffix_of_host env.foldCase "auth".toList (by decide) (by decide) (by decide)
        (by decide)
  have hparentDomain :
      (validateSessionCookie env c 1 parentDomainCookie [subdomainCookie.domain] {}).2 = {} := by
    refine validateSessionCookie_of_wellFormed env c ?_ ?_ rfl rfl (by decide) ?_ rfl rfl
    · refine validateSessionDomainName_of_valid env {} (by decide) (by decide) (by decide) (by decide)
        (by decide) (by decide) ?_
      exact (isCookieDomainAPublicSuffix_of_head env (by decide)).trans hparent
    · intro e he
      rw [List.mem_singleton.mp he]
      exact hasDomainSuffix_of_lt env.foldCase (by decide) (by decide)
    · exact hasURIDomainSuffix_of_host env.foldCase "auth".toList (by decide) (by decide) (by decide)
        (by decide)
  have haccepted : (validateSessionConfiguration env none nestedCookieDomains {}).2.errors = [] := by
    rw [hcw, validateSessionCookieDomains_snd_of_ne_nil env {}
      (by rw [hc]; simp [nestedCookieDomains]), hc]
    show (validateSessionCookiesFrom env c 0 [subdomainCookie, parentDomainCookie] [] {}).2.errors = []
    rw [validateSessionCookiesFrom_cons_snd, hsubdomain, validateSessionCookiesFrom_cons_snd,
      List.nil_append, hparentDomain]
    rfl
  -- the reverse order would put the subdomain in the scope of the parent before it
  have hrejected : (validateSessionConfiguration env none
      { nestedCookieDomains with cookies := nestedCookieDomains.cookies.reverse } {}).2.errors ≠ [] := by
    intro h
    have hordered := scopesOrdered_validateSessionConfiguration env none _ {} h
    obtain ⟨c', hc', hcw'⟩ := validateSessionConfiguration_of_cookies env {}
      (show ({ nestedCookieDomains with cookies := nestedCookieDomains.cookies.reverse } : Session).domain = []
        from rfl)
      (show ({ nestedCookieDomains with cookies := nestedCookieDomains.cookies.reverse } : Session).sameSite = []
        from rfl)
    rw [hcw', validateSessionCookieDomains_domains, hc'] at hordered
    have hpair : hasDomainSuffix env.foldCase "sub.example.com".toList "example.com".toList = false :=
      List.rel_of_pairwise_cons hordered (List.mem_singleton_self _)
    rw [hpair] at hnested
    exact Bool.false_ne_true hnested
  have htarget : hasDomainSuffix env.foldCase "app.sub.example.com".toList "sub.example.com".toList = true := by
    rw [show "app.sub.example.com".toList = "app".toList ++ '.' :: "sub.example.com".toList by decide]
    exact hasDomainSuffix_append_period _ _ (by decide)
  refine ⟨haccepted, hdomains, hnested, ?_, ?_, hrejected⟩
  · rw [show "app.sub.example.com".toList = "app.sub".toList ++ '.' :: "example.com".toList by decide]
    exact hasDomainSuffix_append_period _ _ (by decide)
  · rw [getCookieDomainFromTargetURI_some, hdomains,
      URL.hostname_of_no_colon (by decide) (by decide), List.find?_cons_of_pos htarget]
    rfl

/-- ASCII case folding, no IP literal, and a public suffix list of single labels. -/
def asciiSessionEnv : SessionEnv where
  foldCase := CaseFolding.ascii
  parseIP _ := false
  splitHostPort _ := none
  inPublicSuffixList domain := !domain.contains '.'

theorem validateSessionConfiguration_accepts_nested_scopes_ascii :
    asciiSessionEnv.inPublicSuffixList "sub.example.com".toList = false ∧
      asciiSessionEnv.inPublicSuffixList "example.com".toList = false ∧
      ((validateSessionConfiguration asciiSessionEnv none nestedCookieDomains {}).2.errors = [] ∧
        (validateSessionConfiguration asciiSessionEnv none nestedCookieDomains {}).1.cookies.map
          (·.domain) = ["sub.example.com".toList, "example.com".toList] ∧
        hasDomainSuffix CaseFolding.ascii "sub.example.com".toList "example.com".toList = true ∧
        hasDomainSuffix CaseFolding.ascii "app.sub.example.com".toList "example.com".toList = true ∧
        getCookieDomainFromTargetURI CaseFolding.ascii
          (validateSessionConfiguration asciiSessionEnv none nestedCookieDomains {}).1.cookies
          (some { scheme := "https".toList, host := "app.sub.example.com".toList }) =
          "sub.example.com".toList ∧
        (validateSessionConfiguration asciiSessionEnv none
          { nestedCookieDomains with cookies := nestedCookieDomains.cookies.reverse } {}).2.errors ≠
          []) :=
  ⟨by decide, by decide,
    validateSessionConfiguration_accepts_nested_scopes asciiSessionEnv (by decide) (by decide)⟩

end Authelia.Validator
