import Authelia.Session.UserSession
import Authelia.Utils.Strings

/-! The cookie session strategy of the authz endpoints (`handler_authz_authn.go`): the session a
cookie names is accepted only when it belongs to the request's cookie domain, has not been idle
past `Inactivity` (unless remembered), still names a user of the backend when a profile refresh
is due, and matches the `Session-Username` header when one is sent; otherwise it is replaced by a
fresh anonymous session. A refresh copies the backend's groups, emails and display name into the
session when they differ. The strategy never raises a session: the stored session keeps its
user and its authentication method references, or is reset to an anonymous one. -/

namespace Authelia.Handlers
open Go Utils Authentication Session

structure RefreshIntervalDuration where
  value : Int
  always : Bool := false
  never : Bool := false
  deriving DecidableEq, Repr

/-- The session configuration the manager reports: the cookie domain and `Inactivity`, in
nanoseconds. -/
structure SessionConfig where
  domain : List Char
  inactivity : Int
  deriving DecidableEq, Repr

inductive GetDetailsError
  | userNotFound
  | other
  deriving DecidableEq, Repr

/-- What the strategy reads of the request context: the clock, the `Session-Username` header, the
user provider, and `webauthn.enable_passkey_2fa`. -/
structure AuthzContext where
  now : Int
  sessionUsername : Option (List Char)
  getDetails : List Char → Except GetDetailsError Authentication.UserDetails
  passkey2FA : Bool

inductive AuthnType
  | none
  | cookie
  | proxyAuthorization
  | authorization
  deriving DecidableEq, Repr

structure Authn where
  username : List Char
  clientID : List Char := []
  details : Authentication.UserDetails
  level : Authentication.Level
  type : AuthnType
  deriving DecidableEq, Repr

def anonymous : List Char := "<anonymous>".toList

def friendlyUsername (username : List Char) : List Char :=
  if username = [] then anonymous else username

/-- The `Authn` the cookie strategy starts from and returns for a rejected session. -/
def anonymousCookieAuthn : Authn :=
  { username := anonymous, details := { username := [] }, level := .notAuthenticated, type := .cookie }

/-- The outcome of a validation: whether the session changed, whether it must be destroyed, and
the session as the validation left it. -/
structure Validation where
  modified : Bool
  invalid : Bool
  session : UserSession

section Validate
variable (F : CaseFolding) (ctx : AuthzContext) (config : SessionConfig)
  (refresh : RefreshIntervalDuration)

/-- `handleAuthnCookieValidateInactivity`: a session idle past `Inactivity`, unless anonymous,
remembered, or with an inactivity of less than a second. -/
def handleAuthnCookieValidateInactivity (s : UserSession) (isAnonymous : Bool) : Bool :=
  if isAnonymous || s.keepMeLoggedIn || config.inactivity.tdiv 1000000000 == 0 then false
  else decide (s.lastActivity * 1000000000 + config.inactivity < ctx.now)

def handleSessionValidateRefresh (s : UserSession) : Validation :=
  if refresh.never || s.isAnonymous then ⟨false, false, s⟩
  else if !refresh.always && decide (ctx.now < s.refreshTTL) then ⟨false, false, s⟩
  else
    match ctx.getDetails s.username with
    | .error .userNotFound => ⟨false, true, s⟩
    | .error .other => ⟨false, false, s⟩
    | .ok details =>
      let diffEmails := isStringSlicesDifferent s.emails details.emails
      let diffGroups := isStringSlicesDifferent s.groups details.groups
      let diffDisplayName := s.displayName != details.displayName
      let s := if refresh.always then s else { s with refreshTTL := ctx.now + refresh.value }
      if !diffEmails && !diffGroups && !diffDisplayName then ⟨!refresh.always, false, s⟩
      else ⟨true, false, { s with emails := details.emails, groups := details.groups,
                                  displayName := details.displayName }⟩

def handleAuthnCookieValidate (s : UserSession) : Validation :=
  let isAnonymous := s.username == []
  if isAnonymous && s.authenticationLevel ctx.passkey2FA != .notAuthenticated then ⟨false, true, s⟩
  else if handleAuthnCookieValidateInactivity ctx config s isAnonymous then ⟨false, true, s⟩
  else
    let r := handleSessionValidateRefresh ctx refresh s
    if r.invalid then ⟨r.modified, true, r.session⟩
    -- the Session-Username header, when sent, must name the session's user
    else if (ctx.sessionUsername.map fun u => !equalFold F u r.session.username).getD false then
      ⟨r.modified, true, r.session⟩
    else if !r.session.keepMeLoggedIn then
      ⟨true, false, { r.session with lastActivity := unix ctx.now }⟩
    else ⟨r.modified, false, r.session⟩

/-- The `Authn` the cookie strategy returns for a session it keeps. -/
def sessionAuthn (s : UserSession) (passkey2FA : Bool) : Authn :=
  { username := friendlyUsername s.username,
    details := { username := s.username, displayName := s.displayName, emails := s.emails,
                 groups := s.groups },
    level := s.authenticationLevel passkey2FA, type := .cookie }

structure CookieGet where
  authn : Authn
  failed : Bool
  saved : Option UserSession

/-- `CookieSessionAuthnStrategy.Get` over the session `GetSession` loads (`none` when it fails). -/
def cookieSessionAuthnStrategyGet (stored : Option UserSession) : CookieGet :=
  match stored with
  | none => ⟨anonymousCookieAuthn, true, none⟩
  | some s =>
    -- a session moved from another cookie domain is destroyed and replaced
    let moved := s.cookieDomain != config.domain
    let s := if moved then newDefaultUserSession config.domain else s
    let r := handleAuthnCookieValidate F ctx config refresh s
    if r.invalid then
      ⟨anonymousCookieAuthn, false,
        some { newDefaultUserSession config.domain with lastActivity := unix ctx.now }⟩
    else
      ⟨sessionAuthn r.session ctx.passkey2FA, false,
        if r.modified then some r.session else if moved then some s else none⟩

end Validate

/-! ### What a validation keeps -/

/-- `s'` has the user, the authentication method references and the cookie domain of `s`: the
fields the level and the cookie's scope are read off. -/
structure SameIdentity (s s' : UserSession) : Prop where
  username_eq : s'.username = s.username
  authenticationMethodRefs_eq : s'.authenticationMethodRefs = s.authenticationMethodRefs
  cookieDomain_eq : s'.cookieDomain = s.cookieDomain

theorem SameIdentity.refl (s : UserSession) : SameIdentity s s := ⟨rfl, rfl, rfl⟩

theorem SameIdentity.trans {s₁ s₂ s₃ : UserSession} (h₁ : SameIdentity s₁ s₂)
    (h₂ : SameIdentity s₂ s₃) : SameIdentity s₁ s₃ :=
  ⟨h₂.username_eq.trans h₁.username_eq,
    h₂.authenticationMethodRefs_eq.trans h₁.authenticationMethodRefs_eq,
    h₂.cookieDomain_eq.trans h₁.cookieDomain_eq⟩

theorem SameIdentity.authenticationLevel_eq {s s' : UserSession} (h : SameIdentity s s')
    (passkey2FA : Bool) : s'.authenticationLevel passkey2FA = s.authenticationLevel passkey2FA := by
  simp only [UserSession.authenticationLevel, h.username_eq, h.authenticationMethodRefs_eq]

theorem UserSession.isAnonymous_eq_false {s : UserSession} {passkey2FA : Bool}
    (h : s.authenticationLevel passkey2FA ≠ .notAuthenticated) : s.isAnonymous = false := by
  have hnot := mt (s.authenticationLevel_eq_notAuthenticated_iff passkey2FA).mpr h
  unfold UserSession.isAnonymous
  rw [beq_eq_false_iff_ne, Ne, s.authenticationLevel_eq_notAuthenticated_iff false]
  exact hnot

section Validate
variable (F : CaseFolding) (ctx : AuthzContext) (config : SessionConfig)
  (refresh : RefreshIntervalDuration)

theorem sameIdentity_handleSessionValidateRefresh (s : UserSession) :
    SameIdentity s (handleSessionValidateRefresh ctx refresh s).session ∧
      (handleSessionValidateRefresh ctx refresh s).session.keepMeLoggedIn = s.keepMeLoggedIn := by
  unfold handleSessionValidateRefresh
  split
  · exact ⟨SameIdentity.refl s, rfl⟩
  split
  · exact ⟨SameIdentity.refl s, rfl⟩
  split
  · exact ⟨SameIdentity.refl s, rfl⟩
  · exact ⟨SameIdentity.refl s, rfl⟩
  · dsimp only
    split_ifs <;> exact ⟨⟨rfl, rfl, rfl⟩, rfl⟩

theorem handleSessionValidateRefresh_of_due (s : UserSession) (hanon : s.isAnonymous = false)
    (hnever : refresh.never = false) (hdue : refresh.always = true ∨ s.refreshTTL ≤ ctx.now)
    (hvalid : (handleSessionValidateRefresh ctx refresh s).invalid = false) :
    (ctx.getDetails s.username = .error .other ∧ (handleSessionValidateRefresh ctx refresh s).session = s) ∨
      ∃ d, ctx.getDetails s.username = .ok d ∧
        (∀ g ∈ (handleSessionValidateRefresh ctx refresh s).session.groups, g ∈ d.groups) ∧
        (∀ e ∈ (handleSessionValidateRefresh ctx refresh s).session.emails, e ∈ d.emails) := by
  have hcheck : ¬((!refresh.always && decide (ctx.now < s.refreshTTL)) = true) := by
    rcases hdue with halways | hle
    · simp [halways]
    · simp [Int.not_lt.mpr hle]
  unfold handleSessionValidateRefresh at hvalid ⊢
  rw [if_neg (by simp [hnever, hanon]), if_neg hcheck] at hvalid ⊢
  rcases hd : ctx.getDetails s.username with e | d
  · cases e with
    | userNotFound =>
      rw [hd] at hvalid
      cases hvalid
    | other => exact Or.inl ⟨rfl, rfl⟩
  · refine Or.inr ⟨d, rfl, ?_⟩
    dsimp only
    -- nothing differs: every item the session keeps is in the backend's lists
    have hkeep : (!isStringSlicesDifferent s.emails d.emails && !isStringSlicesDifferent s.groups d.groups &&
        !(s.displayName != d.displayName)) = true →
        (∀ g ∈ s.groups, g ∈ d.groups) ∧ ∀ e ∈ s.emails, e ∈ d.emails := by
      intro hsame
      simp only [Bool.and_eq_true, Bool.not_eq_true', bne_eq_false_iff_eq] at hsame
      exact ⟨(subset_of_isStringSlicesDifferent_eq_false hsame.1.2).2,
        (subset_of_isStringSlicesDifferent_eq_false hsame.1.1).2⟩
    -- otherwise the session takes the backend's lists
    split_ifs
    all_goals first
      | exact hkeep ‹_›
      | exact ⟨fun g hg => hg, fun e he => he⟩

theorem sameIdentity_handleAuthnCookieValidate (s : UserSession) :
    SameIdentity s (handleAuthnCookieValidate F ctx config refresh s).session := by
  have hr := (sameIdentity_handleSessionValidateRefresh ctx refresh s).1
  unfold handleAuthnCookieValidate
  dsimp only
  split_ifs
  · exact SameIdentity.refl s
  · exact SameIdentity.refl s
  · exact hr
  · exact hr
  · exact ⟨hr.username_eq, hr.authenticationMethodRefs_eq, hr.cookieDomain_eq⟩
  · exact hr

theorem checks_of_handleAuthnCookieValidate (s : UserSession)
    (hvalid : (handleAuthnCookieValidate F ctx config refresh s).invalid = false) :
    handleAuthnCookieValidateInactivity ctx config s (s.username == []) = false ∧
      (handleSessionValidateRefresh ctx refresh s).invalid = false ∧
      (∀ u, ctx.sessionUsername = some u → equalFold F u s.username = true) ∧
      (handleAuthnCookieValidate F ctx config refresh s).session.groups =
        (handleSessionValidateRefresh ctx refresh s).session.groups ∧
      (handleAuthnCookieValidate F ctx config refresh s).session.emails =
        (handleSessionValidateRefresh ctx refresh s).session.emails := by
  have hname := (sameIdentity_handleSessionValidateRefresh ctx refresh s).1.username_eq
  unfold handleAuthnCookieValidate at hvalid ⊢
  dsimp only at hvalid ⊢
  split_ifs at hvalid ⊢ with hanon hidle hrefresh hheader
  -- the session is kept, with or without a new last activity
  all_goals
    have hmatch : ∀ u, ctx.sessionUsername = some u → equalFold F u s.username = true :=
      fun u hu => by simpa [hu, hname] using hheader
    exact ⟨Bool.eq_false_iff.mpr hidle, Bool.eq_false_iff.mpr hrefresh, hmatch, rfl, rfl⟩

theorem not_idle_of_handleAuthnCookieValidateInactivity {s : UserSession} (hname : s.username ≠ [])
    (h : handleAuthnCookieValidateInactivity ctx config s (s.username == []) = false) :
    s.keepMeLoggedIn = true ∨ config.inactivity.tdiv 1000000000 = 0 ∨
      ctx.now ≤ s.lastActivity * 1000000000 + config.inactivity := by
  unfold handleAuthnCookieValidateInactivity at h
  split_ifs at h with hskip
  · simp only [Bool.or_eq_true, beq_iff_eq, hname, false_or] at hskip
    exact hskip.elim Or.inl (fun h => Or.inr (Or.inl h))
  · exact Or.inr (Or.inr (Int.not_lt.mp (of_decide_eq_false h)))

/-! ### The strategy -/

theorem cookieSessionAuthnStrategyGet_cases (stored : Option UserSession) :
    (cookieSessionAuthnStrategyGet F ctx config refresh stored).authn = anonymousCookieAuthn ∨
      ∃ s₀ s, stored = some s₀ ∧
        ((s = s₀ ∧ s₀.cookieDomain = config.domain) ∨ s = newDefaultUserSession config.domain) ∧
        (handleAuthnCookieValidate F ctx config refresh s).invalid = false ∧
        (cookieSessionAuthnStrategyGet F ctx config refresh stored).authn =
          sessionAuthn (handleAuthnCookieValidate F ctx config refresh s).session ctx.passkey2FA := by
  cases stored with
  | none => exact Or.inl rfl
  | some s₀ =>
    unfold cookieSessionAuthnStrategyGet
    dsimp only
    generalize hs : (if (s₀.cookieDomain != config.domain) = true then
      newDefaultUserSession config.domain else s₀) = s
    have hcases : (s = s₀ ∧ s₀.cookieDomain = config.domain) ∨
        s = newDefaultUserSession config.domain := by
      split at hs
      · exact Or.inr hs.symm
      · rename_i hmoved
        simp only [bne_iff_ne, ne_eq, Decidable.not_not] at hmoved
        exact Or.inl ⟨hs.symm, hmoved⟩
    split
    · exact Or.inl rfl
    · rename_i hvalid
      exact Or.inr ⟨s₀, s, rfl, hcases, Bool.eq_false_iff.mpr hvalid, rfl⟩

/-- What the cookie strategy has checked of the session `s` when it answers `authn` for it: the
session belongs to the cookie domain and names a user, the answer carries that user at the
session's own level, the session was not idle past `Inactivity` unless remembered, it matches the
`Session-Username` header when one is sent, and when a profile refresh was due the backend either
failed with another error than an unknown user, or knows the user and lists every group and email
the answer carries. -/
structure Vouches (s : UserSession) (authn : Authn) : Prop where
  cookieDomain_eq : s.cookieDomain = config.domain
  username_ne_nil : s.username ≠ []
  level_eq : authn.level = s.authenticationLevel ctx.passkey2FA
  username_eq : authn.details.username = s.username
  active : s.keepMeLoggedIn = true ∨ config.inactivity.tdiv 1000000000 = 0 ∨
    ctx.now ≤ s.lastActivity * 1000000000 + config.inactivity
  sessionUsername : ∀ u, ctx.sessionUsername = some u → equalFold F u s.username = true
  refreshed : refresh.never = false → (refresh.always = true ∨ s.refreshTTL ≤ ctx.now) →
    ctx.getDetails s.username = .error .other ∨
      ∃ d, ctx.getDetails s.username = .ok d ∧ (∀ g ∈ authn.details.groups, g ∈ d.groups) ∧
        ∀ e ∈ authn.details.emails, e ∈ d.emails

theorem cookieSessionAuthnStrategyGet_authenticated (stored : Option UserSession)
    (hauth : (cookieSessionAuthnStrategyGet F ctx config refresh stored).authn.level ≠
      .notAuthenticated) :
    ∃ s, stored = some s ∧
      Vouches F ctx config refresh s (cookieSessionAuthnStrategyGet F ctx config refresh stored).authn := by
  rcases cookieSessionAuthnStrategyGet_cases F ctx config refresh stored with hanon | ⟨s₀, s, hstored, hs, hvalid, hget⟩
  · exact absurd (by rw [hanon]; rfl) hauth
  rw [hget] at hauth ⊢
  -- the answer carries the level of the session that was validated
  have hsame := sameIdentity_handleAuthnCookieValidate F ctx config refresh s
  have hlevel : (sessionAuthn (handleAuthnCookieValidate F ctx config refresh s).session
      ctx.passkey2FA).level = s.authenticationLevel ctx.passkey2FA :=
    hsame.authenticationLevel_eq ctx.passkey2FA
  rw [hlevel] at hauth
  have hname : s.username ≠ [] := fun h => hauth (s.authenticationLevel_of_username_nil h _)
  -- a replacing fresh session names no user, so the cookie's own session was kept
  obtain ⟨rfl, hdomain⟩ : s = s₀ ∧ s₀.cookieDomain = config.domain := by
    rcases hs with hkept | rfl
    · exact hkept
    · exact absurd rfl hname
  obtain ⟨hidle, hrefresh, hheader, hgroups, hemails⟩ :=
    checks_of_handleAuthnCookieValidate F ctx config refresh s hvalid
  refine ⟨s, hstored, hdomain, hname, hlevel, hsame.username_eq, ?_, hheader, fun hnever hdue => ?_⟩
  · exact not_idle_of_handleAuthnCookieValidateInactivity ctx config hname hidle
  · rcases handleSessionValidateRefresh_of_due ctx refresh s (UserSession.isAnonymous_eq_false hauth)
      hnever hdue hrefresh with ⟨hother, -⟩ | ⟨d, hd, hdgroups, hdemails⟩
    · exact Or.inl hother
    · refine Or.inr ⟨d, hd, fun g hg => hdgroups g ?_, fun e he => hdemails e ?_⟩
      · rw [← hgroups]
        exact hg
      · rw [← hemails]
        exact he

theorem cookieSessionAuthnStrategyGet_saved (s₀ s' : UserSession)
    (h : (cookieSessionAuthnStrategyGet F ctx config refresh (some s₀)).saved = some s') :
    SameIdentity s₀ s' ∨ s'.username = [] := by
  unfold cookieSessionAuthnStrategyGet at h
  dsimp only at h
  generalize hs : (if (s₀.cookieDomain != config.domain) = true then
    newDefaultUserSession config.domain else s₀) = s at h
  -- the session that was validated is the loaded one, or a fresh one that names no user
  have hcases : s = s₀ ∨ s.username = [] := by
    split at hs
    · exact Or.inr (hs ▸ rfl)
    · exact Or.inl hs.symm
  have hvalidated : SameIdentity s₀ (handleAuthnCookieValidate F ctx config refresh s).session ∨
      (handleAuthnCookieValidate F ctx config refresh s).session.username = [] := by
    have hsame := sameIdentity_handleAuthnCookieValidate F ctx config refresh s
    rcases hcases with rfl | hnil
    · exact Or.inl hsame
    · exact Or.inr (hsame.username_eq.trans hnil)
  split at h
  · cases h
    exact Or.inr rfl
  · split at h
    · cases h
      exact hvalidated
    · split at h
      · cases h
        rcases hcases with rfl | hnil
        · exact Or.inl (SameIdentity.refl _)
        · exact Or.inr hnil
      · cases h

end Validate

/-! ### Runs of requests -/

section Run
variable (F : CaseFolding) (config : SessionConfig) (refresh : RefreshIntervalDuration)

/-- The stored session across authz requests on one cookie: each request loads it, or fails to
(`false`), and whatever the strategy saves replaces it. -/
def cookieRun : UserSession → List (AuthzContext × Bool) → UserSession
  | s, [] => s
  | s, (ctx, loads) :: rs =>
    cookieRun ((cookieSessionAuthnStrategyGet F ctx config refresh
      (if loads then some s else none)).saved.getD s) rs

theorem cookieRun_sameIdentity_or_anonymous (s : UserSession) (rs : List (AuthzContext × Bool)) :
    SameIdentity s (cookieRun F config refresh s rs) ∨ (cookieRun F config refresh s rs).username = [] := by
  -- the invariant of the stored session: the initial identity, or no user at all
  suffices h : ∀ s', (SameIdentity s s' ∨ s'.username = []) →
      (SameIdentity s (cookieRun F config refresh s' rs) ∨ (cookieRun F config refresh s' rs).username = []) from
    h s (Or.inl (SameIdentity.refl s))
  induction rs with
  | nil => exact fun s' h => h
  | cons r rs ih =>
    intro s' hs'
    obtain ⟨ctx, loads⟩ := r
    apply ih
    -- one request: what it saves is the stored session's identity or anonymous
    have hstep : ∀ s'', (cookieSessionAuthnStrategyGet F ctx config refresh
        (if loads then some s' else none)).saved = some s'' → SameIdentity s' s'' ∨ s''.username = [] := by
      intro s'' hsaved
      cases loads with
      | true => exact cookieSessionAuthnStrategyGet_saved F ctx config refresh s' s'' hsaved
      | false => cases hsaved
    cases hsaved : (cookieSessionAuthnStrategyGet F ctx config refresh
        (if loads then some s' else none)).saved with
    | none => exact hs'
    | some s'' =>
      rcases hstep s'' hsaved with hsame | hnil
      · rcases hs' with hs' | hs'
        · exact Or.inl (hs'.trans hsame)
        · exact Or.inr (hsame.username_eq.trans hs')
      · exact Or.inr hnil

theorem authenticationLevel_cookieRun (s : UserSession) (rs : List (AuthzContext × Bool))
    (passkey2FA : Bool) :
    (cookieRun F config refresh s rs).authenticationLevel passkey2FA = s.authenticationLevel passkey2FA ∨
      (cookieRun F config refresh s rs).authenticationLevel passkey2FA = .notAuthenticated := by
  rcases cookieRun_sameIdentity_or_anonymous F config refresh s rs with hsame | hnil
  · exact Or.inl (hsame.authenticationLevel_eq passkey2FA)
  · exact Or.inr (UserSession.authenticationLevel_of_username_nil _ hnil passkey2FA)

end Run

end Authelia.Handlers
