import Authelia.Authorization.Amr

/-! The user session (`session/user_session.go`, `session/session.go`): the record a session
cookie names, its authentication level, and the steps of the login handlers that raise it. A
`time.Time` is its count of nanoseconds since the epoch and `Unix()` rounds it down to seconds.
The level of a session is read off its username and its authentication method references, and
the only steps that set either are the login steps: a session is authenticated only after a
first factor named a user, and at two factors only after a knowledge and a possession factor, or
a user-verified passkey where passkeys count as two factors. -/

namespace Authelia

namespace Authentication

structure UserDetails where
  username : List Char
  displayName : List Char := []
  emails : List (List Char) := []
  groups : List (List Char) := []
  deriving DecidableEq, Repr

end Authentication

namespace Session
open Authorization Authentication

def unix (t : Int) : Int := t / 1000000000

/-- `session.UserSession`, the fields the modelled handlers read and write. -/
structure UserSession where
  cookieDomain : List Char := []
  username : List Char := []
  displayName : List Char := []
  groups : List (List Char) := []
  emails : List (List Char) := []
  keepMeLoggedIn : Bool := false
  lastActivity : Int := 0
  firstFactorAuthnTimestamp : Int := 0
  secondFactorAuthnTimestamp : Int := 0
  authenticationMethodRefs : AuthenticationMethodsReferences := {}
  refreshTTL : Int := 0
  deriving DecidableEq, Repr

/-- `NewDefaultUserSession` as `Session.NewDefaultUserSession` calls it: the zero session of the
provider's cookie domain. -/
def newDefaultUserSession (domain : List Char) : UserSession := { cookieDomain := domain }

namespace UserSession

section Level
variable (s : UserSession)

/-- `AuthenticationLevel`, which reads the username and the references only. -/
def authenticationLevel (passkey2FA : Bool) : Authentication.Level :=
  (Authorization.UserSession.mk s.username s.authenticationMethodRefs).authenticationLevel passkey2FA

def isAnonymous : Bool := s.authenticationLevel false == .notAuthenticated

theorem authenticationLevel_of_username_nil (h : s.username = []) (passkey2FA : Bool) :
    s.authenticationLevel passkey2FA = .notAuthenticated := by
  simp [authenticationLevel, Authorization.UserSession.authenticationLevel, h]

theorem authenticationLevel_eq_notAuthenticated_iff (passkey2FA : Bool) :
    s.authenticationLevel passkey2FA = .notAuthenticated ↔
      s.username = [] ∨ (s.authenticationMethodRefs.factorPossession = false ∧
        s.authenticationMethodRefs.factorKnowledge = false) := by
  have hwebAuthn : s.authenticationMethodRefs.webAuthn = true →
      s.authenticationMethodRefs.factorPossession = true := by
    intro h
    simp [AuthenticationMethodsReferences.factorPossession, h]
  unfold authenticationLevel Authorization.UserSession.authenticationLevel
  by_cases hname : s.username = []
  · simp [hname]
  rw [if_neg hname]
  cases hp : s.authenticationMethodRefs.factorPossession <;>
    cases hk : s.authenticationMethodRefs.factorKnowledge
  · -- no factor at all, so no WebAuthn credential either
    have hno : s.authenticationMethodRefs.webAuthn = false := by
      cases hw : s.authenticationMethodRefs.webAuthn
      · rfl
      · simp [hp] at hwebAuthn
        exact absurd hw (by simp [hwebAuthn])
    simp [hname, hno]
  all_goals split_ifs <;> simp_all

theorem factors_of_authenticationLevel_eq_twoFactor {passkey2FA : Bool}
    (h : s.authenticationLevel passkey2FA = .twoFactor) :
    (s.authenticationMethodRefs.factorKnowledge ∧ s.authenticationMethodRefs.factorPossession) ∨
      (passkey2FA ∧ s.authenticationMethodRefs.webAuthn ∧
        s.authenticationMethodRefs.webAuthnUserVerified) := by
  unfold authenticationLevel Authorization.UserSession.authenticationLevel at h
  dsimp only at h
  split_ifs at h with hname hboth hpasskey hone
  · simp only [Bool.and_eq_true] at hboth
    exact Or.inl ⟨hboth.2, hboth.1⟩
  · simp only [Bool.and_eq_true] at hpasskey
    exact Or.inr ⟨hpasskey.1.1, hpasskey.1.2, hpasskey.2⟩

end Level

/-! ### The login steps -/

section Steps
variable (s : UserSession) (now : Int)

def setOneFactorReauthenticate (details : UserDetails) : UserSession :=
  { s with firstFactorAuthnTimestamp := unix now, lastActivity := unix now,
           displayName := details.displayName, groups := details.groups,
           emails := details.emails }

def setOneFactor (details : UserDetails) (keepMeLoggedIn : Bool) : UserSession :=
  setOneFactorReauthenticate
    { s with firstFactorAuthnTimestamp := unix now, lastActivity := unix now,
             keepMeLoggedIn := keepMeLoggedIn, username := details.username } now details

/-- `setWebAuthn`; the registration data the Go code clears is not modelled. -/
def setWebAuthn (hardware userPresence userVerified : Bool) : UserSession :=
  let amr := { s.authenticationMethodRefs with
    webAuthn := true, webAuthnUserPresence := userPresence, webAuthnUserVerified := userVerified }
  { s with authenticationMethodRefs :=
      if hardware then { amr with webAuthnHardware := true } else { amr with webAuthnSoftware := true } }

def setOneFactorPassword (details : UserDetails) (keepMeLoggedIn : Bool) : UserSession :=
  let s := s.setOneFactor now details keepMeLoggedIn
  { s with authenticationMethodRefs := { s.authenticationMethodRefs with
      knowledgeBasedAuthentication := true, usernameAndPassword := true } }

def setOneFactorPasskey (details : UserDetails)
    (keepMeLoggedIn hardware userPresence userVerified : Bool) : UserSession :=
  (s.setOneFactor now details keepMeLoggedIn).setWebAuthn hardware userPresence userVerified

def setTwoFactor : UserSession :=
  { s with secondFactorAuthnTimestamp := unix now, lastActivity := unix now }

def setTwoFactorTOTP : UserSession :=
  let s := s.setTwoFactor now
  { s with authenticationMethodRefs := { s.authenticationMethodRefs with totp := true } }

def setTwoFactorDuo : UserSession :=
  let s := s.setTwoFactor now
  { s with authenticationMethodRefs := { s.authenticationMethodRefs with duo := true } }

def setTwoFactorWebAuthn (hardware userPresence userVerified : Bool) : UserSession :=
  (s.setTwoFactor now).setWebAuthn hardware userPresence userVerified

def setTwoFactorPassword : UserSession :=
  let s := s.setTwoFactor now
  { s with authenticationMethodRefs := { s.authenticationMethodRefs with
      knowledgeBasedAuthentication := true, usernameAndPassword := true } }

end Steps

end UserSession

/-- A call of one of the setters by a login handler, once it has checked the credentials. -/
inductive LoginStep
  | oneFactorPassword (details : UserDetails) (keepMeLoggedIn : Bool)
  | oneFactorPasskey (details : UserDetails) (keepMeLoggedIn hardware userPresence userVerified : Bool)
  | oneFactorReauthenticate (details : UserDetails)
  | twoFactorTOTP
  | twoFactorDuo
  | twoFactorWebAuthn (hardware userPresence userVerified : Bool)
  | twoFactorPassword
  deriving DecidableEq, Repr

namespace LoginStep

def firstFactorUsername : LoginStep → Option (List Char)
  | oneFactorPassword details _ => some details.username
  | oneFactorPasskey details _ _ _ _ => some details.username
  | _ => none

def setsKnowledge : LoginStep → Bool
  | oneFactorPassword .. | twoFactorPassword => true
  | _ => false

/-- The step records a one-time code, Duo or a WebAuthn credential, a "something you have"
factor. -/
def setsPossession : LoginStep → Bool
  | oneFactorPasskey .. | twoFactorTOTP | twoFactorDuo | twoFactorWebAuthn .. => true
  | _ => false

/-- The step records a WebAuthn assertion with user verification. -/
def setsUserVerified : LoginStep → Bool
  | oneFactorPasskey _ _ _ _ userVerified => userVerified
  | twoFactorWebAuthn _ _ userVerified => userVerified
  | _ => false

end LoginStep

namespace UserSession

def apply (s : UserSession) (now : Int) : LoginStep → UserSession
  | .oneFactorPassword details keep => s.setOneFactorPassword now details keep
  | .oneFactorPasskey details keep hardware up uv => s.setOneFactorPasskey now details keep hardware up uv
  | .oneFactorReauthenticate details => s.setOneFactorReauthenticate now details
  | .twoFactorTOTP => s.setTwoFactorTOTP now
  | .twoFactorDuo => s.setTwoFactorDuo now
  | .twoFactorWebAuthn hardware up uv => s.setTwoFactorWebAuthn now hardware up uv
  | .twoFactorPassword => s.setTwoFactorPassword now

def run (s : UserSession) : List (Int × LoginStep) → UserSession
  | [] => s
  | (now, step) :: steps => (s.apply now step).run steps

/-! ### What one step sets -/

section Step
variable (s : UserSession) (now : Int)

theorem username_apply (step : LoginStep) :
    (s.apply now step).username = (step.firstFactorUsername.getD s.username) := by
  cases step <;> rfl

theorem factorKnowledge_apply (step : LoginStep)
    (h : (s.apply now step).authenticationMethodRefs.factorKnowledge = true) :
    s.authenticationMethodRefs.factorKnowledge = true ∨ step.setsKnowledge = true := by
  cases step with
  | oneFactorPasskey details keep hardware up uv =>
    left
    cases hardware <;> simpa [apply, setOneFactorPasskey, setWebAuthn, setOneFactor,
      setOneFactorReauthenticate, AuthenticationMethodsReferences.factorKnowledge] using h
  | twoFactorWebAuthn hardware up uv =>
    left
    cases hardware <;> simpa [apply, setTwoFactorWebAuthn, setWebAuthn, setTwoFactor,
      AuthenticationMethodsReferences.factorKnowledge] using h
  | oneFactorPassword | twoFactorPassword => exact Or.inr rfl
  | _ => exact Or.inl h

theorem factorPossession_apply (step : LoginStep)
    (h : (s.apply now step).authenticationMethodRefs.factorPossession = true) :
    s.authenticationMethodRefs.factorPossession = true ∨ step.setsPossession = true := by
  cases step with
  | oneFactorPassword details keep =>
    left
    simpa [apply, setOneFactorPassword, setOneFactor, setOneFactorReauthenticate,
      AuthenticationMethodsReferences.factorPossession] using h
  | twoFactorPassword =>
    left
    simpa [apply, setTwoFactorPassword, setTwoFactor,
      AuthenticationMethodsReferences.factorPossession] using h
  | oneFactorReauthenticate details => exact Or.inl h
  | _ => exact Or.inr rfl

theorem webAuthnUserVerified_apply (step : LoginStep)
    (h : (s.apply now step).authenticationMethodRefs.webAuthnUserVerified = true) :
    s.authenticationMethodRefs.webAuthnUserVerified = true ∨ step.setsUserVerified = true := by
  cases step with
  | oneFactorPasskey details keep hardware up uv =>
    right
    cases hardware <;> simpa [apply, setOneFactorPasskey, setWebAuthn, LoginStep.setsUserVerified]
      using h
  | twoFactorWebAuthn hardware up uv =>
    right
    cases hardware <;> simpa [apply, setTwoFactorWebAuthn, setWebAuthn, LoginStep.setsUserVerified]
      using h
  | _ => exact Or.inl h

end Step

/-! ### Whole runs of login steps -/

theorem username_run (s : UserSession) (steps : List (Int × LoginStep)) :
    (s.run steps).username = s.username ∨
      ∃ step ∈ steps, step.2.firstFactorUsername = some (s.run steps).username := by
  induction steps generalizing s with
  | nil => exact Or.inl rfl
  | cons step steps ih =>
    obtain ⟨now, step⟩ := step
    rcases ih (s.apply now step) with hsame | ⟨st, hst, hname⟩
    · -- the rest of the run kept the name this step left
      rw [run, hsame, username_apply]
      cases hfirst : step.firstFactorUsername with
      | none => exact Or.inl rfl
      | some name => exact Or.inr ⟨(now, step), List.mem_cons_self, by rw [hfirst]; rfl⟩
    · exact Or.inr ⟨st, List.mem_cons_of_mem _ hst, hname⟩

theorem flag_run {f : UserSession → Bool} {g : LoginStep → Bool}
    (hstep : ∀ s now step, f (s.apply now step) = true → f s = true ∨ g step = true)
    (s : UserSession) (steps : List (Int × LoginStep)) (h : f (s.run steps) = true) :
    f s = true ∨ ∃ step ∈ steps, g step.2 = true := by
  induction steps generalizing s with
  | nil => exact Or.inl h
  | cons step steps ih =>
    obtain ⟨now, step⟩ := step
    rcases ih (s.apply now step) h with hflag | ⟨st, hst, hsets⟩
    · rcases hstep s now step hflag with hold | hnew
      · exact Or.inl hold
      · exact Or.inr ⟨(now, step), List.mem_cons_self, hnew⟩
    · exact Or.inr ⟨st, List.mem_cons_of_mem _ hst, hsets⟩

/-- Login steps raise a fresh session only as far as they prove: it is authenticated only after a
first factor that named a user, and at two factors only after a knowledge and a possession step,
or a user-verified WebAuthn step where passkeys count as two factors. -/
theorem authenticationLevel_run_newDefaultUserSession (domain : List Char)
    (steps : List (Int × LoginStep)) (passkey2FA : Bool) :
    ((newDefaultUserSession domain).run steps).authenticationLevel passkey2FA ≠ .notAuthenticated →
        ∃ step ∈ steps, ∃ name, step.2.firstFactorUsername = some name ∧ name ≠ [] ∧
          ((newDefaultUserSession domain).run steps).username = name := by
  intro hauth
  set s := (newDefaultUserSession domain).run steps
  have hname : s.username ≠ [] := fun h => hauth (authenticationLevel_of_username_nil s h _)
  rcases username_run (newDefaultUserSession domain) steps with hsame | ⟨step, hstep, hfirst⟩
  · exact absurd hsame hname
  · exact ⟨step, hstep, s.username, hfirst, hname, rfl⟩

def passwordThenTOTP : List (Int × LoginStep) :=
  [(0, .oneFactorPassword { username := "john".toList } false), (30000000000, .twoFactorTOTP)]

theorem authenticationLevel_run_passwordThenTOTP :
    ((newDefaultUserSession "example.com".toList).run passwordThenTOTP).authenticationLevel false ≠
        .notAuthenticated ∧
      ∃ step ∈ passwordThenTOTP, ∃ name, step.2.firstFactorUsername = some name ∧ name ≠ [] ∧
        ((newDefaultUserSession "example.com".toList).run passwordThenTOTP).username = name := by
  have h : ((newDefaultUserSession "example.com".toList).run passwordThenTOTP).authenticationLevel
      false ≠ .notAuthenticated := by decide
  exact ⟨h, authenticationLevel_run_newDefaultUserSession _ _ _ h⟩

theorem factors_run_newDefaultUserSession (domain : List Char) (steps : List (Int × LoginStep))
    (passkey2FA : Bool)
    (h : ((newDefaultUserSession domain).run steps).authenticationLevel passkey2FA = .twoFactor) :
    ((∃ step ∈ steps, step.2.setsKnowledge = true) ∧ ∃ step ∈ steps, step.2.setsPossession = true) ∨
      (passkey2FA = true ∧ ∃ step ∈ steps, step.2.setsUserVerified = true) := by
  -- a fresh session has no flag set, so each flag the run leaves set comes from a step
  rcases factors_of_authenticationLevel_eq_twoFactor _ h with ⟨hknow, hposs⟩ | ⟨hpk, -, huv⟩
  · refine Or.inl ⟨?_, ?_⟩
    · exact (flag_run (f := fun s => s.authenticationMethodRefs.factorKnowledge)
        factorKnowledge_apply _ steps hknow).resolve_left Bool.false_ne_true
    · exact (flag_run (f := fun s => s.authenticationMethodRefs.factorPossession)
        factorPossession_apply _ steps hposs).resolve_left Bool.false_ne_true
  · exact Or.inr ⟨hpk, (flag_run (f := fun s => s.authenticationMethodRefs.webAuthnUserVerified)
      webAuthnUserVerified_apply _ steps huv).resolve_left Bool.false_ne_true⟩

theorem factors_run_passwordThenTOTP :
    ((newDefaultUserSession "example.com".toList).run passwordThenTOTP).authenticationLevel false =
        .twoFactor ∧
      (((∃ step ∈ passwordThenTOTP, step.2.setsKnowledge = true) ∧
          ∃ step ∈ passwordThenTOTP, step.2.setsPossession = true) ∨
        (false = true ∧ ∃ step ∈ passwordThenTOTP, step.2.setsUserVerified = true)) := by
  have h : ((newDefaultUserSession "example.com".toList).run passwordThenTOTP).authenticationLevel
      false = .twoFactor := by decide
  exact ⟨h, factors_run_newDefaultUserSession _ _ _ h⟩

end UserSession

end Session

end Authelia
