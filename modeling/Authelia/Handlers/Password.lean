import Mathlib
import Authelia.Regulation.Regulator
import Authelia.Handlers.Authz

/-! The handlers that check a user's password (`handler_firstfactor_password.go`,
`handler_sign_password.go`, `handler_authz_authn.go`) and what they tell the regulator. A request
runs in `RequestM`: it reads and writes the regulation tables, and each call of
`UserProvider.CheckUserPassword` is recorded with its arguments. What a handler does after a
successful attempt (the session, the redirection) and the texts it logs are left out. -/

namespace Authelia.Handlers
open Std.Do Regulation Storage RegulationTables

set_option mvcgen.warning false

/-- `authentication.UserDetails`, of which these handlers read the username. -/
structure UserDetails where
  username : List Char
  deriving DecidableEq, Repr

inductive ProviderError
  | userNotFound
  | deadline
  | other
  deriving DecidableEq, Repr

def isRegulatorSkippedErr : ProviderError → Bool
  | .deadline => true
  | _ => false

structure UserProvider where
  getDetails : List Char → Except ProviderError (Option UserDetails)
  checkUserPassword : List Char → List Char → Except ProviderError Bool

structure World where
  store : RegulationTables
  checks : List (List Char × List Char) := []

structure Request where
  now : Int
  remoteIP : List Char
  deriving DecidableEq, Repr

abbrev RequestM := StateM World

def checkUserPassword (up : UserProvider) (username password : List Char) :
    RequestM (Except ProviderError Bool) := do
  modify fun w => { w with checks := w.checks ++ [(username, password)] }
  return up.checkUserPassword username password

def regulatorBanCheck (req : Request) (username : List Char) : RequestM Ban := do
  return banCheck (← get).store req.remoteIP username req.now

def doMarkAuthenticationAttempt (r : Regulator) (req : Request) (successful : Bool) (ban : Ban)
    (authType : List Char) : RequestM Unit :=
  modify fun w =>
    { w with store := r.handleAttempt req.now req.remoteIP successful ban authType w.store }

/-- How a password request ends: `respondUnauthorized`, or past the password check. -/
inductive Response
  | unauthorized
  | authenticated
  deriving DecidableEq, Repr

structure BodyFirstFactorRequest where
  username : List Char
  password : List Char
  deriving DecidableEq, Repr

/-! ### The handlers

`none` for a body is a `ParseBody` error, and `none` for a session an error of the session
provider; a session carries its username. -/

def firstFactorPasswordPOST (r : Regulator) (up : UserProvider) (req : Request)
    (body : Option BodyFirstFactorRequest) : RequestM Response := do
  let some body := body | return .unauthorized
  match up.getDetails body.username with
  | .error _ | .ok none =>
    doMarkAuthenticationAttempt r req false ⟨.unknown, [], none⟩ authType1FA
    return .unauthorized
  | .ok (some details) =>
    let ban ← regulatorBanCheck req details.username
    if ban.isBanned then
      doMarkAuthenticationAttempt r req false ⟨ban.ban, details.username, ban.expires⟩ authType1FA
      return .unauthorized
    match ← checkUserPassword up details.username body.password with
    | .error err =>
      if !isRegulatorSkippedErr err then
        doMarkAuthenticationAttempt r req false ⟨.none, details.username, none⟩ authType1FA
      return .unauthorized
    | .ok false =>
      doMarkAuthenticationAttempt r req false ⟨.none, details.username, none⟩ authType1FA
      return .unauthorized
    | .ok true =>
      doMarkAuthenticationAttempt r req true ⟨.none, details.username, none⟩ authType1FA
      return .authenticated

def firstFactorReauthenticatePOST (r : Regulator) (up : UserProvider) (req : Request)
    (password : Option (List Char)) (session : Option (List Char)) : RequestM Response := do
  let some password := password | return .unauthorized
  let some username := session | return .unauthorized
  let ban ← regulatorBanCheck req username
  if ban.isBanned then
    doMarkAuthenticationAttempt r req false ban authType1FA
    return .unauthorized
  match ← checkUserPassword up username password with
  | .error _ | .ok false =>
    doMarkAuthenticationAttempt r req false ⟨.none, username, none⟩ authType1FA
    return .unauthorized
  | .ok true =>
    doMarkAuthenticationAttempt r req true ⟨.none, username, none⟩ authType1FA
    return .authenticated

/-- The knowledge factor after a passkey login: no `BanCheck`, and attempts of type `Password`. -/
def secondFactorPasswordPOST (r : Regulator) (up : UserProvider) (req : Request)
    (password : Option (List Char)) (session : Option (List Char)) : RequestM Response := do
  let some password := password | return .unauthorized
  let some username := session | return .unauthorized
  match ← checkUserPassword up username password with
  | .error _ | .ok false =>
    doMarkAuthenticationAttempt r req false ⟨.none, username, none⟩ authTypePassword
    return .unauthorized
  | .ok true =>
    doMarkAuthenticationAttempt r req true ⟨.none, username, none⟩ authTypePassword
    return .authenticated

/-- `DefaultBasicAuthHandler`: the provider's answer, never from a cache. -/
def defaultBasicAuthHandler (up : UserProvider) (username password : List Char) :
    RequestM (Except ProviderError (Bool × Bool)) := do
  match ← checkUserPassword up username password with
  | .ok valid => return .ok (valid, false)
  | .error err => return .error err

/-- `handleGetBasic` with the credentials of the `Authorization` header. -/
def handleGetBasic (r : Regulator) (up : UserProvider) (req : Request)
    (validate : List Char → List Char → RequestM (Except ProviderError (Bool × Bool)))
    (username password : List Char) : RequestM Authentication.Level := do
  if username = [] ∨ password = [] then return .notAuthenticated
  match up.getDetails username with
  | .error err =>
    if err = .userNotFound then
      doMarkAuthenticationAttempt r req false ⟨.unknown, [], none⟩ authType1FA
    return .notAuthenticated
  | .ok none =>
    doMarkAuthenticationAttempt r req false ⟨.unknown, [], none⟩ authType1FA
    return .notAuthenticated
  | .ok (some details) =>
    let ban ← regulatorBanCheck req details.username
    if ban.isBanned then
      doMarkAuthenticationAttempt r req false ban authType1FA
      return .notAuthenticated
    match ← validate details.username password with
    | .error err =>
      if !isRegulatorSkippedErr err then
        doMarkAuthenticationAttempt r req false ⟨.none, details.username, none⟩ authType1FA
      return .notAuthenticated
    | .ok (false, _) =>
      doMarkAuthenticationAttempt r req false ⟨.none, details.username, none⟩ authType1FA
      return .notAuthenticated
    | .ok (true, cached) =>
      if !cached then
        doMarkAuthenticationAttempt r req true ⟨.none, details.username, none⟩ authType1FA
      return .oneFactor

/-! ### Password checks and bans

Each request starts with no check recorded, from the tables `s₀`. -/

section Checks
variable (r : Regulator) (up : UserProvider) (req : Request) (s₀ : RegulationTables)

/-- Every password the request checked is of a user for whom `BanCheck` reports no ban, for the
user or for the remote IP, in the tables the request started from. -/
def ChecksUnbanned (w : World) : Prop :=
  ∀ u p, (u, p) ∈ w.checks → (banCheck s₀ req.remoteIP u req.now).isBanned = false

theorem checksUnbanned_nil (store : RegulationTables) : ChecksUnbanned req s₀ ⟨store, []⟩ :=
  fun _ _ h => absurd h List.not_mem_nil

theorem checksUnbanned_singleton {u : List Char} (p : List Char)
    (hban : ¬(banCheck s₀ req.remoteIP u req.now).isBanned = true) (store : RegulationTables) :
    ChecksUnbanned req s₀ ⟨store, [] ++ [(u, p)]⟩ := by
  intro u' p' h
  obtain ⟨rfl, rfl⟩ : u' = u ∧ p' = p := by simpa using h
  simpa using hban

theorem firstFactorPasswordPOST_checksUnbanned (body : Option BodyFirstFactorRequest) :
    ⦃fun w => ⌜w = ⟨s₀, []⟩⌝⦄ firstFactorPasswordPOST r up req body
    ⦃⇓ _ w => ⌜ChecksUnbanned req s₀ w⌝⦄ := by
  mvcgen [firstFactorPasswordPOST, regulatorBanCheck, checkUserPassword,
    doMarkAuthenticationAttempt]
  -- every branch either checks no password, or one after a ban check that reported no ban
  all_goals
    subst_vars
    first
      | exact checksUnbanned_nil req _ _
      | exact checksUnbanned_singleton req _ _ ‹_› _

theorem firstFactorReauthenticatePOST_checksUnbanned (password session : Option (List Char)) :
    ⦃fun w => ⌜w = ⟨s₀, []⟩⌝⦄ firstFactorReauthenticatePOST r up req password session
    ⦃⇓ _ w => ⌜ChecksUnbanned req s₀ w⌝⦄ := by
  mvcgen [firstFactorReauthenticatePOST, regulatorBanCheck, checkUserPassword,
    doMarkAuthenticationAttempt]
  all_goals
    subst_vars
    first
      | exact checksUnbanned_nil req _ _
      | exact checksUnbanned_singleton req _ _ ‹_› _

theorem handleGetBasic_checksUnbanned (username password : List Char) :
    ⦃fun w => ⌜w = ⟨s₀, []⟩⌝⦄ handleGetBasic r up req (defaultBasicAuthHandler up) username password
    ⦃⇓ _ w => ⌜ChecksUnbanned req s₀ w⌝⦄ := by
  mvcgen [handleGetBasic, regulatorBanCheck, defaultBasicAuthHandler, checkUserPassword,
    doMarkAuthenticationAttempt]
  all_goals
    subst_vars
    first
      | exact checksUnbanned_nil req _ _
      | exact checksUnbanned_singleton req _ _ ‹_› _

/-- A check that fails in a way the handlers report to the regulator: a wrong password, or an
error other than a deadline. -/
def isRegulatedFailure : Except ProviderError Bool → Bool
  | .ok false => true
  | .error err => !isRegulatorSkippedErr err
  | .ok true => false

/-- Every failed check of the request was passed to `HandleAttempt` as a failed `1FA` attempt of
the user, and that is all the request wrote. -/
def FailuresMarked (w : World) : Prop :=
  ∀ u p, (u, p) ∈ w.checks → isRegulatedFailure (up.checkUserPassword u p) = true →
    w.store = r.handleAttempt req.now req.remoteIP false ⟨.none, u, none⟩ authType1FA s₀

theorem failuresMarked_nil (store : RegulationTables) : FailuresMarked r up req s₀ ⟨store, []⟩ :=
  fun _ _ h => absurd h List.not_mem_nil

theorem failuresMarked_mark (u p : List Char) :
    FailuresMarked r up req s₀
      ⟨r.handleAttempt req.now req.remoteIP false ⟨.none, u, none⟩ authType1FA s₀, [] ++ [(u, p)]⟩ := by
  intro u' p' h _
  obtain ⟨rfl, rfl⟩ : u' = u ∧ p' = p := by simpa using h
  rfl

theorem failuresMarked_of_not_failure {u p : List Char}
    (hok : isRegulatedFailure (up.checkUserPassword u p) = false) (store : RegulationTables) :
    FailuresMarked r up req s₀ ⟨store, [] ++ [(u, p)]⟩ := by
  intro u' p' h hfail
  obtain ⟨rfl, rfl⟩ : u' = u ∧ p' = p := by simpa using h
  simp [hok] at hfail

theorem firstFactorPasswordPOST_failuresMarked (body : Option BodyFirstFactorRequest) :
    ⦃fun w => ⌜w = ⟨s₀, []⟩⌝⦄ firstFactorPasswordPOST r up req body
    ⦃⇓ _ w => ⌜FailuresMarked r up req s₀ w⌝⦄ := by
  mvcgen [firstFactorPasswordPOST, regulatorBanCheck, checkUserPassword,
    doMarkAuthenticationAttempt]
  -- no check, a failed check that is marked, or a check that succeeded or hit a deadline
  all_goals
    subst_vars
    first
      | exact failuresMarked_nil r up req _ _
      | exact failuresMarked_mark r up req _ _ _
      | exact failuresMarked_of_not_failure r up req _ (by simp_all [isRegulatedFailure]) _

theorem firstFactorReauthenticatePOST_failuresMarked (password session : Option (List Char)) :
    ⦃fun w => ⌜w = ⟨s₀, []⟩⌝⦄ firstFactorReauthenticatePOST r up req password session
    ⦃⇓ _ w => ⌜FailuresMarked r up req s₀ w⌝⦄ := by
  mvcgen [firstFactorReauthenticatePOST, regulatorBanCheck, checkUserPassword,
    doMarkAuthenticationAttempt]
  all_goals
    subst_vars
    first
      | exact failuresMarked_nil r up req _ _
      | exact failuresMarked_mark r up req _ _ _
      | exact failuresMarked_of_not_failure r up req _ (by simp_all [isRegulatedFailure]) _

theorem handleGetBasic_failuresMarked (username password : List Char) :
    ⦃fun w => ⌜w = ⟨s₀, []⟩⌝⦄ handleGetBasic r up req (defaultBasicAuthHandler up) username password
    ⦃⇓ _ w => ⌜FailuresMarked r up req s₀ w⌝⦄ := by
  mvcgen [handleGetBasic, regulatorBanCheck, defaultBasicAuthHandler, checkUserPassword,
    doMarkAuthenticationAttempt]
  all_goals
    subst_vars
    first
      | exact failuresMarked_nil r up req _ _
      | exact failuresMarked_mark r up req _ _ _
      | exact failuresMarked_of_not_failure r up req _ (by simp_all [isRegulatedFailure]) _

/-- The request checked `u`'s password while `BanCheck` reports a ban for `u` or for the remote
IP, and left the bans and the regulation records of `u` and of the IP as they were. -/
def CheckedUnregulated (u p : List Char) (w : World) : Prop :=
  (u, p) ∈ w.checks ∧ (banCheck w.store req.remoteIP u req.now).isBanned = true ∧
    w.store.bannedUsers = s₀.bannedUsers ∧ w.store.bannedIPs = s₀.bannedIPs ∧
    ∀ since limit,
      w.store.loadRegulationRecordsByUser u since limit =
          s₀.loadRegulationRecordsByUser u since limit ∧
        w.store.loadRegulationRecordsByIP req.remoteIP since limit =
          s₀.loadRegulationRecordsByIP req.remoteIP since limit

/-- With a ban in effect for the user or for the remote IP, `SecondFactorPasswordPOST` checks the
user's password, and whatever the check returns the attempt it reports is of type `Password`,
which adds no ban and no regulation record. -/
theorem secondFactorPasswordPOST_checks_banned_unregulated (u p : List Char)
    (hban : (banCheck s₀ req.remoteIP u req.now).isBanned = true) :
    ⦃fun w => ⌜w = ⟨s₀, []⟩⌝⦄ secondFactorPasswordPOST r up req (some p) (some u)
    ⦃⇓ _ w => ⌜CheckedUnregulated req s₀ u p w⌝⦄ := by
  mvcgen [secondFactorPasswordPOST, checkUserPassword, doMarkAuthenticationAttempt]
  -- every branch checks the password and then reports a `Password` attempt
  all_goals
    subst_vars
    obtain ⟨husers, hips, hrecords⟩ :=
      r.handleAttempt_authTypePassword req.now req.remoteIP _ ⟨.none, u, none⟩ s₀
    refine ⟨List.mem_singleton_self _, ?_, husers, hips, fun since limit => hrecords u since limit⟩
    exact (congrArg Ban.isBanned (banCheck_eq_of_bans husers hips _ _ _)).trans hban

def johnBanned : RegulationTables :=
  { bannedUsers := [{ expires := some 1200, value := "john".toList }] }

theorem secondFactorPasswordPOST_checks_banned_unregulated_john :
    (banCheck johnBanned "192.0.2.1".toList "john".toList 1000).isBanned = true ∧
      ⦃fun w => ⌜w = ⟨johnBanned, []⟩⌝⦄
        secondFactorPasswordPOST (newRegulator ⟨3, 120, 300, ["user".toList, "ip".toList]⟩)
          ⟨fun u => .ok (some ⟨u⟩), fun _ p => .ok (p == "secret".toList)⟩
          ⟨1000, "192.0.2.1".toList⟩ (some "guess".toList) (some "john".toList)
      ⦃⇓ _ w => ⌜CheckedUnregulated ⟨1000, "192.0.2.1".toList⟩ johnBanned "john".toList
        "guess".toList w⌝⦄ :=
  ⟨by decide, secondFactorPasswordPOST_checks_banned_unregulated _ _ _ _ _ _ (by decide)⟩

end Checks

/-! ### Requests one after another -/

inductive PasswordRequest
  | firstFactor (req : Request) (body : Option BodyFirstFactorRequest)
  | reauthenticate (req : Request) (password session : Option (List Char))
  | secondFactor (req : Request) (password session : Option (List Char))
  | basic (req : Request) (username password : List Char)

namespace PasswordRequest
variable (r : Regulator) (up : UserProvider)

def req : PasswordRequest → Request
  | .firstFactor req _ | .reauthenticate req _ _ | .secondFactor req _ _ | .basic req _ _ => req

/-- The uncached basic handler, the one `NewBasicAuthHandler` picks for a zero lifespan. -/
def handle : PasswordRequest → RequestM Unit
  | .firstFactor req body => do
    let _ ← firstFactorPasswordPOST r up req body
  | .reauthenticate req password session => do
    let _ ← firstFactorReauthenticatePOST r up req password session
  | .secondFactor req password session => do
    let _ ← secondFactorPasswordPOST r up req password session
  | .basic req username password => do
    let _ ← handleGetBasic r up req (defaultBasicAuthHandler up) username password

def isRegulated : PasswordRequest → Bool
  | .secondFactor .. => false
  | _ => true

theorem extends_handle (q : PasswordRequest) (s : RegulationTables) :
    s.Extends ((q.handle r up).run ⟨s, []⟩).2.store := by
  have h : ⦃fun w => ⌜w = ⟨s, []⟩⌝⦄ q.handle r up ⦃⇓ _ w => ⌜s.Extends w.store⌝⦄ := by
    cases q <;> mvcgen [handle, firstFactorPasswordPOST, firstFactorReauthenticatePOST,
      secondFactorPasswordPOST, handleGetBasic, defaultBasicAuthHandler, regulatorBanCheck,
      checkUserPassword, doMarkAuthenticationAttempt]
    -- a request writes at most one attempt
    all_goals
      subst_vars
      first
        | exact Extends.refl _
        | exact r.extends_handleAttempt _ _ _ _ _ _
  exact h ⟨s, []⟩ rfl

theorem checksUnbanned_handle {q : PasswordRequest} (hq : q.isRegulated = true)
    (s : RegulationTables) : ChecksUnbanned q.req s ((q.handle r up).run ⟨s, []⟩).2 := by
  cases q with
  | firstFactor req body => exact firstFactorPasswordPOST_checksUnbanned r up req s body _ rfl
  | reauthenticate req password session =>
    exact firstFactorReauthenticatePOST_checksUnbanned r up req s password session _ rfl
  | secondFactor => cases hq
  | basic req username password =>
    exact handleGetBasic_checksUnbanned r up req s username password _ rfl

end PasswordRequest

def johnRegulator : Regulator := newRegulator ⟨3, 120, 300, ["user".toList, "ip".toList]⟩

def johnProvider : UserProvider := ⟨fun u => .ok (some ⟨u⟩), fun _ p => .ok (p == "secret".toList)⟩

def johnLogin : PasswordRequest :=
  .firstFactor ⟨1000, "192.0.2.1".toList⟩ (some ⟨"john".toList, "guess".toList⟩)

/-- Requests served one after another: the tables carry over, and the checks of each request are
kept apart. -/
def serve (r : Regulator) (up : UserProvider) :
    List PasswordRequest → RegulationTables → RegulationTables × List (List (List Char × List Char))
  | [], s => (s, [])
  | q :: qs, s =>
    let w := ((q.handle r up).run ⟨s, []⟩).2
    let rest := serve r up qs w.store
    (rest.1, w.checks :: rest.2)

/-- Over every sequence of requests on the regulated paths, a request whose user, or whose remote
IP, has a ban in effect at its time in the tables the sequence started from checks no password of
that user: a ban holds until it expires. -/
theorem serve_no_check_while_banned (r : Regulator) (up : UserProvider) (qs : List PasswordRequest)
    (hreg : ∀ q ∈ qs, q.isRegulated = true) (s : RegulationTables) {q : PasswordRequest}
    {checks : List (List Char × List Char)} (h : (q, checks) ∈ qs.zip (serve r up qs s).2)
    {u : List Char} (hban : (banCheck s q.req.remoteIP u q.req.now).isBanned = true)
    (p : List Char) : (u, p) ∉ checks := by
  induction qs generalizing s with
  | nil => simp [serve] at h
  | cons q₁ qs ih =>
    simp only [serve, List.zip_cons_cons, List.mem_cons, Prod.mk.injEq] at h
    rcases h with ⟨rfl, rfl⟩ | htail
    · -- the first request checks only users that `BanCheck` lets through
      intro hmem
      have hfree :=
        PasswordRequest.checksUnbanned_handle r up (hreg q List.mem_cons_self) s u p hmem
      simp [hfree] at hban
    · -- a later request starts from tables that still hold the ban
      exact ih (fun q' hq' => hreg q' (List.mem_cons_of_mem q₁ hq')) _ htail
        (banCheck_isBanned_of_extends (PasswordRequest.extends_handle r up q₁ s) hban)

theorem serve_no_check_while_banned_johnBanned :
    (∀ q ∈ [johnLogin], q.isRegulated = true) ∧
      (johnLogin, ((johnLogin.handle johnRegulator johnProvider).run ⟨johnBanned, []⟩).2.checks) ∈
        [johnLogin].zip (serve johnRegulator johnProvider [johnLogin] johnBanned).2 ∧
      (banCheck johnBanned johnLogin.req.remoteIP "john".toList johnLogin.req.now).isBanned = true ∧
      ("john".toList, "secret".toList) ∉
        ((johnLogin.handle johnRegulator johnProvider).run ⟨johnBanned, []⟩).2.checks := by
  have hreg : ∀ q ∈ [johnLogin], q.isRegulated = true := by simp [johnLogin, PasswordRequest.isRegulated]
  have hmem : (johnLogin, ((johnLogin.handle johnRegulator johnProvider).run
      ⟨johnBanned, []⟩).2.checks) ∈ [johnLogin].zip
        (serve johnRegulator johnProvider [johnLogin] johnBanned).2 := by
    simp [serve]
  have hban : (banCheck johnBanned johnLogin.req.remoteIP "john".toList
      johnLogin.req.now).isBanned = true := by decide
  exact ⟨hreg, hmem, hban, serve_no_check_while_banned johnRegulator johnProvider [johnLogin] hreg
    johnBanned hmem hban _⟩

end Authelia.Handlers
