import Authelia.Lib.Interleaving
import Authelia.Session.UserSession

/-! `TimeBasedOneTimePasswordPOST` (`handler_sign_totp.go`) and the TOTP history it keeps
(`sql_provider.go`; the `totp_history` table of `V0015.TOTPEnhance.up.sql`). The handler checks a
code in Go, `ExistsTOTPHistory` then reads the history, and `SaveTOTPHistory` inserts the code's
row, which the unique index `totp_history_lookup_key (username, step)` refuses a second time. Each
statement is one atomic step of the interleaving of concurrent requests, and the history is the
store they share. Unless `DisableReuseSecurityPolicy` is set, a code signs its user in at most
once, however the requests interleave. -/

namespace Authelia.Handlers
open Interleaving

/-- `model.TOTPConfiguration`, with the fields `Validate`, the handlers and the registration read. -/
structure TOTPConfiguration where
  username : List Char
  issuer : List Char
  algorithm : List Char
  digits : Nat
  period : Nat
  secret : List Char
  deriving DecidableEq, Repr

/-- `bodySignTOTPRequest`, of which the handler checks the token; the flow and the target URL only
choose the reply after a sign-in. -/
structure BodySignTOTPRequest where
  token : List Char
  deriving DecidableEq, Repr

/-- What one request brings: the session `GetSession` loads (`none` for its error), the body
(`none` for a `ParseBody` error), the clock, whether the backend fails the history statements, and
whether the calls after the sign-in (`RegenerateSession`, `UpdateTOTPConfigurationSignIn`,
`SaveSession`) succeed. -/
structure SignTOTPRequest where
  session : Option Session.UserSession
  body : Option BodySignTOTPRequest
  now : Int
  existsTOTPHistoryFails : Bool
  saveTOTPHistoryFails : Bool
  signInSaved : Bool
  deriving DecidableEq, Repr

/-- The providers the handler calls and the policy it reads: `TOTP.Validate` at a clock reading
(whether the token is valid, and its step; `none` for an error), the configuration `LoadTOTPConfiguration`
finds (`none` for either of its errors), and the hex HMAC-SHA256 under the one-time password key. -/
structure SignTOTPProviders where
  validate : List Char → TOTPConfiguration → Int → Option (Bool × Nat)
  loadTOTPConfiguration : List Char → Option TOTPConfiguration
  otpHMAC : List Char → List Char
  disableReuseSecurityPolicy : Bool

/-! ### The history -/

/-- Why a statement of the SQL provider fails: an error of the backend itself (a lost connection, a
timeout), or the unique index refusing an insert. -/
inductive StorageError
  | backend
  | uniqueViolation
  deriving DecidableEq, Repr

section History
variable (otpHMAC : List Char → List Char)

/-- `otpHMACSignature`: the HMAC of the values written one after another. -/
def otpHMACSignature (values : List (List Char)) : List Char :=
  otpHMAC values.flatten

/-- The `totp_history` row that `SaveTOTPHistory` and `ExistsTOTPHistory` name for a user and a
step: the username, and `strconv.FormatUint(step, 10)` signed with the username. -/
def totpHistoryRow (username : List Char) (step : Nat) : List Char × List Char :=
  (username, otpHMACSignature otpHMAC [Go.itoa step, username])

/-- `ExistsTOTPHistory`: `SELECT COUNT(id) ... WHERE username = ? AND step = ?` is not zero, or
the backend's error. -/
def existsTOTPHistory (fails : Bool) (history : List (List Char × List Char)) (username : List Char)
    (step : Nat) : Except StorageError Bool :=
  if fails then .error .backend
  else .ok (history.count (totpHistoryRow otpHMAC username step) != 0)

/-- `SaveTOTPHistory`: the `INSERT`, which the unique index refuses for a row already there. A
statement the backend fails writes nothing. -/
def saveTOTPHistory (fails : Bool) (history : List (List Char × List Char)) (username : List Char)
    (step : Nat) : Except StorageError (List (List Char × List Char)) :=
  if fails then .error .backend
  else if history.contains (totpHistoryRow otpHMAC username step) then .error .uniqueViolation
  else .ok (history ++ [totpHistoryRow otpHMAC username step])

end History

/-- How a request ends: `403` with `messageMFAValidationFailed`, `400`, or the reply of
`Handle2FAResponse` or `handleFlowResponse`. -/
inductive SignTOTPReply
  | forbidden
  | badRequest
  | ok
  deriving DecidableEq, Repr

/-- Where a request is. `step` is what the handler gives the history, `step * config.Period`. A
request in `signIn` has marked a successful attempt with `doMarkAuthenticationAttempt`. -/
inductive SignTOTPHandler
  | start (req : SignTOTPRequest)
  | existsHistory (req : SignTOTPRequest) (username : List Char) (step : Nat)
  | saveHistory (req : SignTOTPRequest) (username : List Char) (step : Nat)
  | signIn (req : SignTOTPRequest) (username : List Char) (step : Nat)
  | signedIn (req : SignTOTPRequest) (username : List Char) (step : Nat) (reply : SignTOTPReply)
  | refused (reply : SignTOTPReply)
  deriving DecidableEq, Repr

section Handler
variable (P : SignTOTPProviders)

/-- The checks before the history, none of which reads it: the session, the body, the token's
length in bytes, the user's configuration and `Validate`. The step is multiplied by the period in
`uint64`. -/
def signTOTPChecks (req : SignTOTPRequest) : SignTOTPHandler :=
  match req.session with
  | none => .refused .forbidden
  | some userSession =>
    if userSession.isAnonymous then .refused .forbidden
    else match req.body with
    | none => .refused .forbidden
    | some body =>
      if String.utf8Len body.token != 6 && String.utf8Len body.token != 8 then .refused .badRequest
      else match P.loadTOTPConfiguration userSession.username with
      | none => .refused .forbidden
      | some config =>
        match P.validate body.token config req.now with
        | none => .refused .forbidden
        | some (false, _) => .refused .forbidden
        | some (true, step) =>
          .existsHistory req userSession.username (step * config.period % 2 ^ 64)

def signTOTPStep : SignTOTPHandler → List (List Char × List Char) →
    Option (SignTOTPHandler × List (List Char × List Char))
  | .start req, history => some (signTOTPChecks P req, history)
  | .existsHistory req username step, history =>
    some (match existsTOTPHistory P.otpHMAC req.existsTOTPHistoryFails history username step with
      | .error _ => .refused .forbidden
      | .ok true =>
        -- a code used before: the policy decides
        if P.disableReuseSecurityPolicy then .signIn req username step else .refused .forbidden
      | .ok false => .saveHistory req username step, history)
  | .saveHistory req username step, history =>
    match saveTOTPHistory P.otpHMAC req.saveTOTPHistoryFails history username step with
    | .error _ => some (.refused .forbidden, history)
    | .ok history' => some (.signIn req username step, history')
  | .signIn req username step, history =>
    some (.signedIn req username step (if req.signInSaved then .ok else .forbidden), history)
  | .signedIn .., _ => none
  | .refused _, _ => none

def signTOTPProgram : Program (List (List Char × List Char)) SignTOTPHandler := ⟨signTOTPStep P⟩

end Handler

namespace SignTOTPHandler

def isStart : SignTOTPHandler → Bool
  | .start _ => true
  | _ => false

def checked : SignTOTPHandler → Option (SignTOTPRequest × List Char × Nat)
  | .existsHistory req username step | .saveHistory req username step
  | .signIn req username step | .signedIn req username step _ => some (req, username, step)
  | _ => none

def signedInStep : SignTOTPHandler → Option (List Char × Nat)
  | .signIn _ username step | .signedIn _ username step _ => some (username, step)
  | _ => none

end SignTOTPHandler

/-- What a request that passed the checks brought: a session that is not anonymous, a token of six
or eight bytes, the user's configuration, and a step `Validate` accepted the token for. -/
def SignTOTPRequest.Passes (P : SignTOTPProviders) (req : SignTOTPRequest) (username : List Char)
    (step : Nat) : Prop :=
  ∃ userSession body config st, req.session = some userSession ∧
    userSession.isAnonymous = false ∧ userSession.username = username ∧ req.body = some body ∧
    (String.utf8Len body.token = 6 ∨ String.utf8Len body.token = 8) ∧
    P.loadTOTPConfiguration username = some config ∧
    P.validate body.token config req.now = some (true, st) ∧ step = st * config.period % 2 ^ 64

/-! ### What one statement can do -/

section History
variable {otpHMAC : List Char → List Char} {fails : Bool}
  {history history' : List (List Char × List Char)} {username : List Char} {step : Nat}

theorem existsTOTPHistory_eq_ok_true :
    existsTOTPHistory otpHMAC fails history username step = .ok true ↔
      fails = false ∧ totpHistoryRow otpHMAC username step ∈ history := by
  cases fails <;> simp [existsTOTPHistory, List.count_eq_zero]

theorem saveTOTPHistory_eq_ok :
    saveTOTPHistory otpHMAC fails history username step = .ok history' ↔
      fails = false ∧ totpHistoryRow otpHMAC username step ∉ history ∧
        history' = history ++ [totpHistoryRow otpHMAC username step] := by
  cases fails
  · by_cases hmem : totpHistoryRow otpHMAC username step ∈ history
    · simp [saveTOTPHistory, hmem]
    · simp [saveTOTPHistory, hmem, eq_comm]
  · simp [saveTOTPHistory]

end History

section Handler
variable (P : SignTOTPProviders)

theorem signTOTPChecks_cases (req : SignTOTPRequest) :
    (∃ reply, signTOTPChecks P req = .refused reply) ∨
      ∃ username step, signTOTPChecks P req = .existsHistory req username step ∧
        req.Passes P username step := by
  unfold signTOTPChecks
  rcases hsession : req.session with _ | userSession
  · exact Or.inl ⟨_, rfl⟩
  dsimp only
  by_cases hanonymous : userSession.isAnonymous = true
  · exact Or.inl ⟨_, if_pos hanonymous⟩
  rw [if_neg hanonymous]
  rcases hbody : req.body with _ | body
  · exact Or.inl ⟨_, rfl⟩
  dsimp only
  by_cases hlength : (String.utf8Len body.token != 6 && String.utf8Len body.token != 8) = true
  · exact Or.inl ⟨_, if_pos hlength⟩
  rw [if_neg hlength]
  have hlength' : String.utf8Len body.token = 6 ∨ String.utf8Len body.token = 8 := by
    simp only [Bool.and_eq_true, bne_iff_ne, ne_eq, not_and, not_not] at hlength
    by_cases h6 : String.utf8Len body.token = 6
    · exact Or.inl h6
    · exact Or.inr (hlength h6)
  rcases hconfig : P.loadTOTPConfiguration userSession.username with _ | config
  · exact Or.inl ⟨_, rfl⟩
  dsimp only
  rcases hvalid : P.validate body.token config req.now with _ | ⟨_ | _, st⟩
  · exact Or.inl ⟨_, rfl⟩
  · exact Or.inl ⟨_, rfl⟩
  · exact Or.inr ⟨_, _, rfl, userSession, body, config, st, hsession, by simpa using hanonymous, rfl,
      hbody, hlength', hconfig, hvalid, rfl⟩

theorem signTOTPStep_cases {p p' : SignTOTPHandler} {history history' : List (List Char × List Char)}
    (h : signTOTPStep P p history = some (p', history')) :
    (history' = history ∧ ∀ x, p'.signedInStep = some x → p.signedInStep = some x ∨
        (P.disableReuseSecurityPolicy = true ∧ totpHistoryRow P.otpHMAC x.1 x.2 ∈ history)) ∨
      ∃ username step, totpHistoryRow P.otpHMAC username step ∉ history ∧
        history' = history ++ [totpHistoryRow P.otpHMAC username step] ∧
        p'.signedInStep = some (username, step) := by
  cases p with
  | start req =>
    simp only [signTOTPStep, Option.some.injEq, Prod.mk.injEq] at h
    obtain ⟨rfl, rfl⟩ := h
    refine Or.inl ⟨rfl, fun x hx => ?_⟩
    rcases signTOTPChecks_cases P req with ⟨reply, hr⟩ | ⟨username, step, hr, -⟩
    all_goals
      rw [hr] at hx
      cases hx
  | existsHistory req username step =>
    simp only [signTOTPStep, Option.some.injEq, Prod.mk.injEq] at h
    obtain ⟨rfl, rfl⟩ := h
    refine Or.inl ⟨rfl, fun x hx => ?_⟩
    split at hx
    · cases hx
    · -- only a code found in the history signs in here, and only under the policy
      rename_i hexists
      split at hx
      · rename_i hpolicy
        cases hx
        exact Or.inr ⟨hpolicy, (existsTOTPHistory_eq_ok_true.mp hexists).2⟩
      · cases hx
    · cases hx
  | saveHistory req username step =>
    simp only [signTOTPStep] at h
    split at h
    · obtain ⟨rfl, rfl⟩ := Prod.mk.inj (Option.some.inj h)
      exact Or.inl ⟨rfl, fun x hx => by cases hx⟩
    · rename_i history'' hsave
      obtain ⟨rfl, rfl⟩ := Prod.mk.inj (Option.some.inj h)
      obtain ⟨-, hfresh, rfl⟩ := saveTOTPHistory_eq_ok.mp hsave
      exact Or.inr ⟨username, step, hfresh, rfl, rfl⟩
  | signIn req username step =>
    simp only [signTOTPStep, Option.some.injEq, Prod.mk.injEq] at h
    obtain ⟨rfl, rfl⟩ := h
    exact Or.inl ⟨rfl, fun x hx => Or.inl hx⟩
  | signedIn req username step reply => cases h
  | refused reply => cases h

theorem signTOTPStep_checked {p p' : SignTOTPHandler} {history history' : List (List Char × List Char)}
    (h : signTOTPStep P p history = some (p', history')) {x : SignTOTPRequest × List Char × Nat}
    (hx : p'.checked = some x) :
    p.checked = some x ∨ ∃ req, p = .start req ∧ x.1 = req ∧ req.Passes P x.2.1 x.2.2 := by
  cases p with
  | start req =>
    simp only [signTOTPStep, Option.some.injEq, Prod.mk.injEq] at h
    obtain ⟨rfl, rfl⟩ := h
    rcases signTOTPChecks_cases P req with ⟨reply, hr⟩ | ⟨username, step, hr, hpasses⟩
    · rw [hr] at hx
      cases hx
    · rw [hr] at hx
      cases hx
      exact Or.inr ⟨req, rfl, rfl, hpasses⟩
  | existsHistory req username step =>
    simp only [signTOTPStep, Option.some.injEq, Prod.mk.injEq] at h
    obtain ⟨rfl, rfl⟩ := h
    left
    split at hx
    · cases hx
    · split at hx
      · exact hx
      · cases hx
    · exact hx
  | saveHistory req username step =>
    simp only [signTOTPStep] at h
    left
    split at h
    · obtain ⟨rfl, rfl⟩ := Prod.mk.inj (Option.some.inj h)
      cases hx
    · obtain ⟨rfl, rfl⟩ := Prod.mk.inj (Option.some.inj h)
      exact hx
  | signIn req username step =>
    simp only [signTOTPStep, Option.some.injEq, Prod.mk.injEq] at h
    obtain ⟨rfl, rfl⟩ := h
    exact Or.inl hx
  | signedIn req username step reply => cases h
  | refused reply => cases h

theorem signTOTPStep_isStart {p p' : SignTOTPHandler} {history history' : List (List Char × List Char)}
    (h : signTOTPStep P p history = some (p', history')) : p'.isStart = false := by
  cases p with
  | start req =>
    simp only [signTOTPStep, Option.some.injEq, Prod.mk.injEq] at h
    obtain ⟨rfl, -⟩ := h
    rcases signTOTPChecks_cases P req with ⟨reply, hr⟩ | ⟨username, step, hr, -⟩
    all_goals
      rw [hr]
      rfl
  | existsHistory req username step =>
    simp only [signTOTPStep, Option.some.injEq, Prod.mk.injEq] at h
    obtain ⟨rfl, -⟩ := h
    split
    · rfl
    · split <;> rfl
    · rfl
  | saveHistory req username step =>
    simp only [signTOTPStep] at h
    split at h
    all_goals
      obtain ⟨rfl, -⟩ := Prod.mk.inj (Option.some.inj h)
      rfl
  | signIn req username step =>
    simp only [signTOTPStep, Option.some.injEq, Prod.mk.injEq] at h
    obtain ⟨rfl, -⟩ := h
    rfl
  | signedIn req username step reply => cases h
  | refused reply => cases h

theorem signTOTPStep_history_subset {p p' : SignTOTPHandler}
    {history history' : List (List Char × List Char)}
    (h : signTOTPStep P p history = some (p', history')) : history ⊆ history' := by
  rcases signTOTPStep_cases P h with ⟨rfl, -⟩ | ⟨username, step, -, rfl, -⟩
  · exact List.Subset.refl _
  · exact List.subset_append_left _ _

end Handler

namespace SignTOTPHandler

theorem signedInStep_of_isStart {p : SignTOTPHandler} (h : p.isStart = true) : p.signedInStep = none := by
  cases p <;> first | rfl | cases h

theorem checked_of_isStart {p : SignTOTPHandler} (h : p.isStart = true) : p.checked = none := by
  cases p <;> first | rfl | cases h

/-- Whether a request has signed in with a code of the history row `row`. -/
def signedInRow (otpHMAC : List Char → List Char) (row : List Char × List Char)
    (p : SignTOTPHandler) : Bool :=
  p.signedInStep.any fun x => totpHistoryRow otpHMAC x.1 x.2 == row

theorem signedInRow_iff {otpHMAC : List Char → List Char} {row : List Char × List Char}
    {p : SignTOTPHandler} :
    p.signedInRow otpHMAC row = true ↔
      ∃ x, p.signedInStep = some x ∧ totpHistoryRow otpHMAC x.1 x.2 = row := by
  simp [signedInRow, Option.any_eq_true]

theorem countP_signedInStep_le (otpHMAC : List Char → List Char) (l : List SignTOTPHandler)
    (username : List Char) (step : Nat) :
    l.countP (·.signedInStep == some (username, step)) ≤
      l.countP (signedInRow otpHMAC (totpHistoryRow otpHMAC username step)) :=
  List.countP_mono_left fun _ _ hp => signedInRow_iff.mpr ⟨_, beq_iff_eq.mp hp, rfl⟩

theorem countP_signedInRow_of_isStart {otpHMAC : List Char → List Char}
    {row : List Char × List Char} {l : List SignTOTPHandler} (h : ∀ p ∈ l, p.isStart = true) :
    l.countP (signedInRow otpHMAC row) = 0 := by
  rw [List.countP_eq_zero]
  intro p hp
  simp [signedInRow, signedInStep_of_isStart (h p hp)]

end SignTOTPHandler

open SignTOTPHandler

/-! ### Whole runs -/

section Runs
variable (P : SignTOTPProviders)

theorem signTOTPStep_signedInRow (hpolicy : P.disableReuseSecurityPolicy = false)
    (row : List Char × List Char) {p p' : SignTOTPHandler}
    {history history' : List (List Char × List Char)}
    (h : signTOTPStep P p history = some (p', history')) :
    (history'.contains row = history.contains row ∧
        (p'.signedInRow P.otpHMAC row = true → p.signedInRow P.otpHMAC row = true)) ∨
      (history.contains row = false ∧ history'.contains row = true) := by
  rcases signTOTPStep_cases P h with ⟨rfl, hkeep⟩ | ⟨username, step, hfresh, rfl, hsigned⟩
  · refine Or.inl ⟨rfl, fun hq => ?_⟩
    obtain ⟨x, hx, hrow⟩ := signedInRow_iff.mp hq
    rcases hkeep x hx with hx' | ⟨hreuse, -⟩
    · exact signedInRow_iff.mpr ⟨x, hx', hrow⟩
    · rw [hpolicy] at hreuse
      cases hreuse
  · by_cases hrow : totpHistoryRow P.otpHMAC username step = row
    · -- the insert that the unique index let through raises the row
      subst hrow
      exact Or.inr ⟨by simpa using hfresh, by simp⟩
    · refine Or.inl ⟨by simp [Ne.symm hrow], fun hq => ?_⟩
      obtain ⟨x, hx, hrow'⟩ := signedInRow_iff.mp hq
      rw [hsigned] at hx
      cases hx
      exact absurd hrow' hrow

variable {history₀ : List (List Char × List Char)} {procs : List SignTOTPHandler}
  {c : Config (List (List Char × List Char)) SignTOTPHandler}

/-- Unless `DisableReuseSecurityPolicy` is set, a code signs its user in at most once for a step,
however concurrent requests interleave: the unique index lets one insert of its row through. -/
theorem signTOTP_countP_signedInStep_le_one (hpolicy : P.disableReuseSecurityPolicy = false)
    (hstart : ∀ p ∈ procs, p.isStart = true) (hc : (signTOTPProgram P).Reachable ⟨history₀, procs⟩ c)
    (username : List Char) (step : Nat) :
    c.procs.countP (·.signedInStep == some (username, step)) ≤ 1 := by
  have hone := Program.countP_le_one_of_flag (signTOTPProgram P)
    (q := signedInRow P.otpHMAC (totpHistoryRow P.otpHMAC username step))
    (fun _ _ _ _ h => signTOTPStep_signedInRow P hpolicy (totpHistoryRow P.otpHMAC username step) h) hc
    (countP_signedInRow_of_isStart hstart)
  have hmono := countP_signedInStep_le P.otpHMAC c.procs username step
  omega

def johnTOTPConfiguration : TOTPConfiguration :=
  { username := "john".toList, issuer := "Authelia".toList, algorithm := "SHA1".toList, digits := 6,
    period := 30, secret := "JBSWY3DPEHPK3PXP".toList }

def johnTOTPProviders : SignTOTPProviders where
  validate token config now := some (token == "492039".toList, (now / (config.period : Int)).toNat)
  loadTOTPConfiguration username :=
    if username = "john".toList then some johnTOTPConfiguration else none
  otpHMAC := id
  disableReuseSecurityPolicy := false

def johnPasswordSession : Session.UserSession where
  username := "john".toList
  authenticationMethodRefs := { knowledgeBasedAuthentication := true, usernameAndPassword := true }

def johnTOTPRequest : SignTOTPRequest :=
  { session := some johnPasswordSession, body := some ⟨"492039".toList⟩, now := 59,
    existsTOTPHistoryFails := false, saveTOTPHistoryFails := false, signInSaved := true }

theorem signTOTP_countP_signedInStep_le_one_concurrent :
    (signTOTPProgram johnTOTPProviders).run ⟨[], [.start johnTOTPRequest, .start johnTOTPRequest]⟩
        [0, 1, 0, 1, 0, 1, 0] =
      some ⟨[totpHistoryRow id "john".toList 30],
        [.signedIn johnTOTPRequest "john".toList 30 .ok, .refused .forbidden]⟩ ∧
    [SignTOTPHandler.signedIn johnTOTPRequest "john".toList 30 .ok, .refused .forbidden].countP
      (·.signedInStep == some ("john".toList, 30)) ≤ 1 := by
  have hrun : (signTOTPProgram johnTOTPProviders).run
      ⟨[], [.start johnTOTPRequest, .start johnTOTPRequest]⟩ [0, 1, 0, 1, 0, 1, 0] =
      some ⟨[totpHistoryRow id "john".toList 30],
        [.signedIn johnTOTPRequest "john".toList 30 .ok, .refused .forbidden]⟩ := rfl
  exact ⟨hrun, signTOTP_countP_signedInStep_le_one johnTOTPProviders rfl (by decide)
    (Program.reachable_of_run _ hrun) _ _⟩

-- with the policy disabled, a code found in the history signs in again
example : (signTOTPProgram { johnTOTPProviders with disableReuseSecurityPolicy := true }).run
      ⟨[totpHistoryRow id "john".toList 30], [.start johnTOTPRequest]⟩ [0, 0, 0] =
    some ⟨[totpHistoryRow id "john".toList 30], [.signedIn johnTOTPRequest "john".toList 30 .ok]⟩ :=
  rfl

/-- Unless `DisableReuseSecurityPolicy` is set, a code whose row is already in the history signs no
request in. -/
theorem signTOTP_countP_signedInStep_eq_zero (hpolicy : P.disableReuseSecurityPolicy = false)
    (hstart : ∀ p ∈ procs, p.isStart = true) (hc : (signTOTPProgram P).Reachable ⟨history₀, procs⟩ c)
    {username : List Char} {step : Nat} (hused : totpHistoryRow P.otpHMAC username step ∈ history₀) :
    c.procs.countP (·.signedInStep == some (username, step)) = 0 := by
  have hzero := Program.countP_eq_zero_of_flag (signTOTPProgram P)
    (q := signedInRow P.otpHMAC (totpHistoryRow P.otpHMAC username step))
    (fun _ _ _ _ h => signTOTPStep_signedInRow P hpolicy (totpHistoryRow P.otpHMAC username step) h) hc
    (by simpa using hused) (countP_signedInRow_of_isStart hstart)
  have hmono := countP_signedInStep_le P.otpHMAC c.procs username step
  omega

theorem signTOTP_countP_signedInStep_eq_zero_replayed :
    (signTOTPProgram johnTOTPProviders).run
        ⟨[totpHistoryRow id "john".toList 30], [.start johnTOTPRequest]⟩ [0, 0] =
      some ⟨[totpHistoryRow id "john".toList 30], [.refused .forbidden]⟩ ∧
    [SignTOTPHandler.refused .forbidden].countP (·.signedInStep == some ("john".toList, 30)) = 0 := by
  have hrun : (signTOTPProgram johnTOTPProviders).run
      ⟨[totpHistoryRow id "john".toList 30], [.start johnTOTPRequest]⟩ [0, 0] =
      some ⟨[totpHistoryRow id "john".toList 30], [.refused .forbidden]⟩ := rfl
  exact ⟨hrun, signTOTP_countP_signedInStep_eq_zero johnTOTPProviders rfl (by decide)
    (Program.reachable_of_run _ hrun) (List.mem_singleton_self _)⟩

/-- Under either policy, a request past the checks is one of the requests sent and passed them for
its user and step, and once it has signed in, that step's row is in the history. -/
theorem signTOTP_signedIn_sound (hstart : ∀ p ∈ procs, p.isStart = true)
    (hc : (signTOTPProgram P).Reachable ⟨history₀, procs⟩ c) :
    ∀ p ∈ c.procs, ∀ req username step, p.checked = some (req, username, step) →
      SignTOTPHandler.start req ∈ procs ∧ req.Passes P username step ∧
        (p.signedInStep = some (username, step) →
          totpHistoryRow P.otpHMAC username step ∈ c.store) := by
  -- a request at its start is one of those sent; past the checks it carries one that passed them
  have hpasses := Program.Reachable.forall_procs (signTOTPProgram P)
    (I := fun _ p => (p.isStart = true → p ∈ procs) ∧
      ∀ x, p.checked = some x → SignTOTPHandler.start x.1 ∈ procs ∧ x.1.Passes P x.2.1 x.2.2)
    (fun _ _ _ _ _ q hq => hq)
    (fun p s p' s' h hp => by
      refine ⟨fun hp' => ?_, fun x hx => ?_⟩
      · rw [signTOTPStep_isStart P h] at hp'
        cases hp'
      · rcases signTOTPStep_checked P h hx with hx' | ⟨req, rfl, rfl, hreq⟩
        · exact hp.2 x hx'
        · exact ⟨hp.1 rfl, hreq⟩)
    hc (fun p hp => ⟨fun _ => hp, fun x hx => by rw [checked_of_isStart (hstart p hp)] at hx; cases hx⟩)
  -- a request signed in has its row in the history, which only grows
  have hrow := Program.Reachable.forall_procs (signTOTPProgram P)
    (I := fun s p => ∀ x, p.signedInStep = some x → totpHistoryRow P.otpHMAC x.1 x.2 ∈ s)
    (fun _ _ _ _ h q hq x hx => signTOTPStep_history_subset P h (hq x hx))
    (fun p s p' s' h hp x hx => by
      rcases signTOTPStep_cases P h with ⟨rfl, hkeep⟩ | ⟨username, step, -, rfl, hsigned⟩
      · rcases hkeep x hx with hx' | ⟨-, hmem⟩
        · exact hp x hx'
        · exact hmem
      · rw [hsigned] at hx
        cases hx
        exact List.mem_append_right _ (List.mem_singleton_self _))
    hc (fun p hp x hx => by rw [signedInStep_of_isStart (hstart p hp)] at hx; cases hx)
  intro p hp req username step hchecked
  obtain ⟨hsent, hreq⟩ := (hpasses p hp).2 _ hchecked
  exact ⟨hsent, hreq, fun hsigned => hrow p hp _ hsigned⟩

theorem signTOTP_signedIn_sound_concurrent :
    (signTOTPProgram johnTOTPProviders).run ⟨[], [.start johnTOTPRequest, .start johnTOTPRequest]⟩
        [0, 1, 0, 1, 0, 1, 0] =
      some ⟨[totpHistoryRow id "john".toList 30],
        [.signedIn johnTOTPRequest "john".toList 30 .ok, .refused .forbidden]⟩ ∧
    ∀ p ∈ [SignTOTPHandler.signedIn johnTOTPRequest "john".toList 30 .ok, .refused .forbidden],
      ∀ req username step, p.checked = some (req, username, step) →
        SignTOTPHandler.start req ∈ [SignTOTPHandler.start johnTOTPRequest, .start johnTOTPRequest] ∧
          req.Passes johnTOTPProviders username step ∧
          (p.signedInStep = some (username, step) →
            totpHistoryRow id username step ∈ [totpHistoryRow id "john".toList 30]) := by
  have hrun : (signTOTPProgram johnTOTPProviders).run
      ⟨[], [.start johnTOTPRequest, .start johnTOTPRequest]⟩ [0, 1, 0, 1, 0, 1, 0] =
      some ⟨[totpHistoryRow id "john".toList 30],
        [.signedIn johnTOTPRequest "john".toList 30 .ok, .refused .forbidden]⟩ := rfl
  exact ⟨hrun, signTOTP_signedIn_sound johnTOTPProviders (by decide) (Program.reachable_of_run _ hrun)⟩

-- the backend failing the second request's read ends it, whatever the history holds
example : (signTOTPProgram johnTOTPProviders).run
      ⟨[], [.start johnTOTPRequest, .start { johnTOTPRequest with existsTOTPHistoryFails := true }]⟩
      [0, 1, 0, 1, 0, 0] =
    some ⟨[totpHistoryRow id "john".toList 30],
      [.signedIn johnTOTPRequest "john".toList 30 .ok, .refused .forbidden]⟩ :=
  rfl

end Runs

end Authelia.Handlers
