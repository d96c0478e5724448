import Mathlib
import Authelia.Handlers.SignTotp
import Authelia.Validator.Totp

/-! The TOTP registration handlers (`handler_register_totp.go`): `TOTPRegisterGET` offers the
options of the provider (`totp.go`), `TOTPRegisterPUT` keeps the user's choice with a fresh secret in
their session for ten minutes, `TOTPRegisterPOST` stores it once the user shows a code for it, and
the two `DELETE` handlers drop the pending registration or the stored configuration. A run is a
sequence of requests on one session, over the `totp_configurations` table and the TOTP history.

Every configuration a user can store uses an algorithm, a digit count and a period the options
allow, so with the options of a validated configuration it is one `Validate` can use; and under the
reuse policy the code that completes a registration is in the history, where the sign-in handler
refuses it. -/

namespace Authelia.Handlers
open Interleaving

/-- `uint(n)` of a Go `int`. -/
def goUint (n : Int) : Nat := (n % 2 ^ 64).toNat

/-- `uint32(n)` of a Go `int64`. -/
def goUint32 (n : Int) : Nat := (n % 2 ^ 32).toNat

def isIntegerInSlice (needle : Int) (haystack : List Int) : Bool :=
  haystack.any (· == needle)

structure TOTPOptions where
  algorithm : List Char
  algorithms : List (List Char)
  period : Int
  periods : List Int
  length : Int
  lengths : List Int
  deriving DecidableEq, Repr

def newTOTPOptionsFromSchema (config : Validator.TOTP) : TOTPOptions :=
  { algorithm := config.defaultAlgorithm, algorithms := config.allowedAlgorithms,
    period := config.defaultPeriod, periods := config.allowedPeriods,
    length := config.defaultDigits, lengths := config.allowedDigits }

structure TimeBased where
  opts : TOTPOptions
  issuer : List Char
  size : Nat
  deriving DecidableEq, Repr

def newTimeBasedProvider (config : Validator.TOTP) : TimeBased :=
  { opts := newTOTPOptionsFromSchema config, issuer := config.issuer, size := goUint config.secretSize }

/-- `session.TOTP`: the registration a user started, kept in their session until it expires. -/
structure SessionTOTP where
  issuer : List Char
  algorithm : List Char
  digits : Nat
  period : Nat
  secret : List Char
  expires : Int
  deriving DecidableEq, Repr

structure BodyRegisterTOTP where
  algorithm : List Char
  length : Int
  period : Int
  deriving DecidableEq, Repr

/-- The providers the registration handlers call and the policy they read. -/
structure TOTPRegisterProviders where
  totp : TimeBased
  generate : List Char → List Char → Nat → Nat → Nat → List Char → Option (List Char)
  validate : List Char → TOTPConfiguration → Int → Option (Bool × Nat)
  otpHMAC : List Char → List Char
  disableReuseSecurityPolicy : Bool

structure TOTPRegisterState where
  session : Session.UserSession
  pending : Option SessionTOTP
  configurations : List TOTPConfiguration
  history : List (List Char × List Char)
  deriving DecidableEq, Repr

/-! ### The configurations table, one row a user -/

section Configurations
variable (configurations : List TOTPConfiguration)

def loadTOTPConfiguration (username : List Char) : Option TOTPConfiguration :=
  configurations.find? (·.username == username)

/-- `SaveTOTPConfiguration`: `REPLACE INTO`, which drops the user's row before it inserts, or the
backend's error, which writes nothing. -/
def saveTOTPConfiguration (fails : Bool) (config : TOTPConfiguration) :
    Except StorageError (List TOTPConfiguration) :=
  if fails then .error .backend
  else .ok (configurations.filter (·.username != config.username) ++ [config])

/-- `DeleteTOTPConfiguration`: `DELETE ... WHERE username = ?`, or the backend's error. -/
def deleteTOTPConfiguration (fails : Bool) (username : List Char) :
    Except StorageError (List TOTPConfiguration) :=
  if fails then .error .backend else .ok (configurations.filter (·.username != username))

end Configurations

/-! ### The handlers -/

/-- How a registration request ends: `403` or `400` with the handler's message, `ReplyOK`, the
options of `TOTPRegisterGET`, or the key of `TOTPRegisterPUT` (its secret; the `otpauth` URL is
left out). -/
inductive TOTPRegisterReply
  | forbidden
  | badRequest
  | ok
  | options (opts : TOTPOptions)
  | key (secret : List Char)
  deriving DecidableEq, Repr

/-- A request of one session. `none` for a body is a JSON error, `now` is the clock, the flags
`historyFails`, `configurationFails` and `deleteFails` are whether the backend fails
`SaveTOTPHistory`, `SaveTOTPConfiguration` and `DeleteTOTPConfiguration`, and `saves` is whether
`SaveSession` succeeds. -/
inductive TOTPRegisterRequest
  | get
  | put (body : Option BodyRegisterTOTP) (now : Int) (saves : Bool)
  | post (token : Option (List Char)) (now : Int) (historyFails configurationFails saves : Bool)
  | delete (saves : Bool)
  | configurationDelete (deleteFails : Bool)
  deriving DecidableEq, Repr

section Handlers
variable (T : TOTPRegisterProviders) (s : TOTPRegisterState)

def totpRegisterGET : TOTPRegisterReply × TOTPRegisterState :=
  if s.session.isAnonymous then (.forbidden, s) else (.options T.totp.opts, s)

/-- `TOTPRegisterPUT`: a choice the options allow gets a new secret from `GenerateCustom`, and is
kept in the session for ten minutes. -/
def totpRegisterPUT (body : Option BodyRegisterTOTP) (now : Int) (saves : Bool) :
    TOTPRegisterReply × TOTPRegisterState :=
  if s.session.isAnonymous then (.forbidden, s)
  else match body with
  | none => (.badRequest, s)
  | some body =>
    let opts := T.totp.opts
    if !Utils.isStringInSlice body.algorithm opts.algorithms ||
        !isIntegerInSlice body.period opts.periods || !isIntegerInSlice body.length opts.lengths then
      (.badRequest, s)
    else
      match T.generate T.totp.issuer s.session.username (goUint body.period) T.totp.size
          (goUint32 body.length) body.algorithm with
      | none => (.forbidden, s)
      | some secret =>
        let pending : SessionTOTP :=
          { issuer := T.totp.issuer, algorithm := body.algorithm, digits := goUint32 body.length,
            period := goUint body.period, secret, expires := now + 600 }
        -- a session that is not saved keeps what it had
        if saves then (.key secret, { s with pending := some pending }) else (.forbidden, s)

/-- The configuration `TOTPRegisterPOST` builds from the pending registration. -/
def SessionTOTP.toConfiguration (p : SessionTOTP) (username : List Char) : TOTPConfiguration :=
  { username, issuer := p.issuer, algorithm := p.algorithm, digits := p.digits, period := p.period,
    secret := p.secret }

/-- `TOTPRegisterPOST`: a code for the pending registration, shown before it expires, stores its
configuration; under the reuse policy the code's step goes to the history first, and stays there when
the configuration is not saved. -/
def totpRegisterPOST (token : Option (List Char)) (now : Int)
    (historyFails configurationFails saves : Bool) : TOTPRegisterReply × TOTPRegisterState :=
  if s.session.isAnonymous then (.forbidden, s)
  else match token with
  | none => (.badRequest, s)
  | some token =>
    match s.pending with
    | none => (.forbidden, s)
    | some pending =>
      if pending.expires < now then (.forbidden, s)
      else
        let config := pending.toConfiguration s.session.username
        match T.validate token config now with
        | none => (.forbidden, s)
        | some (false, _) => (.forbidden, s)
        | some (true, step) =>
          let history := if T.disableReuseSecurityPolicy then .ok s.history
            else saveTOTPHistory T.otpHMAC historyFails s.history s.session.username
              (step * config.period % 2 ^ 64)
          match history with
          | .error _ => (.forbidden, s)
          | .ok history =>
            match saveTOTPConfiguration s.configurations configurationFails config with
            | .error _ => (.forbidden, { s with history })
            | .ok configurations =>
              let s := { s with history, configurations }
              if saves then (.ok, { s with pending := none }) else (.forbidden, s)

def totpRegisterDELETE (saves : Bool) : TOTPRegisterReply × TOTPRegisterState :=
  if s.session.isAnonymous then (.forbidden, s)
  else match s.pending with
  | none => (.ok, s)
  | some _ => if saves then (.ok, { s with pending := none }) else (.forbidden, s)

def totpConfigurationDELETE (deleteFails : Bool) : TOTPRegisterReply × TOTPRegisterState :=
  if s.session.isAnonymous then (.forbidden, s)
  else match loadTOTPConfiguration s.configurations s.session.username with
  | none => (.forbidden, s)
  | some _ =>
    match deleteTOTPConfiguration s.configurations deleteFails s.session.username with
    | .error _ => (.forbidden, s)
    | .ok configurations => (.ok, { s with configurations })

def totpRegister : TOTPRegisterRequest → TOTPRegisterReply × TOTPRegisterState
  | .get => totpRegisterGET T s
  | .put body now saves => totpRegisterPUT T s body now saves
  | .post token now historyFails configurationFails saves =>
    totpRegisterPOST T s token now historyFails configurationFails saves
  | .delete saves => totpRegisterDELETE s saves
  | .configurationDelete deleteFails => totpConfigurationDELETE s deleteFails

end Handlers

def totpRegisterRun (T : TOTPRegisterProviders) (s : TOTPRegisterState) :
    List TOTPRegisterRequest → List TOTPRegisterReply × TOTPRegisterState
  | [] => ([], s)
  | req :: reqs =>
    let (reply, s) := totpRegister T s req
    let (replies, s) := totpRegisterRun T s reqs
    (reply :: replies, s)

/-! ### What each handler can do -/

section Configurations
variable {configurations configurations' : List TOTPConfiguration} {fails : Bool}

theorem saveTOTPConfiguration_eq_ok {config : TOTPConfiguration} :
    saveTOTPConfiguration configurations fails config = .ok configurations' ↔
      fails = false ∧
        configurations' = configurations.filter (·.username != config.username) ++ [config] := by
  cases fails <;> simp [saveTOTPConfiguration, eq_comm]

theorem loadTOTPConfiguration_saveTOTPConfiguration {config : TOTPConfiguration}
    (h : saveTOTPConfiguration configurations fails config = .ok configurations') :
    loadTOTPConfiguration configurations' config.username = some config := by
  obtain ⟨-, rfl⟩ := saveTOTPConfiguration_eq_ok.mp h
  -- the rows left by the filter are other users'
  have hothers : (configurations.filter (·.username != config.username)).find?
      (·.username == config.username) = none :=
    List.find?_eq_none.mpr fun c hc => by simpa using (List.mem_filter.mp hc).2
  simp [loadTOTPConfiguration, List.find?_append, hothers]

theorem mem_saveTOTPConfiguration {config c : TOTPConfiguration}
    (h : saveTOTPConfiguration configurations fails config = .ok configurations')
    (hc : c ∈ configurations') : c ∈ configurations ∨ c = config := by
  obtain ⟨-, rfl⟩ := saveTOTPConfiguration_eq_ok.mp h
  simp only [List.mem_append, List.mem_filter, List.mem_singleton] at hc
  rcases hc with ⟨hc, -⟩ | rfl
  · exact Or.inl hc
  · exact Or.inr rfl

theorem mem_deleteTOTPConfiguration {username : List Char} {c : TOTPConfiguration}
    (h : deleteTOTPConfiguration configurations fails username = .ok configurations')
    (hc : c ∈ configurations') : c ∈ configurations := by
  cases fails
  · simp only [deleteTOTPConfiguration, Bool.false_eq_true, if_false, Except.ok.injEq] at h
    subst h
    exact (List.mem_filter.mp hc).1
  · cases h

end Configurations

section Handlers
variable (T : TOTPRegisterProviders) (s : TOTPRegisterState)

theorem totpRegisterPUT_cases (body : Option BodyRegisterTOTP) (now : Int) (saves : Bool) :
    (totpRegisterPUT T s body now saves).2 = s ∨
      ∃ b : BodyRegisterTOTP, ∃ secret, body = some b ∧ b.algorithm ∈ T.totp.opts.algorithms ∧
        b.period ∈ T.totp.opts.periods ∧ b.length ∈ T.totp.opts.lengths ∧
        (totpRegisterPUT T s body now saves).2 =
          { s with pending := some ⟨T.totp.issuer, b.algorithm, goUint32 b.length, goUint b.period,
            secret, now + 600⟩ } := by
  unfold totpRegisterPUT
  by_cases hanonymous : s.session.isAnonymous = true
  · exact Or.inl (by rw [if_pos hanonymous])
  rw [if_neg hanonymous]
  rcases body with _ | b
  · exact Or.inl rfl
  dsimp only
  split
  · exact Or.inl rfl
  rename_i hallowed
  simp only [Bool.or_eq_true, Bool.not_eq_true', not_or, Bool.not_eq_false] at hallowed
  obtain ⟨⟨halgorithm, hperiod⟩, hlength⟩ := hallowed
  split
  · exact Or.inl rfl
  rename_i secret _
  split
  · refine Or.inr ⟨b, secret, rfl, (Utils.isStringInSlice_iff _ _).mp halgorithm, ?_, ?_, rfl⟩
    · simpa [isIntegerInSlice] using hperiod
    · simpa [isIntegerInSlice] using hlength
  · exact Or.inl rfl

theorem totpRegisterPOST_cases (token : Option (List Char)) (now : Int)
    (historyFails configurationFails saves : Bool) :
    ((totpRegisterPOST T s token now historyFails configurationFails saves).2 = s ∧
        (totpRegisterPOST T s token now historyFails configurationFails saves).1 ≠ .ok) ∨
      ∃ token' pending st history, token = some token' ∧ s.pending = some pending ∧
        ¬pending.expires < now ∧
        T.validate token' (pending.toConfiguration s.session.username) now = some (true, st) ∧
        (if T.disableReuseSecurityPolicy then .ok s.history else saveTOTPHistory T.otpHMAC historyFails
          s.history s.session.username (st * pending.period % 2 ^ 64)) = .ok history ∧
        (totpRegisterPOST T s token now historyFails configurationFails saves =
            (.forbidden, { s with history }) ∨
          ∃ configurations, saveTOTPConfiguration s.configurations configurationFails
              (pending.toConfiguration s.session.username) = .ok configurations ∧
            totpRegisterPOST T s token now historyFails configurationFails saves =
              let s' := { s with history, configurations }
              if saves then (.ok, { s' with pending := none }) else (.forbidden, s')) := by
  unfold totpRegisterPOST
  by_cases hanonymous : s.session.isAnonymous = true
  · exact Or.inl (by rw [if_pos hanonymous]; exact ⟨rfl, nofun⟩)
  rw [if_neg hanonymous]
  rcases token with _ | token'
  · exact Or.inl ⟨rfl, nofun⟩
  dsimp only
  rcases hpending : s.pending with _ | pending
  · exact Or.inl ⟨rfl, nofun⟩
  dsimp only
  by_cases hexpired : pending.expires < now
  · exact Or.inl (by rw [if_pos hexpired]; exact ⟨rfl, nofun⟩)
  rw [if_neg hexpired]
  rcases hvalid : T.validate token' (pending.toConfiguration s.session.username) now with
    _ | ⟨_ | _, st⟩
  · exact Or.inl ⟨rfl, nofun⟩
  · exact Or.inl ⟨rfl, nofun⟩
  dsimp only
  -- the history as the policy writes it
  generalize hhistory : (if T.disableReuseSecurityPolicy then .ok s.history
    else saveTOTPHistory T.otpHMAC historyFails s.history s.session.username
      (st * (pending.toConfiguration s.session.username).period % 2 ^ 64)) = history?
  rcases history? with _ | history
  · exact Or.inl ⟨rfl, nofun⟩
  dsimp only
  rcases hconfig : saveTOTPConfiguration s.configurations configurationFails
    (pending.toConfiguration s.session.username) with _ | configurations
  · exact Or.inr ⟨token', pending, st, history, rfl, rfl, hexpired, hvalid, hhistory, Or.inl rfl⟩
  · exact Or.inr ⟨token', pending, st, history, rfl, rfl, hexpired, hvalid, hhistory,
      Or.inr ⟨configurations, hconfig, rfl⟩⟩

end Handlers

/-! ### The permitted registrations -/

structure TOTPOptions.Permits (opts : TOTPOptions) (algorithm : List Char) (digits period : Nat) :
    Prop where
  algorithm_mem : algorithm ∈ opts.algorithms
  digits_mem : ∃ l ∈ opts.lengths, digits = goUint32 l
  period_mem : ∃ p ∈ opts.periods, period = goUint p

/-- Every registration the session keeps and every configuration the table holds is permitted. -/
structure TOTPRegisterState.Permitted (opts : TOTPOptions) (s : TOTPRegisterState) : Prop where
  pending : ∀ p, s.pending = some p → opts.Permits p.algorithm p.digits p.period
  configurations : ∀ c ∈ s.configurations, opts.Permits c.algorithm c.digits c.period

section Permitted
variable (T : TOTPRegisterProviders) {s : TOTPRegisterState}

theorem TOTPRegisterState.Permitted.saveTOTPConfiguration {opts : TOTPOptions}
    (hs : s.Permitted opts) {p : SessionTOTP} (hp : s.pending = some p) {username : List Char}
    {fails : Bool} {configurations : List TOTPConfiguration}
    (h : Handlers.saveTOTPConfiguration s.configurations fails (p.toConfiguration username) =
      .ok configurations) :
    ∀ c ∈ configurations, opts.Permits c.algorithm c.digits c.period := by
  intro c hc
  rcases mem_saveTOTPConfiguration h hc with hc | rfl
  · exact hs.configurations c hc
  · exact hs.pending p hp

theorem permitted_totpRegisterPUT (hs : s.Permitted T.totp.opts) (body : Option BodyRegisterTOTP)
    (now : Int) (saves : Bool) : (totpRegisterPUT T s body now saves).2.Permitted T.totp.opts := by
  rcases totpRegisterPUT_cases T s body now saves with h | ⟨b, secret, -, halgorithm, hperiod, hlength, h⟩
  · rw [h]
    exact hs
  · rw [h]
    refine ⟨fun p hp => ?_, hs.configurations⟩
    cases hp
    exact ⟨halgorithm, ⟨_, hlength, rfl⟩, ⟨_, hperiod, rfl⟩⟩

theorem permitted_totpRegisterPOST (hs : s.Permitted T.totp.opts) (token : Option (List Char))
    (now : Int) (historyFails configurationFails saves : Bool) :
    (totpRegisterPOST T s token now historyFails configurationFails saves).2.Permitted
      T.totp.opts := by
  rcases totpRegisterPOST_cases T s token now historyFails configurationFails saves with
    ⟨h, -⟩ | ⟨token', pending, st, history, -, hp, -, -, -, h | ⟨configurations, hconfig, h⟩⟩
  · rw [h]
    exact hs
  · -- the history was written, the table was not
    rw [h]
    exact ⟨hs.pending, hs.configurations⟩
  · have hsaved := hs.saveTOTPConfiguration hp hconfig
    rw [h]
    split
    · exact ⟨(fun _ h' => nomatch h'), hsaved⟩
    · exact ⟨hs.pending, hsaved⟩

theorem permitted_totpRegister (hs : s.Permitted T.totp.opts) (req : TOTPRegisterRequest) :
    (totpRegister T s req).2.Permitted T.totp.opts := by
  cases req with
  | get =>
    simp only [totpRegister, totpRegisterGET]
    split <;> exact hs
  | put body now saves => exact permitted_totpRegisterPUT T hs body now saves
  | post token now historyFails configurationFails saves =>
    exact permitted_totpRegisterPOST T hs token now historyFails configurationFails saves
  | delete saves =>
    simp only [totpRegister, totpRegisterDELETE]
    split
    · exact hs
    · split
      · exact hs
      · split
        · exact ⟨(fun _ h => nomatch h), hs.configurations⟩
        · exact hs
  | configurationDelete deleteFails =>
    simp only [totpRegister, totpConfigurationDELETE]
    split
    · exact hs
    · split
      · exact hs
      · split
        · exact hs
        · rename_i configurations hdelete
          exact ⟨hs.pending, fun c hc => hs.configurations c (mem_deleteTOTPConfiguration hdelete hc)⟩

theorem permitted_totpRegisterRun (hs : s.Permitted T.totp.opts) (reqs : List TOTPRegisterRequest) :
    (totpRegisterRun T s reqs).2.Permitted T.totp.opts := by
  induction reqs generalizing s with
  | nil => exact hs
  | cons req reqs ih => exact ih (permitted_totpRegister T hs req)

end Permitted

theorem TOTPOptions.Permits.of_wellFormed {config : Validator.TOTP} (hc : config.WellFormed)
    {algorithm : List Char} {digits period : Nat}
    (h : (newTOTPOptionsFromSchema config).Permits algorithm digits period) :
    algorithm ∈ Validator.totpPossibleAlgorithms ∧ (digits = 6 ∨ digits = 8) ∧
      ∃ n ∈ config.allowedPeriods, 15 ≤ n ∧ period = goUint n := by
  obtain ⟨halgorithm, ⟨l, hl, rfl⟩, ⟨n, hn, rfl⟩⟩ := h
  refine ⟨hc.allowedAlgorithms_mem _ halgorithm, ?_, n, hn, hc.allowedPeriods_ge n hn, rfl⟩
  rcases hc.allowedDigits_valid l hl with rfl | rfl
  · exact Or.inl rfl
  · exact Or.inr rfl

/-- Whatever requests a session sends, the TOTP configurations it can store under a provider built
from a configuration `ValidateTOTP` accepted use a possible algorithm, six or eight digits, and an
allowed period of fifteen seconds or more. -/
theorem totpRegisterRun_configurations (F : Go.CaseFolding) {raw config : Validator.TOTP}
    {v v' : Validator.StructValidator} (hdisable : raw.disable = false)
    (hvalid : Validator.validateTOTP F raw v = (config, v')) (herrors : v'.errors = v.errors)
    (T : TOTPRegisterProviders) (hT : T.totp = newTimeBasedProvider config) {s : TOTPRegisterState}
    (hs : s.Permitted T.totp.opts) (reqs : List TOTPRegisterRequest) :
    ∀ c ∈ (totpRegisterRun T s reqs).2.configurations,
      c.algorithm ∈ Validator.totpPossibleAlgorithms ∧ (c.digits = 6 ∨ c.digits = 8) ∧
        ∃ n ∈ config.allowedPeriods, 15 ≤ n ∧ c.period = goUint n := by
  have hc := Validator.wellFormed_validateTOTP F hdisable hvalid herrors
  have hrun := permitted_totpRegisterRun T hs reqs
  rw [hT] at hrun
  intro c hmem
  exact TOTPOptions.Permits.of_wellFormed hc (hrun.configurations c hmem)

def sha256RegisterProviders : TOTPRegisterProviders where
  totp := newTimeBasedProvider (Validator.validateTOTP Go.CaseFolding.ascii Validator.sha256Totp {}).1
  generate _ _ _ _ _ _ := some "JBSWY3DPEHPK3PXP".toList
  validate := johnTOTPProviders.validate
  otpHMAC := id
  disableReuseSecurityPolicy := false

def johnRegisterState : TOTPRegisterState :=
  { session := johnPasswordSession, pending := none, configurations := [], history := [] }

def johnRegistrationPUT : TOTPRegisterRequest := .put (some ⟨"SHA256".toList, 6, 30⟩) 0 true

def johnRegistration : List TOTPRegisterRequest :=
  [johnRegistrationPUT, .post (some "492039".toList) 10 false false true]

theorem totpRegisterRun_configurations_johnRegistration :
    (totpRegisterRun sha256RegisterProviders johnRegisterState johnRegistration).2.configurations =
        [{ username := "john".toList, issuer := "Authelia".toList, algorithm := "SHA256".toList,
           digits := 6, period := 30, secret := "JBSWY3DPEHPK3PXP".toList }] ∧
      ∀ c ∈ (totpRegisterRun sha256RegisterProviders johnRegisterState johnRegistration).2.configurations,
        c.algorithm ∈ Validator.totpPossibleAlgorithms ∧ (c.digits = 6 ∨ c.digits = 8) ∧
          ∃ n ∈ (Validator.validateTOTP Go.CaseFolding.ascii Validator.sha256Totp {}).1.allowedPeriods,
            15 ≤ n ∧ c.period = goUint n := by
  have herrors : (Validator.validateTOTP Go.CaseFolding.ascii Validator.sha256Totp {}).2.errors =
      ({} : Validator.StructValidator).errors := by
    decide
  have hs : johnRegisterState.Permitted sha256RegisterProviders.totp.opts :=
    ⟨(fun _ h => nomatch h), (fun _ h => nomatch h)⟩
  exact ⟨by decide, @totpRegisterRun_configurations Go.CaseFolding.ascii Validator.sha256Totp _ {} _
    rfl rfl herrors sha256RegisterProviders rfl _ hs johnRegistration⟩

/-- Under the reuse policy, the code that completes a registration goes to the history with the
configuration it was checked against: afterwards no interleaving of sign-ins lets it sign the user in
for that step. -/
theorem totpRegisterPOST_refuses_signIn (T : TOTPRegisterProviders) (P : SignTOTPProviders)
    (hotp : P.otpHMAC = T.otpHMAC) (hT : T.disableReuseSecurityPolicy = false)
    (hP : P.disableReuseSecurityPolicy = false) {s : TOTPRegisterState} {token : Option (List Char)}
    {now : Int} {historyFails configurationFails saves : Bool}
    (hok : (totpRegisterPOST T s token now historyFails configurationFails saves).1 = .ok) :
    ∃ token' pending st, token = some token' ∧ s.pending = some pending ∧
      T.validate token' (pending.toConfiguration s.session.username) now = some (true, st) ∧
      loadTOTPConfiguration
          (totpRegisterPOST T s token now historyFails configurationFails saves).2.configurations
          s.session.username =
        some (pending.toConfiguration s.session.username) ∧
      ∀ (procs : List SignTOTPHandler) (c : Config (List (List Char × List Char)) SignTOTPHandler),
        (∀ p ∈ procs, p.isStart = true) →
        (signTOTPProgram P).Reachable
          ⟨(totpRegisterPOST T s token now historyFails configurationFails saves).2.history, procs⟩ c →
        c.procs.countP (·.signedInStep == some (s.session.username, st * pending.period % 2 ^ 64)) = 0 := by
  rcases totpRegisterPOST_cases T s token now historyFails configurationFails saves with
    ⟨-, hne⟩ | hdone
  · exact absurd hok hne
  obtain ⟨token', pending, st, history, rfl, hpending, -, hvalid, hhistory,
    hr | ⟨configurations, hconfig, hr⟩⟩ := hdone
  · -- a configuration the backend failed ends the request with 403
    rw [hr] at hok
    cases hok
  -- the reply is OK, so the session was saved; either way the history and the table are written
  have hwritten :
      (totpRegisterPOST T s (some token') now historyFails configurationFails saves).2.history =
        history ∧
      (totpRegisterPOST T s (some token') now historyFails configurationFails saves).2.configurations =
        configurations := by
    rw [hr]
    split <;> exact ⟨rfl, rfl⟩
  have hrow : totpHistoryRow P.otpHMAC s.session.username (st * pending.period % 2 ^ 64) ∈ history := by
    rw [if_neg (by simp [hT])] at hhistory
    obtain ⟨-, -, rfl⟩ := saveTOTPHistory_eq_ok.mp hhistory
    rw [hotp]
    exact List.mem_append_right _ (List.mem_singleton_self _)
  refine ⟨token', pending, st, rfl, hpending, hvalid, ?_, fun procs c hstart hc => ?_⟩
  · rw [hwritten.2]
    exact loadTOTPConfiguration_saveTOTPConfiguration hconfig
  · rw [hwritten.1] at hc
    have hzero := Program.countP_eq_zero_of_flag (signTOTPProgram P)
      (q := SignTOTPHandler.signedInRow P.otpHMAC (totpHistoryRow P.otpHMAC s.session.username
        (st * pending.period % 2 ^ 64)))
      (fun _ _ _ _ h => signTOTPStep_signedInRow P hP _ h) hc (by simpa using hrow)
      (SignTOTPHandler.countP_signedInRow_of_isStart hstart)
    have hmono := SignTOTPHandler.countP_signedInStep_le P.otpHMAC c.procs s.session.username
      (st * pending.period % 2 ^ 64)
    omega

theorem totpRegisterPOST_refuses_signIn_john :
    (totpRegisterPOST sha256RegisterProviders
        (totpRegister sha256RegisterProviders johnRegisterState johnRegistrationPUT).2
        (some "492039".toList) 10 false false true).1 = .ok ∧
      ∃ token' pending st, some "492039".toList = some token' ∧
        (totpRegister sha256RegisterProviders johnRegisterState johnRegistrationPUT).2.pending =
          some pending ∧
        sha256RegisterProviders.validate token' (pending.toConfiguration "john".toList) 10 =
          some (true, st) ∧
        loadTOTPConfiguration (totpRegisterPOST sha256RegisterProviders
            (totpRegister sha256RegisterProviders johnRegisterState johnRegistrationPUT).2
            (some "492039".toList) 10 false false true).2.configurations "john".toList =
          some (pending.toConfiguration "john".toList) ∧
        ∀ (procs : List SignTOTPHandler) (c : Config (List (List Char × List Char)) SignTOTPHandler),
          (∀ p ∈ procs, p.isStart = true) →
          (signTOTPProgram johnTOTPProviders).Reachable
            ⟨(totpRegisterPOST sha256RegisterProviders
              (totpRegister sha256RegisterProviders johnRegisterState johnRegistrationPUT).2
              (some "492039".toList) 10 false false true).2.history, procs⟩ c →
          c.procs.countP (·.signedInStep == some ("john".toList, st * pending.period % 2 ^ 64)) = 0 := by
  have hok : (totpRegisterPOST sha256RegisterProviders
      (totpRegister sha256RegisterProviders johnRegisterState johnRegistrationPUT).2
      (some "492039".toList) 10 false false true).1 = .ok := by
    decide
  exact ⟨hok, totpRegisterPOST_refuses_signIn sha256RegisterProviders johnTOTPProviders rfl rfl rfl hok⟩

end Authelia.Handlers
