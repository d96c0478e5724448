import Authelia.Handlers.Authz
import Authelia.Lib.EraseDups

/-! Authentication method references (`authorization/amr.go`): the flags that record the factors
of a session, the RFC 8176 values `MarshalRFC8176` writes into the `amr` claim of a token, and
`NewAuthenticationMethodsReferencesFromClaim`, which reads them back on the bearer path. Reading
back a marshalled value gives its flags with a hardware or software key counted as WebAuthn, and
its extras without repeats and without the `mfa` or `mca` that the flags already imply. -/

namespace Authelia.Authorization
open Utils

def amrKnowledgeBasedAuthentication : List Char := "kba".toList
def amrMultiFactorAuthentication : List Char := "mfa".toList
def amrMultiChannelAuthentication : List Char := "mca".toList
def amrUserPresence : List Char := "user".toList
def amrPersonalIdentificationNumber : List Char := "pin".toList
def amrPasswordBasedAuthentication : List Char := "pwd".toList
def amrOneTimePassword : List Char := "otp".toList
def amrProofOfPossession : List Char := "pop".toList
def amrHardwareSecuredKey : List Char := "hwk".toList
def amrSoftwareSecuredKey : List Char := "swk".toList
def amrShortMessageService : List Char := "sms".toList

structure AuthenticationMethodsReferences where
  knowledgeBasedAuthentication : Bool := false
  usernameAndPassword : Bool := false
  totp : Bool := false
  duo : Bool := false
  webAuthn : Bool := false
  webAuthnHardware : Bool := false
  webAuthnSoftware : Bool := false
  webAuthnUserPresence : Bool := false
  webAuthnUserVerified : Bool := false
  extra : List (List Char) := []
  deriving DecidableEq, Repr

namespace AuthenticationMethodsReferences

section Methods
variable (r : AuthenticationMethodsReferences)

def factorKnowledge : Bool := r.usernameAndPassword || r.knowledgeBasedAuthentication

def factorPossession : Bool :=
  r.totp || r.duo || r.webAuthn || r.webAuthnHardware || r.webAuthnSoftware

def multiFactorAuthentication : Bool := r.factorKnowledge && r.factorPossession

def channelBrowser : Bool :=
  r.usernameAndPassword || r.totp || r.webAuthn || r.webAuthnHardware || r.webAuthnSoftware

def channelService : Bool := r.duo

def multiChannelAuthentication : Bool := r.channelBrowser && r.channelService

def marshalFlags : List (List Char) :=
  (if r.usernameAndPassword then [amrPasswordBasedAuthentication] else []) ++
    (if r.knowledgeBasedAuthentication then [amrKnowledgeBasedAuthentication] else []) ++
    (if r.totp then [amrOneTimePassword] else []) ++
    (if r.duo then [amrShortMessageService] else []) ++
    (if r.webAuthn || r.webAuthnHardware || r.webAuthnSoftware then [amrProofOfPossession]
      else []) ++
    (if r.webAuthnHardware then [amrHardwareSecuredKey] else []) ++
    (if r.webAuthnSoftware then [amrSoftwareSecuredKey] else []) ++
    (if r.webAuthnUserPresence then [amrUserPresence] else []) ++
    (if r.webAuthnUserVerified then [amrPersonalIdentificationNumber] else []) ++
    (if r.multiFactorAuthentication then [amrMultiFactorAuthentication] else []) ++
    (if r.multiChannelAuthentication then [amrMultiChannelAuthentication] else [])

def marshalRFC8176 : List (List Char) :=
  r.extra.foldl (fun amr extra => if isStringInSlice extra amr then amr else amr ++ [extra])
    r.marshalFlags

/-- Whether the second loop of the parser keeps an extra: `mfa` and `mca` only when the flags do
not imply them. -/
def keepsExtra (extra : List Char) : Bool :=
  if extra = amrMultiFactorAuthentication then !r.multiFactorAuthentication
  else if extra = amrMultiChannelAuthentication then !r.multiChannelAuthentication
  else true

end Methods

end AuthenticationMethodsReferences

open AuthenticationMethodsReferences

def fromClaimStep (acc : AuthenticationMethodsReferences × List (List Char)) (ref : List Char) :
    AuthenticationMethodsReferences × List (List Char) :=
  let (amr, extras) := acc
  if ref = amrKnowledgeBasedAuthentication then ({ amr with knowledgeBasedAuthentication := true }, extras)
  else if ref = amrPasswordBasedAuthentication then ({ amr with usernameAndPassword := true }, extras)
  else if ref = amrOneTimePassword then ({ amr with totp := true }, extras)
  else if ref = amrShortMessageService then ({ amr with duo := true }, extras)
  else if ref = amrProofOfPossession then ({ amr with webAuthn := true }, extras)
  else if ref = amrHardwareSecuredKey then
    ({ amr with webAuthn := true, webAuthnHardware := true }, extras)
  else if ref = amrSoftwareSecuredKey then
    ({ amr with webAuthn := true, webAuthnSoftware := true }, extras)
  else if ref = amrPersonalIdentificationNumber then ({ amr with webAuthnUserVerified := true }, extras)
  else if ref = amrUserPresence then ({ amr with webAuthnUserPresence := true }, extras)
  else (amr, extras ++ [ref])

def newAuthenticationMethodsReferencesFromClaim (claim : List (List Char)) :
    AuthenticationMethodsReferences :=
  let (amr, extras) := claim.foldl fromClaimStep ({}, [])
  extras.foldl (fun amr extra =>
    if amr.keepsExtra extra then { amr with extra := amr.extra ++ [extra] } else amr) amr

/-! ### What the parser reads -/

def knownRefs : List (List Char) :=
  [amrKnowledgeBasedAuthentication, amrPasswordBasedAuthentication, amrOneTimePassword,
    amrShortMessageService, amrProofOfPossession, amrHardwareSecuredKey, amrSoftwareSecuredKey,
    amrPersonalIdentificationNumber, amrUserPresence]

/-- The flags the first loop has set once it has read `claim`, from those of `amr`. -/
def setFlags (amr : AuthenticationMethodsReferences) (claim : List (List Char)) :
    AuthenticationMethodsReferences :=
  { amr with
    knowledgeBasedAuthentication :=
      claim.contains amrKnowledgeBasedAuthentication || amr.knowledgeBasedAuthentication
    usernameAndPassword := claim.contains amrPasswordBasedAuthentication || amr.usernameAndPassword
    totp := claim.contains amrOneTimePassword || amr.totp
    duo := claim.contains amrShortMessageService || amr.duo
    webAuthn := claim.contains amrProofOfPossession || claim.contains amrHardwareSecuredKey ||
      claim.contains amrSoftwareSecuredKey || amr.webAuthn
    webAuthnHardware := claim.contains amrHardwareSecuredKey || amr.webAuthnHardware
    webAuthnSoftware := claim.contains amrSoftwareSecuredKey || amr.webAuthnSoftware
    webAuthnUserPresence := claim.contains amrUserPresence || amr.webAuthnUserPresence
    webAuthnUserVerified :=
      claim.contains amrPersonalIdentificationNumber || amr.webAuthnUserVerified }

theorem setFlags_nil (amr : AuthenticationMethodsReferences) : setFlags amr [] = amr := rfl

theorem setFlags_append (amr : AuthenticationMethodsReferences) (xs ys : List (List Char)) :
    setFlags (setFlags amr xs) ys = setFlags amr (xs ++ ys) := by
  simp [setFlags, Bool.or_assoc, Bool.or_comm, Bool.or_left_comm]

theorem setFlags_of_unknown (amr : AuthenticationMethodsReferences) {claim : List (List Char)}
    (h : ∀ ref ∈ claim, knownRefs.contains ref = false) : setFlags amr claim = amr := by
  have hv : ∀ v ∈ knownRefs, claim.contains v = false := by
    intro v hv
    by_contra hc
    have := h v (by simpa using hc)
    simp [hv] at this
  simp only [knownRefs, List.forall_mem_cons] at hv
  obtain ⟨h1, h2, h3, h4, h5, h6, h7, h8, h9, -⟩ := hv
  simp only [setFlags, h1, h2, h3, h4, h5, h6, h7, h8, h9, Bool.false_or]

theorem fromClaimStep_eq (amr : AuthenticationMethodsReferences) (extras : List (List Char))
    (ref : List Char) :
    fromClaimStep (amr, extras) ref =
      (setFlags amr [ref], if knownRefs.contains ref then extras else extras ++ [ref]) := by
  -- One case per value of the switch, where both sides compute; then the default case.
  by_cases h1 : ref = amrKnowledgeBasedAuthentication
  · subst h1; rfl
  by_cases h2 : ref = amrPasswordBasedAuthentication
  · subst h2; rfl
  by_cases h3 : ref = amrOneTimePassword
  · subst h3; rfl
  by_cases h4 : ref = amrShortMessageService
  · subst h4; rfl
  by_cases h5 : ref = amrProofOfPossession
  · subst h5; rfl
  by_cases h6 : ref = amrHardwareSecuredKey
  · subst h6; rfl
  by_cases h7 : ref = amrSoftwareSecuredKey
  · subst h7; rfl
  by_cases h8 : ref = amrPersonalIdentificationNumber
  · subst h8; rfl
  by_cases h9 : ref = amrUserPresence
  · subst h9; rfl
  have hunknown : knownRefs.contains ref = false := by
    simp [knownRefs, h1, h2, h3, h4, h5, h6, h7, h8, h9]
  have hflags : setFlags amr [ref] = amr :=
    setFlags_of_unknown amr fun x hx => by rw [List.mem_singleton.mp hx]; exact hunknown
  simp only [fromClaimStep, if_neg h1, if_neg h2, if_neg h3, if_neg h4, if_neg h5, if_neg h6,
    if_neg h7, if_neg h8, if_neg h9, hflags, hunknown]
  rfl

theorem foldl_fromClaimStep (claim : List (List Char)) (amr : AuthenticationMethodsReferences)
    (extras : List (List Char)) :
    claim.foldl fromClaimStep (amr, extras) =
      (setFlags amr claim, extras ++ claim.filter fun ref => !knownRefs.contains ref) := by
  induction claim generalizing amr extras with
  | nil => simp [setFlags_nil]
  | cons ref claim ih =>
    rw [List.foldl_cons, fromClaimStep_eq, ih, setFlags_append, List.singleton_append,
      List.filter_cons]
    cases knownRefs.contains ref <;> simp

theorem keepsExtra_with_extra (amr : AuthenticationMethodsReferences) (l : List (List Char)) :
    { amr with extra := l }.keepsExtra = amr.keepsExtra := rfl

theorem foldl_keepsExtra (extras : List (List Char)) (amr : AuthenticationMethodsReferences) :
    extras.foldl (fun amr extra =>
        if amr.keepsExtra extra then { amr with extra := amr.extra ++ [extra] } else amr) amr =
      { amr with extra := amr.extra ++ extras.filter amr.keepsExtra } := by
  induction extras generalizing amr with
  | nil => simp
  | cons e extras ih =>
    rw [List.foldl_cons]
    by_cases h : amr.keepsExtra e = true
    · rw [if_pos h, ih, keepsExtra_with_extra, List.filter_cons_of_pos h]
      simp
    · rw [if_neg h, ih, List.filter_cons_of_neg h]

theorem newAuthenticationMethodsReferencesFromClaim_eq (claim : List (List Char)) :
    newAuthenticationMethodsReferencesFromClaim claim =
      { setFlags {} claim with
        extra := (claim.filter fun ref => !knownRefs.contains ref).filter (setFlags {} claim).keepsExtra } := by
  rw [newAuthenticationMethodsReferencesFromClaim, foldl_fromClaimStep]
  dsimp only
  rw [foldl_keepsExtra]
  simp [setFlags]

/-! ### What `MarshalRFC8176` writes -/

theorem marshalRFC8176_eq (r : AuthenticationMethodsReferences) :
    r.marshalRFC8176 =
      r.marshalFlags ++ (r.extra.filter fun e => !r.marshalFlags.contains e).eraseDups := by
  simp only [marshalRFC8176, isStringInSlice_eq_contains]
  exact List.foldl_append_absent _ _

theorem contains_ite_singleton {b : Bool} {v w : List Char} :
    (if b then [v] else []).contains w = (b && w == v) := by
  cases b
  · rfl
  · rw [if_pos rfl, List.contains_cons, List.contains_nil, Bool.or_false, Bool.true_and]

/-- `WebAuthn` as the parser sets it: also for a hardware or a software key. -/
def withWebAuthnImplied (r : AuthenticationMethodsReferences) : AuthenticationMethodsReferences :=
  { r with webAuthn := r.webAuthn || r.webAuthnHardware || r.webAuthnSoftware }

theorem setFlags_marshalFlags (r : AuthenticationMethodsReferences) :
    setFlags {} r.marshalFlags = { withWebAuthnImplied r with extra := [] } := by
  simp only [setFlags, marshalFlags, List.contains_append, contains_ite_singleton]
  simp [amrKnowledgeBasedAuthentication, amrPasswordBasedAuthentication, amrOneTimePassword,
    amrShortMessageService, amrProofOfPossession, amrHardwareSecuredKey, amrSoftwareSecuredKey,
    amrPersonalIdentificationNumber, amrUserPresence, amrMultiFactorAuthentication,
    amrMultiChannelAuthentication, withWebAuthnImplied]
  -- The proof-of-possession value also stands for a hardware or a software key.
  cases r.webAuthnHardware <;> cases r.webAuthnSoftware <;> simp

theorem filter_ite_singleton {b : Bool} {v : List Char} (p : List Char → Bool) :
    (if b then [v] else []).filter p = if b && p v then [v] else [] := by
  cases b <;> cases hp : p v <;> simp [hp]

theorem marshalFlags_contains_of_unknown (r : AuthenticationMethodsReferences) {e : List Char}
    (he : knownRefs.contains e = false) : r.marshalFlags.contains e = !r.keepsExtra e := by
  simp only [knownRefs, List.contains_cons, List.contains_nil, Bool.or_false,
    Bool.or_eq_false_iff] at he
  obtain ⟨h1, h2, h3, h4, h5, h6, h7, h8, h9⟩ := he
  simp only [marshalFlags, List.contains_append, contains_ite_singleton, h1, h2, h3, h4, h5, h6,
    h7, h8, h9, Bool.and_false, Bool.false_or]
  unfold keepsExtra
  by_cases hm : e = amrMultiFactorAuthentication
  · subst hm
    have hne : (amrMultiFactorAuthentication == amrMultiChannelAuthentication) = false := by decide
    simp [hne]
  by_cases hc : e = amrMultiChannelAuthentication
  · subst hc
    simp [hm]
  simp [hm, hc]

theorem filter_marshalFlags_unknown (r : AuthenticationMethodsReferences) :
    r.marshalFlags.filter (fun ref => !knownRefs.contains ref) =
      (if r.multiFactorAuthentication then [amrMultiFactorAuthentication] else []) ++
        (if r.multiChannelAuthentication then [amrMultiChannelAuthentication] else []) := by
  simp only [marshalFlags, List.filter_append, filter_ite_singleton]
  simp [knownRefs, amrKnowledgeBasedAuthentication, amrPasswordBasedAuthentication,
    amrOneTimePassword, amrShortMessageService, amrProofOfPossession, amrHardwareSecuredKey,
    amrSoftwareSecuredKey, amrPersonalIdentificationNumber, amrUserPresence,
    amrMultiFactorAuthentication, amrMultiChannelAuthentication]

/-! ### The round trip -/

section WebAuthnImplied
variable (r : AuthenticationMethodsReferences)

theorem factorPossession_withWebAuthnImplied :
    (withWebAuthnImplied r).factorPossession = r.factorPossession := by
  simp only [factorPossession, withWebAuthnImplied]
  cases r.webAuthnHardware <;> cases r.webAuthnSoftware <;> simp

theorem channelBrowser_withWebAuthnImplied :
    (withWebAuthnImplied r).channelBrowser = r.channelBrowser := by
  simp only [channelBrowser, withWebAuthnImplied]
  cases r.webAuthnHardware <;> cases r.webAuthnSoftware <;> simp

theorem multiFactorAuthentication_withWebAuthnImplied :
    (withWebAuthnImplied r).multiFactorAuthentication = r.multiFactorAuthentication := by
  rw [multiFactorAuthentication, factorPossession_withWebAuthnImplied]
  rfl

theorem multiChannelAuthentication_withWebAuthnImplied :
    (withWebAuthnImplied r).multiChannelAuthentication = r.multiChannelAuthentication := by
  rw [multiChannelAuthentication, channelBrowser_withWebAuthnImplied]
  rfl

theorem keepsExtra_withWebAuthnImplied : (withWebAuthnImplied r).keepsExtra = r.keepsExtra := by
  funext e
  simp only [keepsExtra, multiFactorAuthentication_withWebAuthnImplied,
    multiChannelAuthentication_withWebAuthnImplied]

theorem marshalFlags_withWebAuthnImplied :
    (withWebAuthnImplied r).marshalFlags = r.marshalFlags := by
  unfold marshalFlags
  rw [multiFactorAuthentication_withWebAuthnImplied, multiChannelAuthentication_withWebAuthnImplied]
  simp only [withWebAuthnImplied]
  -- Only the condition of the proof-of-possession value reads WebAuthn.
  have hpop : (r.webAuthn || r.webAuthnHardware || r.webAuthnSoftware || r.webAuthnHardware ||
      r.webAuthnSoftware) = (r.webAuthn || r.webAuthnHardware || r.webAuthnSoftware) := by
    cases r.webAuthnHardware <;> cases r.webAuthnSoftware <;> simp
  simp only [hpop]
  rfl

end WebAuthnImplied

section RoundTrip
variable (r : AuthenticationMethodsReferences)
  (hextra : ∀ e ∈ r.extra, knownRefs.contains e = false)
include hextra

theorem filter_not_contains_marshalFlags :
    (r.extra.filter fun e => !r.marshalFlags.contains e) = r.extra.filter r.keepsExtra :=
  List.filter_congr fun e he => by
    rw [marshalFlags_contains_of_unknown r (hextra e he), Bool.not_not]

theorem fromClaim_marshalRFC8176_eq :
    newAuthenticationMethodsReferencesFromClaim r.marshalRFC8176 =
      { withWebAuthnImplied r with extra := (r.extra.filter r.keepsExtra).eraseDups } := by
  have hE := filter_not_contains_marshalFlags r hextra
  have hunknownE : ∀ e ∈ (r.extra.filter fun e => !r.marshalFlags.contains e).eraseDups,
      knownRefs.contains e = false := by
    intro e he
    rw [List.mem_eraseDups, List.mem_filter] at he
    exact hextra e he.1
  have hflags : setFlags {} r.marshalRFC8176 = { withWebAuthnImplied r with extra := [] } := by
    rw [marshalRFC8176_eq, ← setFlags_append, setFlags_marshalFlags, setFlags_of_unknown _ hunknownE]
  -- The derived `mfa` and `mca` are dropped again, the extras are all kept.
  have hderived : ((if r.multiFactorAuthentication then [amrMultiFactorAuthentication] else []) ++
      (if r.multiChannelAuthentication then [amrMultiChannelAuthentication] else [])).filter
        r.keepsExtra = [] := by
    have hne : (amrMultiChannelAuthentication = amrMultiFactorAuthentication) = False := by
      simp only [eq_iff_iff, iff_false]
      decide
    cases hm : r.multiFactorAuthentication <;> cases hc : r.multiChannelAuthentication <;>
      simp [keepsExtra, hm, hc, hne]
  have hkept : ∀ e ∈ (r.extra.filter fun e => !r.marshalFlags.contains e).eraseDups,
      (!knownRefs.contains e) = true := by
    intro e he
    rw [hunknownE e he]
    rfl
  have hextras : ((r.extra.filter fun e => !r.marshalFlags.contains e).eraseDups).filter
      r.keepsExtra = (r.extra.filter r.keepsExtra).eraseDups := by
    rw [hE]
    refine List.filter_eq_self.mpr fun e he => ?_
    rw [List.mem_eraseDups, List.mem_filter] at he
    exact he.2
  rw [newAuthenticationMethodsReferencesFromClaim_eq, hflags, marshalRFC8176_eq, List.filter_append,
    filter_marshalFlags_unknown, List.filter_eq_self.mpr hkept, keepsExtra_with_extra,
    keepsExtra_withWebAuthnImplied, List.filter_append, hderived, hextras, List.nil_append]

theorem marshalRFC8176_fromClaim_marshalRFC8176 :
    (newAuthenticationMethodsReferencesFromClaim r.marshalRFC8176).marshalRFC8176 =
      r.marshalRFC8176 := by
  have hkept : ∀ e ∈ (r.extra.filter r.keepsExtra).eraseDups,
      (!r.marshalFlags.contains e) = true := by
    intro e he
    rw [List.mem_eraseDups, List.mem_filter] at he
    rw [marshalFlags_contains_of_unknown r (hextra e he.1), he.2]
    rfl
  have hflags : (newAuthenticationMethodsReferencesFromClaim r.marshalRFC8176).marshalFlags =
      r.marshalFlags := by
    rw [fromClaim_marshalRFC8176_eq r hextra]
    exact marshalFlags_withWebAuthnImplied r
  have hextras : (newAuthenticationMethodsReferencesFromClaim r.marshalRFC8176).extra =
      (r.extra.filter r.keepsExtra).eraseDups := by
    rw [fromClaim_marshalRFC8176_eq r hextra]
  rw [marshalRFC8176_eq (newAuthenticationMethodsReferencesFromClaim _), hflags, hextras,
    marshalRFC8176_eq r, List.filter_eq_self.mpr hkept,
    List.eraseDups_eq_self (List.nodup_eraseDups _), filter_not_contains_marshalFlags r hextra]

end RoundTrip

/-! ### The level of a bearer token -/

structure UserSession where
  username : List Char
  authenticationMethodRefs : AuthenticationMethodsReferences

def UserSession.authenticationLevel (s : UserSession) (passkey2FA : Bool) : Authentication.Level :=
  if s.username = [] then .notAuthenticated
  else if s.authenticationMethodRefs.factorPossession && s.authenticationMethodRefs.factorKnowledge then
    .twoFactor
  else if passkey2FA && s.authenticationMethodRefs.webAuthn &&
      s.authenticationMethodRefs.webAuthnUserVerified then .twoFactor
  else if s.authenticationMethodRefs.factorPossession || s.authenticationMethodRefs.factorKnowledge then
    .oneFactor
  else .notAuthenticated

/-- The level `handleVerifyGETAuthorizationBearerIntrospection` gives a token of a user, from the
`amr` claim of its session. -/
def bearerIntrospectionLevel (claim : List (List Char)) : Authentication.Level :=
  if (newAuthenticationMethodsReferencesFromClaim claim).multiFactorAuthentication then .twoFactor
  else .oneFactor

theorem toNat_authenticationLevel_of_ne (s : UserSession) (passkey2FA : Bool)
    (hauth : s.authenticationLevel passkey2FA ≠ .notAuthenticated) :
    1 ≤ (s.authenticationLevel passkey2FA).toNat ∧
      (s.authenticationMethodRefs.multiFactorAuthentication = true →
        s.authenticationLevel passkey2FA = .twoFactor) := by
  have hname : s.username ≠ [] := by
    intro h
    exact hauth (by rw [UserSession.authenticationLevel, if_pos h])
  refine ⟨?_, fun hmfa => ?_⟩
  · unfold UserSession.authenticationLevel at hauth ⊢
    split_ifs at hauth ⊢ <;> simp_all [Authentication.Level.toNat]
  · have hboth : (s.authenticationMethodRefs.factorPossession &&
        s.authenticationMethodRefs.factorKnowledge) = true := by
      rw [multiFactorAuthentication, Bool.and_eq_true] at hmfa
      rw [Bool.and_eq_true]
      exact ⟨hmfa.2, hmfa.1⟩
    rw [UserSession.authenticationLevel, if_neg hname, if_pos hboth]

theorem newAuthenticationMethodsReferencesFromClaim_marshalRFC8176
    (r : AuthenticationMethodsReferences) (hextra : ∀ e ∈ r.extra, knownRefs.contains e = false) :
    (newAuthenticationMethodsReferencesFromClaim r.marshalRFC8176).factorKnowledge =
        r.factorKnowledge ∧
      (newAuthenticationMethodsReferencesFromClaim r.marshalRFC8176).factorPossession =
        r.factorPossession ∧
      (newAuthenticationMethodsReferencesFromClaim r.marshalRFC8176).multiFactorAuthentication =
        r.multiFactorAuthentication ∧
      (newAuthenticationMethodsReferencesFromClaim r.marshalRFC8176).multiChannelAuthentication =
        r.multiChannelAuthentication ∧
      newAuthenticationMethodsReferencesFromClaim r.marshalRFC8176 =
        { withWebAuthnImplied r with extra := (r.extra.filter r.keepsExtra).eraseDups } ∧
      ((∀ e ∈ r.extra, r.keepsExtra e = true) →
        newAuthenticationMethodsReferencesFromClaim r.marshalRFC8176 =
          { withWebAuthnImplied r with extra := r.extra.eraseDups }) ∧
      (newAuthenticationMethodsReferencesFromClaim r.marshalRFC8176).marshalRFC8176 =
        r.marshalRFC8176 ∧
      ∀ (s : UserSession) (passkey2FA : Bool), s.authenticationMethodRefs = r →
        s.authenticationLevel passkey2FA ≠ .notAuthenticated →
        (bearerIntrospectionLevel r.marshalRFC8176).toNat ≤
          (s.authenticationLevel passkey2FA).toNat := by
  have heq := fromClaim_marshalRFC8176_eq r hextra
  have hmfa : (newAuthenticationMethodsReferencesFromClaim r.marshalRFC8176).multiFactorAuthentication =
      r.multiFactorAuthentication := by
    rw [heq]
    exact multiFactorAuthentication_withWebAuthnImplied r
  refine ⟨by rw [heq]; rfl, ?_, hmfa, ?_, heq, fun hkeep => ?_,
    marshalRFC8176_fromClaim_marshalRFC8176 r hextra, ?_⟩
  · rw [heq]
    exact factorPossession_withWebAuthnImplied r
  · rw [heq]
    exact multiChannelAuthentication_withWebAuthnImplied r
  · rw [heq, List.filter_eq_self.mpr hkeep]
  -- The bearer path reads only `mfa`, which the session's references imply exactly when the
  -- session is at two factors.
  · intro s passkey2FA hs hauth
    obtain ⟨hone, htwo⟩ := toNat_authenticationLevel_of_ne s passkey2FA hauth
    unfold bearerIntrospectionLevel
    rw [hmfa]
    by_cases hm : r.multiFactorAuthentication = true
    · rw [if_pos hm, htwo (hs ▸ hm)]
    · rw [if_neg hm]
      exact hone

def passwordAndOneTimePassword : AuthenticationMethodsReferences :=
  { usernameAndPassword := true, knowledgeBasedAuthentication := true, totp := true,
    extra := ["custom".toList, "custom".toList] }

theorem newAuthenticationMethodsReferencesFromClaim_marshalRFC8176_passwordAndOneTimePassword :
    (∀ e ∈ passwordAndOneTimePassword.extra, knownRefs.contains e = false) ∧
      newAuthenticationMethodsReferencesFromClaim passwordAndOneTimePassword.marshalRFC8176 =
        { withWebAuthnImplied passwordAndOneTimePassword with
          extra := (passwordAndOneTimePassword.extra.filter
            passwordAndOneTimePassword.keepsExtra).eraseDups } := by
  have hextra : ∀ e ∈ passwordAndOneTimePassword.extra, knownRefs.contains e = false := by
    simp only [passwordAndOneTimePassword, List.mem_cons, List.not_mem_nil, or_false, or_self,
      forall_eq]
    decide
  exact ⟨hextra,
    (newAuthenticationMethodsReferencesFromClaim_marshalRFC8176 _ hextra).2.2.2.2.1⟩

def passwordAndOneTimePasswordMFA : AuthenticationMethodsReferences :=
  { usernameAndPassword := true, totp := true, extra := [amrMultiFactorAuthentication] }

theorem newAuthenticationMethodsReferencesFromClaim_drops_implied_mfa :
    (∀ e ∈ passwordAndOneTimePasswordMFA.extra, knownRefs.contains e = false) ∧
      passwordAndOneTimePasswordMFA.marshalRFC8176 =
        [amrPasswordBasedAuthentication, amrOneTimePassword, amrMultiFactorAuthentication] ∧
      (newAuthenticationMethodsReferencesFromClaim passwordAndOneTimePasswordMFA.marshalRFC8176).extra =
        [] ∧
      newAuthenticationMethodsReferencesFromClaim passwordAndOneTimePasswordMFA.marshalRFC8176 ≠
        { withWebAuthnImplied passwordAndOneTimePasswordMFA with
          extra := passwordAndOneTimePasswordMFA.extra.eraseDups } := by
  refine ⟨?_, by decide, by decide, by decide⟩
  simp only [passwordAndOneTimePasswordMFA, List.mem_cons, List.not_mem_nil, or_false, forall_eq]
  decide

end Authelia.Authorization
