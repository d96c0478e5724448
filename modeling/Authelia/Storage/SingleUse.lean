import Authelia.Lib.Interleaving

/-! Single-use credentials under concurrent requests (`sql_provider_queries.go`,
`handler_session_elevation.go`, `identity_verification.go`, `handler_reset_password.go`,
`oidc/store.go`). Every handler reads the credential's row, checks it in Go, and then writes with
a conditional `UPDATE` whose affected-row count `checkSingleUpdateResult` turns into success or
an error. Each SQL statement is one atomic step; a handler is a process of the interleaving, and
the store is the one row all of them name. -/

namespace Authelia.Storage
open Interleaving

/-- The columns of a one-time code or identity verification row that the statements test. The IP
columns are written in the same statement as their time, so `consumed_ip IS NULL` adds nothing to
`consumed IS NULL`. -/
structure Row where
  consumed : Bool := false
  revoked : Bool := false
  deriving DecidableEq, Repr

/-- A conditional `UPDATE` of one row: whether `checkSingleUpdateResult` reports one affected row,
and the row after the statement. -/
def updateWhere (guard : Row → Bool) (set : Row → Row) (row : Row) : Bool × Row :=
  if guard row then (true, set row) else (false, row)

/-- `queryFmtConsumeOTC`: `WHERE signature = ? AND consumed IS NULL AND revoked IS NULL`. -/
def consumeOneTimeCode : Row → Bool × Row :=
  updateWhere (fun row => !row.consumed && !row.revoked) fun row => { row with consumed := true }

/-- `queryFmtRevokeOTC`: `WHERE public_id = ? AND consumed IS NULL AND revoked IS NULL`. -/
def revokeOneTimeCode : Row → Bool × Row :=
  updateWhere (fun row => !row.consumed && !row.revoked) fun row => { row with revoked := true }

/-- `queryFmtConsumeIdentityVerification`: `WHERE jti = ? AND consumed IS NULL AND consumed_ip IS
NULL`, which does not test `revoked`. -/
def consumeIdentityVerification : Row → Bool × Row :=
  updateWhere (fun row => !row.consumed) fun row => { row with consumed := true }

/-- `queryFmtRevokeIdentityVerification`: `WHERE jti = ? AND revoked IS NULL AND revoked_ip IS
NULL`, which does not test `consumed`. -/
def revokeIdentityVerification : Row → Bool × Row :=
  updateWhere (fun row => !row.revoked) fun row => { row with revoked := true }

@[simp] theorem updateWhere_fst (guard : Row → Bool) (set : Row → Row) (row : Row) :
    (updateWhere guard set row).1 = guard row := by
  unfold updateWhere
  split <;> simp [*]

@[simp] theorem updateWhere_snd (guard : Row → Bool) (set : Row → Row) (row : Row) :
    (updateWhere guard set row).2 = if guard row then set row else row := by
  unfold updateWhere
  split <;> rfl

/-! ### Session elevation: `UserSessionElevationPUT` and `UserSessionElevateDELETE` -/

/-- Where a session elevation request is. `checks` stands for every test that does not read the
code's row (the session, the body, the code value, its expiry and intent), `saves` for whether
`SaveSession` succeeds. -/
inductive ElevationHandler
  | putLoad (checks saves : Bool)
  | putConsume (saves : Bool)
  | putSave (saves : Bool)
  | putReplyOK
  | deleteLoad (checks : Bool)
  | deleteRevoke
  | deleteReplyOK
  | failed
  deriving DecidableEq, Repr

/-- One statement of a session elevation request. `LoadOneTimeCode` reads the row and the handler
refuses a revoked or consumed code; the `UPDATE` then decides. -/
def elevationStep : ElevationHandler → Row → Option (ElevationHandler × Row)
  | .putLoad checks saves, row =>
    some (if checks && !row.revoked && !row.consumed then .putConsume saves else .failed, row)
  | .putConsume saves, row =>
    some (if (consumeOneTimeCode row).1 then .putSave saves else .failed, (consumeOneTimeCode row).2)
  | .putSave saves, row => some (if saves then .putReplyOK else .failed, row)
  | .deleteLoad checks, row =>
    some (if checks && !row.revoked && !row.consumed then .deleteRevoke else .failed, row)
  | .deleteRevoke, row =>
    some (if (revokeOneTimeCode row).1 then .deleteReplyOK else .failed, (revokeOneTimeCode row).2)
  | .putReplyOK, _ => none
  | .deleteReplyOK, _ => none
  | .failed, _ => none

def elevationProgram : Program Row ElevationHandler := ⟨elevationStep⟩

def ElevationHandler.hasConsumed : ElevationHandler → Bool
  | .putSave _ | .putReplyOK => true
  | _ => false

def ElevationHandler.isStart : ElevationHandler → Bool
  | .putLoad _ _ | .deleteLoad _ => true
  | _ => false

theorem elevationStep_cases {p p' : ElevationHandler} {row row' : Row}
    (h : elevationStep p row = some (p', row')) :
    (row' = row ∧ (p'.hasConsumed = true → p.hasConsumed = true) ∧
        (p' = .deleteReplyOK → p = .deleteReplyOK)) ∨
      (row.consumed = false ∧ row.revoked = false ∧ row' = { row with consumed := true } ∧
        p' ≠ .deleteReplyOK) ∨
      (row.consumed = false ∧ row.revoked = false ∧ row' = { row with revoked := true } ∧
        p'.hasConsumed = false) := by
  cases p with
  | putLoad checks saves =>
    simp only [elevationStep, Option.some.injEq, Prod.mk.injEq] at h
    obtain ⟨rfl, rfl⟩ := h
    left
    split <;> simp [ElevationHandler.hasConsumed]
  | putConsume saves =>
    simp only [elevationStep, consumeOneTimeCode, updateWhere_fst, updateWhere_snd,
      Option.some.injEq, Prod.mk.injEq] at h
    obtain ⟨rfl, rfl⟩ := h
    split
    · next hfresh =>
      simp only [Bool.and_eq_true, Bool.not_eq_eq_eq_not, Bool.not_true] at hfresh
      exact Or.inr (Or.inl ⟨hfresh.1, hfresh.2, rfl, by simp⟩)
    · left
      simp [ElevationHandler.hasConsumed]
  | putSave saves =>
    simp only [elevationStep, Option.some.injEq, Prod.mk.injEq] at h
    obtain ⟨rfl, rfl⟩ := h
    left
    split <;> simp [ElevationHandler.hasConsumed]
  | putReplyOK => cases h
  | deleteLoad checks =>
    simp only [elevationStep, Option.some.injEq, Prod.mk.injEq] at h
    obtain ⟨rfl, rfl⟩ := h
    left
    split <;> simp [ElevationHandler.hasConsumed]
  | deleteRevoke =>
    simp only [elevationStep, revokeOneTimeCode, updateWhere_fst, updateWhere_snd,
      Option.some.injEq, Prod.mk.injEq] at h
    obtain ⟨rfl, rfl⟩ := h
    split
    · next hfresh =>
      simp only [Bool.and_eq_true, Bool.not_eq_eq_eq_not, Bool.not_true] at hfresh
      exact Or.inr (Or.inr ⟨hfresh.1, hfresh.2, rfl, rfl⟩)
    · left
      simp [ElevationHandler.hasConsumed]
  | deleteReplyOK => cases h
  | failed => cases h

section Elevation
variable {procs : List ElevationHandler} (hstart : ∀ p ∈ procs, p.isStart = true)
  {c : Config Row ElevationHandler} (hc : elevationProgram.Reachable ⟨{}, procs⟩ c)
include hstart hc

theorem elevation_countP_hasConsumed_le :
    c.procs.countP ElevationHandler.hasConsumed ≤ if c.store.consumed then 1 else 0 := by
  refine elevationProgram.countP_le_of_flag_of_eq_zero (fun p s p' s' h => ?_) hc ?_
  · rcases elevationStep_cases h with ⟨rfl, h1, -⟩ | ⟨hc0, -, rfl, -⟩ | ⟨-, -, rfl, h1⟩
    · exact Or.inl ⟨rfl, h1⟩
    · exact Or.inr ⟨hc0, rfl⟩
    · exact Or.inl ⟨rfl, by simp [h1]⟩
  · -- no request has run yet
    rw [List.countP_eq_zero]
    intro p hp
    have hp' := hstart p hp
    cases p <;> simp_all [ElevationHandler.isStart, ElevationHandler.hasConsumed]

theorem elevation_countP_deleteReplyOK_le :
    c.procs.countP (· == .deleteReplyOK) ≤ if c.store.revoked then 1 else 0 := by
  refine elevationProgram.countP_le_of_flag_of_eq_zero (fun p s p' s' h => ?_) hc ?_
  · rcases elevationStep_cases h with ⟨rfl, -, h2⟩ | ⟨-, -, rfl, h2⟩ | ⟨-, hr0, rfl, -⟩
    · exact Or.inl ⟨rfl, fun h' => by simp [h2 (beq_iff_eq.mp h')]⟩
    · exact Or.inl ⟨rfl, fun h' => absurd (beq_iff_eq.mp h') h2⟩
    · exact Or.inr ⟨hr0, rfl⟩
  · rw [List.countP_eq_zero]
    intro p hp
    have hp' := hstart p hp
    cases p <;> simp_all [ElevationHandler.isStart]

omit hstart in
theorem elevation_not_consumed_and_revoked :
    ¬(c.store.consumed = true ∧ c.store.revoked = true) := by
  refine @Program.Reachable.invariant _ _ elevationProgram
    (fun c => ¬(c.store.consumed = true ∧ c.store.revoked = true)) _ c hc (by simp) ?_
  rintro c c' hboth ⟨i, hi⟩
  obtain ⟨_, p', row', hs, rfl⟩ := elevationProgram.stepAt_eq_some hi
  rcases elevationStep_cases hs with ⟨rfl, -, -⟩ | ⟨-, hr0, rfl, -⟩ | ⟨hc0, -, rfl, -⟩
  · exact hboth
  · simp [hr0]
  · simp [hc0]

end Elevation

/-- At most one `UserSessionElevationPUT` for a code reaches `ReplyOK`. -/
theorem elevation_countP_putReplyOK_le_one {procs : List ElevationHandler}
    (hstart : ∀ p ∈ procs, p.isStart = true) {c : Config Row ElevationHandler}
    (hc : elevationProgram.Reachable ⟨{}, procs⟩ c) :
    c.procs.countP (· == .putReplyOK) ≤ 1 := by
  have hmono : c.procs.countP (· == .putReplyOK) ≤
      c.procs.countP ElevationHandler.hasConsumed :=
    List.countP_mono_left fun p _ hp => by simp [beq_iff_eq.mp hp, ElevationHandler.hasConsumed]
  have hflag := elevation_countP_hasConsumed_le hstart hc
  split at hflag <;> omega

theorem elevation_countP_putReplyOK_le_one_concurrent :
    elevationProgram.run ⟨{}, [.putLoad true true, .putLoad true true]⟩ [0, 1, 0, 1, 0] =
        some ⟨{ consumed := true }, [.putReplyOK, .failed]⟩ ∧
      [ElevationHandler.putReplyOK, .failed].countP (· == .putReplyOK) ≤ 1 := by
  have hrun : elevationProgram.run ⟨{}, [.putLoad true true, .putLoad true true]⟩
      [0, 1, 0, 1, 0] = some ⟨{ consumed := true }, [.putReplyOK, .failed]⟩ := rfl
  exact ⟨hrun, elevation_countP_putReplyOK_le_one (by decide) (Program.reachable_of_run _ hrun)⟩

/-- No run has both a `UserSessionElevationPUT` and a `UserSessionElevateDELETE` of one code
reach `ReplyOK`. -/
theorem elevation_not_putReplyOK_and_deleteReplyOK {procs : List ElevationHandler}
    (hstart : ∀ p ∈ procs, p.isStart = true) {c : Config Row ElevationHandler}
    (hc : elevationProgram.Reachable ⟨{}, procs⟩ c) :
    ¬(.putReplyOK ∈ c.procs ∧ .deleteReplyOK ∈ c.procs) := by
  rintro ⟨hput, hdelete⟩
  have hconsumed := elevation_countP_hasConsumed_le hstart hc
  have hrevoked := elevation_countP_deleteReplyOK_le hstart hc
  have hput' : 0 < c.procs.countP ElevationHandler.hasConsumed :=
    List.countP_pos_iff.mpr ⟨_, hput, rfl⟩
  have hdelete' : 0 < c.procs.countP (· == .deleteReplyOK) :=
    List.countP_pos_iff.mpr ⟨_, hdelete, beq_self_eq_true _⟩
  refine elevation_not_consumed_and_revoked hc ⟨?_, ?_⟩
  · by_contra hne
    simp only [hne, if_false] at hconsumed
    omega
  · by_contra hne
    simp only [hne, if_false] at hrevoked
    omega

theorem elevation_not_putReplyOK_and_deleteReplyOK_concurrent :
    elevationProgram.run ⟨{}, [.putLoad true true, .deleteLoad true]⟩ [0, 1, 0, 1, 0] =
        some ⟨{ consumed := true }, [.putReplyOK, .failed]⟩ ∧
      ¬(ElevationHandler.putReplyOK ∈ [ElevationHandler.putReplyOK, .failed] ∧
        ElevationHandler.deleteReplyOK ∈ [ElevationHandler.putReplyOK, .failed]) := by
  have hrun : elevationProgram.run ⟨{}, [.putLoad true true, .deleteLoad true]⟩
      [0, 1, 0, 1, 0] = some ⟨{ consumed := true }, [.putReplyOK, .failed]⟩ := rfl
  exact ⟨hrun, elevation_not_putReplyOK_and_deleteReplyOK (by decide)
    (Program.reachable_of_run _ hrun)⟩

/-! ### Identity verification: `IdentityVerificationFinish` and `ResetPasswordDELETE` -/

/-- Where an identity verification request is. `checks` stands for every test that does not read
the row: the token's signature, claims, expiry and action, and the user check. -/
inductive IdentityVerificationHandler
  | finishFind (checks : Bool)
  | finishConsume
  | finishNext
  | resetLoad (checks : Bool)
  | resetRevoke
  | resetReplyOK
  | failed
  deriving DecidableEq, Repr

/-- One statement of an identity verification request. `FindIdentityVerification` refuses a
revoked or consumed row; `ResetPasswordDELETE` loads the row and refuses only a revoked one. -/
def identityVerificationStep :
    IdentityVerificationHandler → Row → Option (IdentityVerificationHandler × Row)
  | .finishFind checks, row =>
    some (if checks && !row.revoked && !row.consumed then .finishConsume else .failed, row)
  | .finishConsume, row =>
    some (if (consumeIdentityVerification row).1 then .finishNext else .failed,
      (consumeIdentityVerification row).2)
  | .resetLoad checks, row => some (if checks && !row.revoked then .resetRevoke else .failed, row)
  | .resetRevoke, row =>
    some (if (revokeIdentityVerification row).1 then .resetReplyOK else .failed,
      (revokeIdentityVerification row).2)
  | .finishNext, _ => none
  | .resetReplyOK, _ => none
  | .failed, _ => none

def identityVerificationProgram : Program Row IdentityVerificationHandler :=
  ⟨identityVerificationStep⟩

def IdentityVerificationHandler.isStart : IdentityVerificationHandler → Bool
  | .finishFind _ | .resetLoad _ => true
  | _ => false

theorem identityVerificationStep_consumed {p p' : IdentityVerificationHandler} {row row' : Row}
    (h : identityVerificationStep p row = some (p', row')) :
    (row'.consumed = row.consumed ∧ (p' = .finishNext → p = .finishNext)) ∨
      (row.consumed = false ∧ row'.consumed = true) := by
  cases p with
  | finishFind checks =>
    simp only [identityVerificationStep, Option.some.injEq, Prod.mk.injEq] at h
    obtain ⟨rfl, rfl⟩ := h
    left
    split <;> simp
  | finishConsume =>
    simp only [identityVerificationStep, consumeIdentityVerification, updateWhere_fst,
      updateWhere_snd, Option.some.injEq, Prod.mk.injEq] at h
    obtain ⟨rfl, rfl⟩ := h
    split
    · next hfresh => exact Or.inr ⟨by simpa using hfresh, rfl⟩
    · exact Or.inl ⟨rfl, by simp⟩
  | resetLoad checks =>
    simp only [identityVerificationStep, Option.some.injEq, Prod.mk.injEq] at h
    obtain ⟨rfl, rfl⟩ := h
    left
    split <;> simp
  | resetRevoke =>
    simp only [identityVerificationStep, revokeIdentityVerification, updateWhere_fst,
      updateWhere_snd, Option.some.injEq, Prod.mk.injEq] at h
    obtain ⟨rfl, rfl⟩ := h
    left
    split <;> simp
  | finishNext => cases h
  | resetReplyOK => cases h
  | failed => cases h

/-- At most one `IdentityVerificationFinish` for a token invokes `next`. -/
theorem identityVerification_countP_finishNext_le_one {procs : List IdentityVerificationHandler}
    (hstart : ∀ p ∈ procs, p.isStart = true) {c : Config Row IdentityVerificationHandler}
    (hc : identityVerificationProgram.Reachable ⟨{}, procs⟩ c) :
    c.procs.countP (· == .finishNext) ≤ 1 := by
  -- the row's consumed flag lets one request through to next
  refine @Program.countP_le_one_of_flag _ _ identityVerificationProgram _ Row.consumed
    (fun p s p' s' h => ?_) _ _ hc ?_
  · rcases identityVerificationStep_consumed h with ⟨hkeep, hnext⟩ | hraise
    · exact Or.inl ⟨hkeep, fun h' => by simp [hnext (beq_iff_eq.mp h')]⟩
    · exact Or.inr hraise
  · rw [List.countP_eq_zero]
    intro p hp
    have hp' := hstart p hp
    cases p <;> simp_all [IdentityVerificationHandler.isStart]

theorem identityVerification_countP_finishNext_le_one_concurrent :
    identityVerificationProgram.run ⟨{}, [.finishFind true, .finishFind true]⟩ [0, 1, 0, 1] =
        some ⟨{ consumed := true }, [.finishNext, .failed]⟩ ∧
      [IdentityVerificationHandler.finishNext, .failed].countP (· == .finishNext) ≤ 1 := by
  have hrun : identityVerificationProgram.run ⟨{}, [.finishFind true, .finishFind true]⟩
      [0, 1, 0, 1] = some ⟨{ consumed := true }, [.finishNext, .failed]⟩ := rfl
  exact ⟨hrun, identityVerification_countP_finishNext_le_one (by decide)
    (Program.reachable_of_run _ hrun)⟩

/-- A password reset token, consumed by `IdentityVerificationFinish`, is then revoked by
`ResetPasswordDELETE`, which replies OK; and a revocation that replies OK first does not stop a
`IdentityVerificationFinish` that read the row before it from invoking `next`. -/
theorem identityVerification_consumed_and_revoked :
    identityVerificationProgram.run ⟨{}, [.finishFind true, .resetLoad true]⟩ [0, 0, 1, 1] =
        some ⟨{ consumed := true, revoked := true }, [.finishNext, .resetReplyOK]⟩ ∧
      identityVerificationProgram.run ⟨{}, [.finishFind true, .resetLoad true]⟩ [0, 1, 1, 0] =
        some ⟨{ consumed := true, revoked := true }, [.finishNext, .resetReplyOK]⟩ :=
  ⟨rfl, rfl⟩

/-! ### Authorization codes: `InvalidateAuthorizeCodeSession` and `GetAuthorizeCodeSession` -/

structure OAuth2Session where
  active : Bool := true
  deriving DecidableEq, Repr

/-- Where a call of the store for one authorization code is: `invalidate` returns `nil` or
`ErrInvalidatedAuthorizeCode`, `get` the request or `ErrInvalidatedAuthorizeCode`. -/
inductive AuthorizeCodeCall
  | invalidate
  | invalidateNil
  | invalidateErr
  | get
  | getOK
  | getInvalidated
  deriving DecidableEq, Repr

/-- `queryFmtDeactivateOAuth2Session`: `SET active = FALSE WHERE signature = ? AND active = TRUE`;
`loadRequesterBySignature` answers `ErrInvalidatedAuthorizeCode` for an inactive row. -/
def authorizeCodeStep : AuthorizeCodeCall → OAuth2Session → Option (AuthorizeCodeCall × OAuth2Session)
  | .invalidate, s => some (if s.active then (.invalidateNil, { active := false }) else (.invalidateErr, s))
  | .get, s => some (if s.active then .getOK else .getInvalidated, s)
  | _, _ => none

def authorizeCodeProgram : Program OAuth2Session AuthorizeCodeCall := ⟨authorizeCodeStep⟩

theorem authorizeCodeStep_active {p p' : AuthorizeCodeCall} {s s' : OAuth2Session}
    (h : authorizeCodeStep p s = some (p', s')) :
    (s' = s ∧ p' ≠ .invalidateNil ∧ (s.active = false → p' ≠ .getOK)) ∨
      (s.active = true ∧ s' = { active := false } ∧ p' = .invalidateNil) := by
  cases p with
  | invalidate =>
    simp only [authorizeCodeStep, Option.some.injEq] at h
    split at h
    · next hactive =>
      obtain ⟨rfl, rfl⟩ := Prod.mk.inj h
      exact Or.inr ⟨hactive, rfl, rfl⟩
    · obtain ⟨rfl, rfl⟩ := Prod.mk.inj h
      exact Or.inl ⟨rfl, by simp, by simp⟩
  | get =>
    simp only [authorizeCodeStep, Option.some.injEq, Prod.mk.injEq] at h
    obtain ⟨rfl, rfl⟩ := h
    refine Or.inl ⟨rfl, by split <;> simp, fun hinactive => ?_⟩
    simp [hinactive]
  | invalidateNil => cases h
  | invalidateErr => cases h
  | getOK => cases h
  | getInvalidated => cases h

section AuthorizeCode
variable {calls : List AuthorizeCodeCall} (hstart : ∀ p ∈ calls, p = .invalidate ∨ p = .get)
  {c : Config OAuth2Session AuthorizeCodeCall}
  (hc : authorizeCodeProgram.Reachable ⟨{}, calls⟩ c)
include hstart hc

theorem authorizeCode_countP_invalidateNil_le :
    c.procs.countP (· == .invalidateNil) ≤ if !c.store.active then 1 else 0 := by
  refine @Program.countP_le_of_flag_of_eq_zero _ _ authorizeCodeProgram _ (fun s => !s.active)
    (fun p s p' s' h => ?_) _ _ hc ?_
  · rcases authorizeCodeStep_active h with ⟨rfl, hne, -⟩ | ⟨hactive, rfl, -⟩
    · exact Or.inl ⟨rfl, fun h' => absurd (beq_iff_eq.mp h') hne⟩
    · exact Or.inr ⟨by simp [hactive], rfl⟩
  · rw [List.countP_eq_zero]
    intro p hp
    rcases hstart p hp with rfl | rfl <;> decide

/-- Once a call to `InvalidateAuthorizeCodeSession` has returned `nil`, every later call to
`GetAuthorizeCodeSession` for the code answers `ErrInvalidatedAuthorizeCode`: no more calls end
with the request. -/
theorem authorizeCode_countP_getOK_le_of_invalidateNil (hnil : .invalidateNil ∈ c.procs)
    {c' : Config OAuth2Session AuthorizeCodeCall} (hc' : authorizeCodeProgram.Reachable c c') :
    c'.procs.countP (· == .getOK) ≤ c.procs.countP (· == .getOK) := by
  -- the row was deactivated by the call that returned `nil`
  have hinactive : c.store.active = false := by
    have hflag := authorizeCode_countP_invalidateNil_le hstart hc
    have hpos : 0 < c.procs.countP (· == .invalidateNil) :=
      List.countP_pos_iff.mpr ⟨_, hnil, beq_self_eq_true _⟩
    by_contra hactive
    simp only [Bool.not_eq_false] at hactive
    simp only [hactive, Bool.not_true, Bool.false_eq_true, if_false] at hflag
    omega
  refine (@Program.Reachable.invariant _ _ authorizeCodeProgram
    (fun c' => c'.store.active = false ∧
      c'.procs.countP (· == .getOK) ≤ c.procs.countP (· == .getOK)) _ _ hc'
    ⟨hinactive, Nat.le_refl _⟩ ?_).2
  rintro d d' ⟨hd, hcount⟩ ⟨i, hi⟩
  obtain ⟨hlt, p', s', hs, rfl⟩ := authorizeCodeProgram.stepAt_eq_some hi
  have hset := Program.countP_set_add (q := (· == AuthorizeCodeCall.getOK)) hlt p'
  rcases authorizeCodeStep_active hs with ⟨rfl, -, hget⟩ | ⟨hactive, -, -⟩
  · -- an inactive row: the call that ran did not end with the request
    refine ⟨hd, ?_⟩
    simp only [beq_eq_false_iff_ne.mpr (hget hd), Bool.false_eq_true, if_false] at hset
    dsimp only
    split at hset <;> omega
  · exact absurd hactive (by simp [hd])

omit hstart hc in
theorem authorizeCode_countP_getOK_le_of_invalidateNil_replayed :
    authorizeCodeProgram.run ⟨{}, [.invalidate, .get]⟩ [0] =
        some ⟨{ active := false }, [.invalidateNil, .get]⟩ ∧
      authorizeCodeProgram.run ⟨{ active := false }, [.invalidateNil, .get]⟩ [1] =
        some ⟨{ active := false }, [.invalidateNil, .getInvalidated]⟩ ∧
      [AuthorizeCodeCall.invalidateNil, .getInvalidated].countP (· == .getOK) ≤
        [AuthorizeCodeCall.invalidateNil, .get].countP (· == .getOK) := by
  have hrun : authorizeCodeProgram.run ⟨{}, [.invalidate, .get]⟩ [0] =
      some ⟨{ active := false }, [.invalidateNil, .get]⟩ := rfl
  have hrun' : authorizeCodeProgram.run ⟨{ active := false }, [.invalidateNil, .get]⟩ [1] =
      some ⟨{ active := false }, [.invalidateNil, .getInvalidated]⟩ := rfl
  exact ⟨hrun, hrun', authorizeCode_countP_getOK_le_of_invalidateNil (by decide)
    (Program.reachable_of_run _ hrun) (by decide) (Program.reachable_of_run _ hrun')⟩

end AuthorizeCode

/-- `InvalidateAuthorizeCodeSession` returns `nil` at most once for a code. -/
theorem authorizeCode_countP_invalidateNil_le_one {calls : List AuthorizeCodeCall}
    (hstart : ∀ p ∈ calls, p = .invalidate ∨ p = .get) {c : Config OAuth2Session AuthorizeCodeCall}
    (hc : authorizeCodeProgram.Reachable ⟨{}, calls⟩ c) :
    c.procs.countP (· == .invalidateNil) ≤ 1 := by
  have hflag := authorizeCode_countP_invalidateNil_le hstart hc
  split at hflag <;> omega

theorem authorizeCode_countP_invalidateNil_le_one_twice :
    authorizeCodeProgram.run ⟨{}, [.invalidate, .invalidate]⟩ [0, 1] =
        some ⟨{ active := false }, [.invalidateNil, .invalidateErr]⟩ ∧
      [AuthorizeCodeCall.invalidateNil, .invalidateErr].countP (· == .invalidateNil) ≤ 1 := by
  have hrun : authorizeCodeProgram.run ⟨{}, [.invalidate, .invalidate]⟩ [0, 1] =
      some ⟨{ active := false }, [.invalidateNil, .invalidateErr]⟩ := rfl
  exact ⟨hrun, authorizeCode_countP_invalidateNil_le_one (by decide)
    (Program.reachable_of_run _ hrun)⟩

end Authelia.Storage
