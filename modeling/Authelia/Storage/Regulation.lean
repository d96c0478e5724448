import Mathlib.Data.List.Basic
import Mathlib.Data.List.Infix

/-! The regulation tables of the storage provider (`sql_provider.go`, `sql_provider_queries.go`):
the authentication log and the bans of users and of IPs. The rows of each table are kept newest
first, which is the `ORDER BY time DESC` of the queries for rows written at non-decreasing times.
An IP is its text, the only form in which the regulator compares or reports it. -/

namespace Authelia.Storage

structure AuthenticationAttempt where
  time : Int
  successful : Bool
  banned : Bool
  username : List Char
  type : List Char
  remoteIP : List Char
  deriving DecidableEq, Repr

/-- `model.BannedUser` and `model.BannedIP`: a ban of a username or of an IP. -/
structure Banned (α : Type) where
  expires : Option Int
  expired : Option Int := none
  revoked : Bool := false
  value : α
  deriving DecidableEq, Repr

structure RegulationRecord where
  time : Int
  successful : Bool
  deriving DecidableEq, Repr

section
variable {α : Type}

/-- A ban in effect at `now`: `revoked = FALSE AND (expires IS NULL OR expires > ?) AND expired IS
NULL`. -/
def Banned.inEffect (b : Banned α) (now : Int) : Bool :=
  !b.revoked && b.expires.all (now < ·) && b.expired.isNone

/-- `banExpiresExpired.Expiration`; the zero value's is the epoch. -/
def Banned.expiration (b : Banned α) : Int :=
  match b.revoked, b.expired, b.expires with
  | true, some expired, _ => expired
  | _, _, some expires => expires
  | _, _, none => 0

end

structure RegulationTables where
  authenticationLogs : List AuthenticationAttempt := []
  bannedUsers : List (Banned (List Char)) := []
  bannedIPs : List (Banned (List Char)) := []
  deriving DecidableEq, Repr

namespace RegulationTables
variable {α : Type} [DecidableEq α]

def loadBanned (bans : List (Banned α)) (value : α) (now : Int) : List (Banned α) :=
  bans.filter fun b => b.value == value && b.inEffect now

def loadBannedUser (s : RegulationTables) (username : List Char) (now : Int) :=
  loadBanned s.bannedUsers username now

def loadBannedIP (s : RegulationTables) (ip : List Char) (now : Int) :=
  loadBanned s.bannedIPs ip now

/-- `queryFmtSelectBannedUserLastExpires` and its IP twin, read through `Expiration`: a query with
no row leaves the zero value. -/
def lastExpiration (bans : List (Banned α)) (value : α) : Int :=
  ((bans.find? (·.value == value)).map Banned.expiration).getD 0

/-- The shared body of `LoadRegulationRecordsByUser` and `LoadRegulationRecordsByIP`: the window
starts at the end of the value's last ban if that is later, and the query keeps the unbanned `1FA`
attempts of the value after it. -/
def loadRegulationRecords (logs : List AuthenticationAttempt)
    (isValue : AuthenticationAttempt → Bool) (expiration since : Int) (limit : Nat) :
    List RegulationRecord :=
  let since := if since < expiration then expiration else since
  ((logs.filter fun a => since < a.time && isValue a && a.type == "1FA".toList && !a.banned).take
    limit).map fun a => ⟨a.time, a.successful⟩

def loadRegulationRecordsByUser (s : RegulationTables) (username : List Char) (since : Int)
    (limit : Nat) : List RegulationRecord :=
  loadRegulationRecords s.authenticationLogs (·.username == username)
    (lastExpiration s.bannedUsers username) since limit

def loadRegulationRecordsByIP (s : RegulationTables) (ip : List Char) (since : Int)
    (limit : Nat) : List RegulationRecord :=
  loadRegulationRecords s.authenticationLogs (·.remoteIP == ip) (lastExpiration s.bannedIPs ip)
    since limit

def appendAuthenticationLog (s : RegulationTables) (attempt : AuthenticationAttempt) :
    RegulationTables :=
  { s with authenticationLogs := attempt :: s.authenticationLogs }

def saveBannedUser (s : RegulationTables) (ban : Banned (List Char)) : RegulationTables :=
  { s with bannedUsers := ban :: s.bannedUsers }

def saveBannedIP (s : RegulationTables) (ban : Banned (List Char)) : RegulationTables :=
  { s with bannedIPs := ban :: s.bannedIPs }

@[simp] theorem appendAuthenticationLog_bannedUsers (s : RegulationTables) (a) :
    (s.appendAuthenticationLog a).bannedUsers = s.bannedUsers := rfl
@[simp] theorem appendAuthenticationLog_bannedIPs (s : RegulationTables) (a) :
    (s.appendAuthenticationLog a).bannedIPs = s.bannedIPs := rfl
@[simp] theorem appendAuthenticationLog_authenticationLogs (s : RegulationTables) (a) :
    (s.appendAuthenticationLog a).authenticationLogs = a :: s.authenticationLogs := rfl
@[simp] theorem saveBannedUser_bannedUsers (s : RegulationTables) (b) :
    (s.saveBannedUser b).bannedUsers = b :: s.bannedUsers := rfl
@[simp] theorem saveBannedUser_bannedIPs (s : RegulationTables) (b) :
    (s.saveBannedUser b).bannedIPs = s.bannedIPs := rfl
@[simp] theorem saveBannedUser_authenticationLogs (s : RegulationTables) (b) :
    (s.saveBannedUser b).authenticationLogs = s.authenticationLogs := rfl
@[simp] theorem saveBannedIP_bannedUsers (s : RegulationTables) (b) :
    (s.saveBannedIP b).bannedUsers = s.bannedUsers := rfl
@[simp] theorem saveBannedIP_bannedIPs (s : RegulationTables) (b) :
    (s.saveBannedIP b).bannedIPs = b :: s.bannedIPs := rfl
@[simp] theorem saveBannedIP_authenticationLogs (s : RegulationTables) (b) :
    (s.saveBannedIP b).authenticationLogs = s.authenticationLogs := rfl

theorem loadRegulationRecords_cons_of_type_ne {a : AuthenticationAttempt}
    (h : a.type ≠ "1FA".toList) (logs : List AuthenticationAttempt)
    (isValue : AuthenticationAttempt → Bool) (expiration since : Int) (limit : Nat) :
    loadRegulationRecords (a :: logs) isValue expiration since limit =
      loadRegulationRecords logs isValue expiration since limit := by
  unfold loadRegulationRecords
  dsimp only
  rw [List.filter_cons_of_neg (by simp only [Bool.and_eq_true, beq_iff_eq, h, and_false,
    false_and, not_false_eq_true])]

theorem loadRegulationRecordsByUser_appendAuthenticationLog {a : AuthenticationAttempt}
    (h : a.type ≠ "1FA".toList) (s : RegulationTables) (username : List Char) (since : Int)
    (limit : Nat) :
    (s.appendAuthenticationLog a).loadRegulationRecordsByUser username since limit =
      s.loadRegulationRecordsByUser username since limit :=
  loadRegulationRecords_cons_of_type_ne h _ _ _ _ _

theorem loadRegulationRecordsByIP_appendAuthenticationLog {a : AuthenticationAttempt}
    (h : a.type ≠ "1FA".toList) (s : RegulationTables) (ip : List Char) (since : Int)
    (limit : Nat) :
    (s.appendAuthenticationLog a).loadRegulationRecordsByIP ip since limit =
      s.loadRegulationRecordsByIP ip since limit :=
  loadRegulationRecords_cons_of_type_ne h _ _ _ _ _

/-! ### The tables only grow -/

/-- Every row of `s` is still in `s'`: the regulator inserts rows and never updates or deletes
one. -/
def Extends (s s' : RegulationTables) : Prop :=
  s.authenticationLogs <:+ s'.authenticationLogs ∧ s.bannedUsers <:+ s'.bannedUsers ∧
    s.bannedIPs <:+ s'.bannedIPs

@[refl] theorem Extends.refl (s : RegulationTables) : s.Extends s :=
  ⟨List.suffix_refl _, List.suffix_refl _, List.suffix_refl _⟩

theorem Extends.trans {s s' s'' : RegulationTables} (h : s.Extends s') (h' : s'.Extends s'') :
    s.Extends s'' :=
  ⟨h.1.trans h'.1, h.2.1.trans h'.2.1, h.2.2.trans h'.2.2⟩

theorem extends_appendAuthenticationLog (s : RegulationTables) (a : AuthenticationAttempt) :
    s.Extends (s.appendAuthenticationLog a) :=
  ⟨List.suffix_cons _ _, List.suffix_refl _, List.suffix_refl _⟩

theorem extends_saveBannedUser (s : RegulationTables) (b : Banned (List Char)) :
    s.Extends (s.saveBannedUser b) :=
  ⟨List.suffix_refl _, List.suffix_cons _ _, List.suffix_refl _⟩

theorem extends_saveBannedIP (s : RegulationTables) (b : Banned (List Char)) :
    s.Extends (s.saveBannedIP b) :=
  ⟨List.suffix_refl _, List.suffix_refl _, List.suffix_cons _ _⟩

theorem loadBanned_eq_nil_of_suffix {bans bans' : List (Banned α)} (hsuffix : bans <:+ bans')
    {value : α} {now : Int} (hnil : loadBanned bans' value now = []) :
    loadBanned bans value now = [] := by
  unfold loadBanned at hnil ⊢
  rw [List.filter_eq_nil_iff] at hnil ⊢
  exact fun b hb => hnil b (hsuffix.subset hb)

end RegulationTables

end Authelia.Storage
