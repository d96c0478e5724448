import Authelia.Storage.Regulation
import Authelia.Utils.Strings

/-! The regulator (`regulation/regulator.go`). `HandleAttempt` records every authentication attempt
and, after a failed first factor attempt, bans the IP or the user that has failed `MaxRetries`
times since its last success, within `FindTime` and after its last ban. `BanCheck` reports the ban
in effect for the remote IP, else for the user. The storage provider is the in-memory tables of
`Storage.RegulationTables`, which always answer. -/

namespace Authelia

namespace Schema

/-- `schema.Regulation`. A negative `max_retries` disables regulation as `0` does. -/
structure Regulation where
  maxRetries : Nat
  findTime : Int
  banTime : Int
  modes : List (List Char)
  deriving DecidableEq, Repr

end Schema

namespace Regulation
open Storage RegulationTables Utils

inductive BanType
  | none
  | unknown
  | ip
  | user
  deriving DecidableEq, Repr

structure Ban where
  ban : BanType
  value : List Char
  expires : Option Int
  deriving DecidableEq, Repr

def Ban.isBanned (b : Ban) : Bool :=
  match b.ban with
  | .none | .unknown => false
  | _ => true

def authType1FA : List Char := "1FA".toList

def authTypePassword : List Char := "Password".toList

/-- `regulation.Regulator`: either mode switched on implies a positive `MaxRetries`, as
`NewRegulator` sets them. -/
structure Regulator where
  users : Bool
  ips : Bool
  config : Schema.Regulation
  maxRetries_pos : (users || ips) = true → 0 < config.maxRetries

def newRegulator (config : Schema.Regulation) : Regulator where
  users := decide (0 < config.maxRetries) && isStringInSlice "user".toList config.modes
  ips := decide (0 < config.maxRetries) && isStringInSlice "ip".toList config.modes
  config := config
  maxRetries_pos := by
    intro h
    simp only [Bool.or_eq_true, Bool.and_eq_true, decide_eq_true_eq] at h
    rcases h with ⟨hpos, -⟩ | ⟨hpos, -⟩ <;> exact hpos

/-! ### `expires` -/

/-- The loop of `expires`: it breaks at the first success, and past `MaxRetries` failures or
before `since` it continues without keeping the record. -/
def expiresLoop (maxRetries : Nat) (since : Int) :
    List RegulationRecord → List RegulationRecord → List RegulationRecord
  | failures, [] => failures
  | failures, record :: records =>
    if record.successful then failures
    else if maxRetries ≤ failures.length then expiresLoop maxRetries since failures records
    else if record.time < since then expiresLoop maxRetries since failures records
    else expiresLoop maxRetries since (failures ++ [record]) records

/-- `Regulator.expires`, called only with regulation switched on: then `MaxRetries` is positive
and `failures[0]` is in bounds. -/
def Regulator.expires (r : Regulator) (h : 0 < r.config.maxRetries) (since : Int)
    (records : List RegulationRecord) : Option Int :=
  let failures := expiresLoop r.config.maxRetries since [] records
  if hlt : failures.length < r.config.maxRetries then none
  else some ((failures.get ⟨0, by omega⟩).time + r.config.banTime)

/-- The failures the loop can keep: those before the first success and not before `since`. -/
def failuresSince (since : Int) (records : List RegulationRecord) : List RegulationRecord :=
  (records.takeWhile (!·.successful)).filter fun record => !decide (record.time < since)

theorem expiresLoop_eq (maxRetries : Nat) (since : Int) (failures records : List RegulationRecord) :
    expiresLoop maxRetries since failures records =
      failures ++ (failuresSince since records).take (maxRetries - failures.length) := by
  induction records generalizing failures with
  | nil => simp [expiresLoop, failuresSince]
  | cons record records ih =>
    by_cases hs : record.successful = true
    · simp [expiresLoop, failuresSince, hs]
    by_cases hmax : maxRetries ≤ failures.length
    · -- the loop is full: nothing more is kept
      simp [expiresLoop, hs, hmax, ih, Nat.sub_eq_zero_of_le hmax]
    by_cases hsince : record.time < since
    · have hskip : failuresSince since (record :: records) = failuresSince since records := by
        simp [failuresSince, hs, hsince]
      simp [expiresLoop, hs, hmax, hsince, ih, hskip]
    · -- the record is kept, and one place fewer is left
      have hkeep : failuresSince since (record :: records) = record :: failuresSince since records := by
        simp [failuresSince, hs, hsince]
      have hlen : maxRetries - failures.length = (maxRetries - (failures.length + 1)) + 1 := by
        omega
      simp [expiresLoop, hs, hmax, hsince, ih, hkeep, hlen]

theorem Regulator.expires_eq (r : Regulator) (h : 0 < r.config.maxRetries) (since : Int)
    (records : List RegulationRecord) :
    r.expires h since records =
      if (failuresSince since records).length < r.config.maxRetries then none
      else (failuresSince since records).head?.map (·.time + r.config.banTime) := by
  have hloop : expiresLoop r.config.maxRetries since [] records =
      (failuresSince since records).take r.config.maxRetries := by
    simp [expiresLoop_eq]
  unfold Regulator.expires
  dsimp only
  by_cases hlt : (failuresSince since records).length < r.config.maxRetries
  · have hlt' : (expiresLoop r.config.maxRetries since [] records).length < r.config.maxRetries := by
      rw [hloop, List.length_take]
      omega
    rw [dif_pos hlt', if_pos hlt]
  · have hge : ¬(expiresLoop r.config.maxRetries since [] records).length < r.config.maxRetries := by
      rw [hloop, List.length_take]
      omega
    have hpos : 0 < (failuresSince since records).length := by omega
    have hlen : 0 < (expiresLoop r.config.maxRetries since [] records).length := by omega
    -- the first failure the loop keeps is the first in the window
    have hfirst : (expiresLoop r.config.maxRetries since [] records)[0] =
        (failuresSince since records)[0] := by
      rw [List.getElem_of_eq hloop, List.getElem_take]
    rw [dif_neg hge, if_neg hlt]
    simp only [List.get_eq_getElem, hfirst, List.head?_eq_getElem?, List.getElem?_eq_getElem hpos,
      Option.map_some]

/-- The order the regulation queries return: `ORDER BY time DESC`. -/
def NewestFirst (records : List RegulationRecord) : Prop :=
  records.Pairwise fun newer older => older.time ≤ newer.time

instance (records : List RegulationRecord) : Decidable (NewestFirst records) :=
  inferInstanceAs (Decidable (List.Pairwise _ _))

theorem failuresSince_sublist (since : Int) (records : List RegulationRecord) :
    (failuresSince since records).Sublist records :=
  List.filter_sublist.trans (List.takeWhile_sublist _)

theorem NewestFirst.time_le_head {f g : RegulationRecord} {rest : List RegulationRecord}
    (h : NewestFirst (f :: rest)) (hg : g ∈ f :: rest) : g.time ≤ f.time := by
  rcases List.mem_cons.mp hg with rfl | hg
  · exact le_refl _
  · exact List.rel_of_pairwise_cons h hg

theorem failuresSince_eq_nil_of_success {since : Int} {records : List RegulationRecord}
    (hsorted : NewestFirst records)
    (hs : ∃ s ∈ records, s.successful = true ∧
      ∀ f ∈ records, f.successful = false → f.time < s.time) :
    failuresSince since records = [] := by
  obtain ⟨s, hmem, -, hnewer⟩ := hs
  cases records with
  | nil => cases hmem
  | cons r rs =>
    cases hr : r.successful with
    | true => simp [failuresSince, hr]
    | false =>
      -- the newest record would be a failure older than a success behind it
      have hlt := hnewer r List.mem_cons_self hr
      have hle : s.time ≤ r.time := hsorted.time_le_head hmem
      omega

/-- `expires` over records newest first: no ban while fewer than `MaxRetries` failures are in the
window before the last success, else a ban until `BanTime` after the newest of them; a success
newer than every failure prevents the ban. -/
theorem Regulator.expires_newest_failure (r : Regulator) (h : 0 < r.config.maxRetries)
    (since : Int) (records : List RegulationRecord) (hsorted : NewestFirst records) :
    (r.expires h since records = none ↔
      (failuresSince since records).length < r.config.maxRetries) ∧
    (∀ t, r.expires h since records = some t → ∃ f ∈ failuresSince since records,
      t = f.time + r.config.banTime ∧ ∀ g ∈ failuresSince since records, g.time ≤ f.time) ∧
    ((∃ s ∈ records, s.successful = true ∧
        ∀ f ∈ records, f.successful = false → f.time < s.time) →
      r.expires h since records = none) := by
  have hwin : NewestFirst (failuresSince since records) :=
    hsorted.sublist (failuresSince_sublist since records)
  rw [r.expires_eq h since records]
  refine ⟨?_, fun t ht => ?_, fun hs => ?_⟩
  · by_cases hlt : (failuresSince since records).length < r.config.maxRetries
    · simp [hlt]
    · obtain ⟨f, rest, hf⟩ : ∃ f rest, failuresSince since records = f :: rest :=
        List.exists_cons_of_length_pos (by omega)
      rw [if_neg hlt, iff_false_intro hlt, hf]
      simp
  · by_cases hlt : (failuresSince since records).length < r.config.maxRetries
    · simp [hlt] at ht
    · -- the window is not empty: its head is the newest failure
      obtain ⟨f, rest, hf⟩ : ∃ f rest, failuresSince since records = f :: rest :=
        List.exists_cons_of_length_pos (by omega)
      rw [if_neg hlt, hf, List.head?_cons, Option.map_some, Option.some_inj] at ht
      rw [hf] at hwin ⊢
      exact ⟨f, List.mem_cons_self, ht.symm, fun g hg => hwin.time_le_head hg⟩
  · rw [failuresSince_eq_nil_of_success hsorted hs]
    simp [h]

def threeFailuresRegulation : Schema.Regulation := ⟨3, 120, 300, ["user".toList]⟩

def threeFailures : List RegulationRecord := [⟨250, false⟩, ⟨200, false⟩, ⟨150, false⟩, ⟨90, false⟩]

theorem expires_newest_failure_threeFailures :
    NewestFirst threeFailures ∧
      ∀ t, (newRegulator threeFailuresRegulation).expires (by decide) 100 threeFailures = some t →
        ∃ f ∈ failuresSince 100 threeFailures, t = f.time + 300 ∧
          ∀ g ∈ failuresSince 100 threeFailures, g.time ≤ f.time := by
  have hsorted : NewestFirst threeFailures := by decide
  exact ⟨hsorted, (Regulator.expires_newest_failure _ _ 100 threeFailures hsorted).2.1⟩

/-! ### `BanCheck` and `HandleAttempt` -/

def banCheckIP (s : RegulationTables) (ip : List Char) (now : Int) : Ban :=
  match s.loadBannedIP ip now with
  | b :: _ => ⟨.ip, ip, b.expires⟩
  | [] => ⟨.none, [], none⟩

/-- `Regulator.BanCheck`: the IP ban, else the user ban. Its error is `ErrUserIsBanned` exactly
when it reports a ban. -/
def banCheck (s : RegulationTables) (ip username : List Char) (now : Int) : Ban :=
  match banCheckIP s ip now with
  | ⟨.none, _, _⟩ =>
    match s.loadBannedUser username now with
    | b :: _ => ⟨.user, username, b.expires⟩
    | [] => ⟨.none, [], none⟩
  | ban => ban

def Regulator.handleAttemptPossibleBannedIP (r : Regulator) (ip : List Char) (since : Int)
    (s : RegulationTables) : RegulationTables :=
  if h : r.ips = true then
    match r.expires (r.maxRetries_pos (by simp [h])) since
        (s.loadRegulationRecordsByIP ip since r.config.maxRetries) with
    | none => s
    | some banexp => s.saveBannedIP { expires := some banexp, value := ip }
  else s

def Regulator.handleAttemptPossibleBannedUser (r : Regulator) (username : List Char)
    (since : Int) (s : RegulationTables) : RegulationTables :=
  if h : r.users = true ∧ username ≠ [] then
    match r.expires (r.maxRetries_pos (by simp [h.1])) since
        (s.loadRegulationRecordsByUser username since r.config.maxRetries) with
    | none => s
    | some banexp => s.saveBannedUser { expires := some banexp, value := username }
  else s

/-- `Regulator.HandleAttempt` at time `now` for a request from `ip`. -/
def Regulator.handleAttempt (r : Regulator) (now : Int) (ip : List Char) (successful : Bool)
    (ban : Ban) (authType : List Char) (s : RegulationTables) : RegulationTables :=
  let ban := if ban.ban = .unknown then { ban with ban := (banCheckIP s ip now).ban } else ban
  let banned := ban.isBanned
  let username := ban.value
  let s := s.appendAuthenticationLog ⟨now, successful, banned, username, authType, ip⟩
  -- the ban checks run only after a failed first factor attempt with no ban in effect
  if successful || banned || (!r.ips && !r.users) || authType != authType1FA then s
  else
    let since := now - r.config.findTime
    let s := r.handleAttemptPossibleBannedIP ip since s
    r.handleAttemptPossibleBannedUser username since s

/-! ### What the regulator reads and writes -/

theorem banCheck_isBanned_eq_false_iff {s : RegulationTables} {ip username : List Char}
    {now : Int} :
    (banCheck s ip username now).isBanned = false ↔
      s.loadBannedIP ip now = [] ∧ s.loadBannedUser username now = [] := by
  unfold banCheck banCheckIP
  cases hip : s.loadBannedIP ip now with
  | cons b bs => simp [Ban.isBanned]
  | nil =>
    cases huser : s.loadBannedUser username now with
    | cons b bs => simp [Ban.isBanned]
    | nil => simp [Ban.isBanned]

theorem Regulator.extends_handleAttemptPossibleBannedIP (r : Regulator) (ip : List Char)
    (since : Int) (s : RegulationTables) : s.Extends (r.handleAttemptPossibleBannedIP ip since s) := by
  unfold Regulator.handleAttemptPossibleBannedIP
  split
  · split
    · exact Extends.refl s
    · exact extends_saveBannedIP s _
  · exact Extends.refl s

theorem Regulator.extends_handleAttemptPossibleBannedUser (r : Regulator) (username : List Char)
    (since : Int) (s : RegulationTables) :
    s.Extends (r.handleAttemptPossibleBannedUser username since s) := by
  unfold Regulator.handleAttemptPossibleBannedUser
  split
  · split
    · exact Extends.refl s
    · exact extends_saveBannedUser s _
  · exact Extends.refl s

theorem Regulator.extends_handleAttempt (r : Regulator) (now : Int) (ip : List Char)
    (successful : Bool) (ban : Ban) (authType : List Char) (s : RegulationTables) :
    s.Extends (r.handleAttempt now ip successful ban authType s) := by
  -- the log row, then the IP ban and the user ban that may follow it
  have hbans : ∀ a username since, s.Extends (r.handleAttemptPossibleBannedUser username since
      (r.handleAttemptPossibleBannedIP ip since (s.appendAuthenticationLog a))) :=
    fun a _ _ => (extends_appendAuthenticationLog s a).trans
      ((r.extends_handleAttemptPossibleBannedIP ip _ _).trans
        (r.extends_handleAttemptPossibleBannedUser _ _ _))
  unfold Regulator.handleAttempt
  dsimp only
  split_ifs
  all_goals first | exact extends_appendAuthenticationLog s _ | exact hbans _ _ _

theorem Regulator.handleAttempt_of_ne_authType1FA (r : Regulator) (now : Int) (ip : List Char)
    (successful : Bool) (ban : Ban) {authType : List Char} (h : authType ≠ authType1FA)
    (s : RegulationTables) :
    ∃ banned, r.handleAttempt now ip successful ban authType s =
      s.appendAuthenticationLog ⟨now, successful, banned, ban.value, authType, ip⟩ := by
  let ban' := if ban.ban = .unknown then { ban with ban := (banCheckIP s ip now).ban } else ban
  have hvalue : ban'.value = ban.value := by
    simp only [ban']
    split <;> rfl
  refine ⟨ban'.isBanned, ?_⟩
  unfold Regulator.handleAttempt
  dsimp only
  rw [if_pos (by simp [h])]
  congr 2

theorem banCheck_isBanned_of_extends {s s' : RegulationTables} (h : s.Extends s')
    {ip username : List Char} {now : Int} (hb : (banCheck s ip username now).isBanned = true) :
    (banCheck s' ip username now).isBanned = true := by
  by_contra hne
  obtain ⟨hip, huser⟩ := banCheck_isBanned_eq_false_iff.mp (Bool.eq_false_iff.mpr hne)
  have hnone : (banCheck s ip username now).isBanned = false :=
    banCheck_isBanned_eq_false_iff.mpr
      ⟨loadBanned_eq_nil_of_suffix h.2.2 hip, loadBanned_eq_nil_of_suffix h.2.1 huser⟩
  simp [hnone] at hb

theorem banCheck_eq_of_bans {s s' : RegulationTables} (husers : s'.bannedUsers = s.bannedUsers)
    (hips : s'.bannedIPs = s.bannedIPs) (ip username : List Char) (now : Int) :
    banCheck s' ip username now = banCheck s ip username now := by
  simp only [banCheck, banCheckIP, loadBannedIP, loadBannedUser, husers, hips]

theorem Regulator.handleAttempt_authTypePassword (r : Regulator) (now : Int) (ip : List Char)
    (successful : Bool) (ban : Ban) (s : RegulationTables) :
    let s' := r.handleAttempt now ip successful ban authTypePassword s
    s'.bannedUsers = s.bannedUsers ∧ s'.bannedIPs = s.bannedIPs ∧
      ∀ username since limit,
        s'.loadRegulationRecordsByUser username since limit =
            s.loadRegulationRecordsByUser username since limit ∧
          s'.loadRegulationRecordsByIP ip since limit = s.loadRegulationRecordsByIP ip since limit := by
  have hne : authTypePassword ≠ "1FA".toList := by decide
  obtain ⟨banned, hs'⟩ := r.handleAttempt_of_ne_authType1FA now ip successful ban hne s
  intro s'
  rw [show s' = _ from hs']
  refine ⟨rfl, rfl, fun username since limit => ⟨?_, ?_⟩⟩
  · exact loadRegulationRecordsByUser_appendAuthenticationLog hne s username since limit
  · exact loadRegulationRecordsByIP_appendAuthenticationLog hne s ip since limit

end Regulation

end Authelia
