import Mathlib.Data.List.TakeWhile
import Authelia.Regulation.Regulator

/-! Runs of the regulator: `HandleAttempt` called once for each authentication attempt, at times a
clock that never goes back reads, with whatever ban the caller passes. Every ban the regulator
saves is backed by its authentication log: `MaxRetries` failed first factor attempts of the
banned user or IP, none made while a ban was in effect, all within `FindTime` before the newest of
them, and the ban runs until `BanTime` after that newest one. The tables only grow, so what backs
a ban when it is saved backs it in every later state. -/

namespace Authelia.Regulation
open Storage RegulationTables

/-- The order of a log a clock that never goes back writes: newest first. -/
def NewestFirstLog (logs : List AuthenticationAttempt) : Prop :=
  logs.Pairwise fun newer older => older.time ≤ newer.time

/-- The attempts `fs` justify the ban `b` of the value `key` reads: `MaxRetries` failed, unbanned
first factor attempts of the value, newest first, within `FindTime` before the newest `f`, and the
ban runs until `BanTime` after `f`. -/
def Justifies (r : Regulator) (key : AuthenticationAttempt → List Char) (b : Banned (List Char))
    (fs : List AuthenticationAttempt) : Prop :=
  fs.length = r.config.maxRetries ∧
    (∀ a ∈ fs, key a = b.value ∧ a.successful = false ∧ a.banned = false ∧ a.type = authType1FA) ∧
    ∃ f ∈ fs.head?, b.expires = some (f.time + r.config.banTime) ∧
      ∀ a ∈ fs, a.time ≤ f.time ∧ f.time - r.config.findTime < a.time

def Justified (r : Regulator) (logs : List AuthenticationAttempt)
    (key : AuthenticationAttempt → List Char) (b : Banned (List Char)) : Prop :=
  ∃ fs, fs.Sublist logs ∧ Justifies r key b fs

theorem Justified.of_suffix {r : Regulator} {logs logs' : List AuthenticationAttempt}
    {key : AuthenticationAttempt → List Char} {b : Banned (List Char)}
    (h : Justified r logs key b) (hsuffix : logs <:+ logs') : Justified r logs' key b := by
  obtain ⟨fs, hsub, hfs⟩ := h
  exact ⟨fs, hsub.trans hsuffix.sublist, hfs⟩

/-- Every ban of the tables, of a user or of an IP, is justified by their log. -/
structure BansJustified (r : Regulator) (s : RegulationTables) : Prop where
  users : ∀ b ∈ s.bannedUsers, Justified r s.authenticationLogs (·.username) b
  ips : ∀ b ∈ s.bannedIPs, Justified r s.authenticationLogs (·.remoteIP) b

/-- The log as the clock has written it up to `now`: newest first, and no row after `now`. -/
structure LogUpTo (s : RegulationTables) (now : Int) : Prop where
  newestFirst : NewestFirstLog s.authenticationLogs
  le_now : ∀ a ∈ s.authenticationLogs, a.time ≤ now

theorem LogUpTo.mono {s : RegulationTables} {now now' : Int} (h : LogUpTo s now)
    (hle : now ≤ now') : LogUpTo s now' :=
  ⟨h.newestFirst, fun a ha => (h.le_now a ha).trans hle⟩

/-! ### The ban `expires` finds -/

theorem successful_of_mem_failuresSince {since : Int} {records : List RegulationRecord}
    {g : RegulationRecord} (hg : g ∈ failuresSince since records) : g.successful = false := by
  unfold failuresSince at hg
  simpa using List.mem_takeWhile_imp (List.mem_of_mem_filter hg)

theorem time_le_head_of_newestFirstLog {f a : AuthenticationAttempt}
    {rest : List AuthenticationAttempt} (h : NewestFirstLog (f :: rest)) (ha : a ∈ f :: rest) :
    a.time ≤ f.time := by
  rcases List.mem_cons.mp ha with rfl | ha
  · exact le_refl _
  · exact List.rel_of_pairwise_cons h ha

section Expires
variable {r : Regulator} {h : 0 < r.config.maxRetries}

theorem justified_of_expires {logs : List AuthenticationAttempt}
    (key : AuthenticationAttempt → List Char) {value : List Char} {expiration now t : Int}
    (hlog : NewestFirstLog logs) (hnow : ∀ a ∈ logs, a.time ≤ now)
    (hexp : r.expires h (now - r.config.findTime) (loadRegulationRecords logs (key · == value)
      expiration (now - r.config.findTime) r.config.maxRetries) = some t) :
    Justified r logs key { expires := some t, value := value } := by
  set since := now - r.config.findTime with hsince
  set m := r.config.maxRetries
  set since' := if since < expiration then expiration else since
  set p : AuthenticationAttempt → Bool := fun a =>
    since' < a.time && (key a == value) && a.type == "1FA".toList && !a.banned
  set toRecord : AuthenticationAttempt → RegulationRecord := fun a => ⟨a.time, a.successful⟩
  have hrecords : loadRegulationRecords logs (key · == value) expiration since m =
      ((logs.filter p).take m).map toRecord := rfl
  rw [hrecords, r.expires_eq h] at hexp
  split at hexp
  · cases hexp
  rename_i hge
  -- the failures `expires` counts are records of some of the rows the query returns
  obtain ⟨fs, hfs, hfailures⟩ := List.sublist_map_iff.mp
    (failuresSince_sublist since (((logs.filter p).take m).map toRecord))
  have hrow : ∀ a ∈ fs, p a = true := fun a ha =>
    (List.mem_filter.mp (List.mem_of_mem_take (hfs.subset ha))).2
  have hlen : fs.length = m := by
    have hle : fs.length ≤ m := hfs.length_le.trans (List.length_take_le _ _)
    rw [hfailures, List.length_map] at hge
    omega
  have hsub : fs.Sublist logs := hfs.trans ((List.take_sublist _ _).trans List.filter_sublist)
  obtain ⟨f, rest, hf⟩ : ∃ f rest, fs = f :: rest := List.exists_cons_of_length_pos (by omega)
  rw [hfailures, hf] at hexp
  simp only [List.map_cons, List.head?_cons, Option.map_some, Option.some_inj] at hexp
  refine ⟨fs, hsub, hlen, fun a ha => ?_, f, by rw [hf]; rfl, by rw [← hexp], fun a ha => ?_⟩
  · -- a row of the query, counted as a failure
    have hp := hrow a ha
    have hfail : (toRecord a).successful = false :=
      successful_of_mem_failuresSince (hfailures ▸ List.mem_map_of_mem ha)
    simp only [p, Bool.and_eq_true, beq_iff_eq, Bool.not_eq_true'] at hp
    exact ⟨hp.1.1.2, hfail, hp.2, hp.1.2⟩
  · -- the newest row is at most `now`, and every row is after `since`
    have hsorted : NewestFirstLog (f :: rest) := hf ▸ hlog.sublist hsub
    have hp := hrow a ha
    have hf_now : f.time ≤ now := hnow f (hsub.subset (by rw [hf]; exact List.mem_cons_self))
    have hafter : since' < a.time := by
      simp only [p, Bool.and_eq_true, decide_eq_true_eq] at hp
      exact hp.1.1.1
    have hwindow : since ≤ since' := by
      simp only [since']
      split <;> omega
    refine ⟨time_le_head_of_newestFirstLog hsorted (hf ▸ ha), ?_⟩
    omega

end Expires

/-! ### One attempt -/

section Step
variable (r : Regulator)

@[simp] theorem authenticationLogs_handleAttemptPossibleBannedIP (ip : List Char) (since : Int)
    (s : RegulationTables) :
    (r.handleAttemptPossibleBannedIP ip since s).authenticationLogs = s.authenticationLogs := by
  unfold Regulator.handleAttemptPossibleBannedIP
  split
  · split <;> rfl
  · rfl

@[simp] theorem authenticationLogs_handleAttemptPossibleBannedUser (username : List Char)
    (since : Int) (s : RegulationTables) :
    (r.handleAttemptPossibleBannedUser username since s).authenticationLogs =
      s.authenticationLogs := by
  unfold Regulator.handleAttemptPossibleBannedUser
  split
  · split <;> rfl
  · rfl

theorem bansJustified_appendAuthenticationLog {s : RegulationTables} (hs : BansJustified r s)
    (a : AuthenticationAttempt) : BansJustified r (s.appendAuthenticationLog a) :=
  ⟨fun b hb => (hs.users b hb).of_suffix (List.suffix_cons _ _),
    fun b hb => (hs.ips b hb).of_suffix (List.suffix_cons _ _)⟩

theorem bansJustified_handleAttemptPossibleBannedIP {s : RegulationTables} {now : Int}
    (ip : List Char) (hs : BansJustified r s) (hlog : LogUpTo s now) :
    BansJustified r (r.handleAttemptPossibleBannedIP ip (now - r.config.findTime) s) := by
  unfold Regulator.handleAttemptPossibleBannedIP
  split
  · split
    · exact hs
    · rename_i banexp hexp
      refine ⟨hs.users, fun b hb => ?_⟩
      rcases List.mem_cons.mp hb with rfl | hb
      · exact justified_of_expires (·.remoteIP) hlog.newestFirst hlog.le_now hexp
      · exact hs.ips b hb
  · exact hs

theorem bansJustified_handleAttemptPossibleBannedUser {s : RegulationTables} {now : Int}
    (username : List Char) (hs : BansJustified r s) (hlog : LogUpTo s now) :
    BansJustified r (r.handleAttemptPossibleBannedUser username (now - r.config.findTime) s) := by
  unfold Regulator.handleAttemptPossibleBannedUser
  split
  · split
    · exact hs
    · rename_i banexp hexp
      refine ⟨fun b hb => ?_, hs.ips⟩
      rcases List.mem_cons.mp hb with rfl | hb
      · exact justified_of_expires (·.username) hlog.newestFirst hlog.le_now hexp
      · exact hs.users b hb
  · exact hs

theorem handleAttempt_cases (now : Int) (ip : List Char) (successful : Bool) (ban : Ban)
    (authType : List Char) (s : RegulationTables) :
    ∃ a : AuthenticationAttempt, a.time = now ∧
      (r.handleAttempt now ip successful ban authType s = s.appendAuthenticationLog a ∨
        r.handleAttempt now ip successful ban authType s =
          r.handleAttemptPossibleBannedUser a.username (now - r.config.findTime)
            (r.handleAttemptPossibleBannedIP ip (now - r.config.findTime)
              (s.appendAuthenticationLog a))) := by
  unfold Regulator.handleAttempt
  dsimp only
  generalize (if ban.ban = .unknown then { ban with ban := (banCheckIP s ip now).ban } else ban) = ban'
  refine ⟨⟨now, successful, ban'.isBanned, ban'.value, authType, ip⟩, rfl, ?_⟩
  split
  · exact Or.inl rfl
  · exact Or.inr rfl

theorem logUpTo_appendAuthenticationLog {s : RegulationTables} {now : Int} (hlog : LogUpTo s now)
    {a : AuthenticationAttempt} (ha : a.time = now) : LogUpTo (s.appendAuthenticationLog a) now := by
  refine ⟨List.pairwise_cons.mpr ⟨fun b hb => ha ▸ hlog.le_now b hb, hlog.newestFirst⟩, ?_⟩
  intro b hb
  rcases List.mem_cons.mp hb with rfl | hb
  · exact ha.le
  · exact hlog.le_now b hb

theorem logUpTo_of_authenticationLogs {s s' : RegulationTables} {now : Int} (hlog : LogUpTo s now)
    (heq : s'.authenticationLogs = s.authenticationLogs) : LogUpTo s' now :=
  ⟨heq ▸ hlog.newestFirst, heq ▸ hlog.le_now⟩

theorem logUpTo_handleAttempt {s : RegulationTables} {now : Int} (ip : List Char)
    (successful : Bool) (ban : Ban) (authType : List Char) (hlog : LogUpTo s now) :
    LogUpTo (r.handleAttempt now ip successful ban authType s) now := by
  obtain ⟨a, ha, hstop | hcheck⟩ := handleAttempt_cases r now ip successful ban authType s
  · rw [hstop]
    exact logUpTo_appendAuthenticationLog hlog ha
  · rw [hcheck]
    exact logUpTo_of_authenticationLogs (logUpTo_appendAuthenticationLog hlog ha) (by simp)

theorem bansJustified_handleAttempt {s : RegulationTables} {now : Int} (ip : List Char)
    (successful : Bool) (ban : Ban) (authType : List Char) (hs : BansJustified r s)
    (hlog : LogUpTo s now) :
    BansJustified r (r.handleAttempt now ip successful ban authType s) := by
  obtain ⟨a, ha, hstop | hcheck⟩ := handleAttempt_cases r now ip successful ban authType s
  · rw [hstop]
    exact bansJustified_appendAuthenticationLog r hs a
  · -- the log row, then the IP ban over the new log, then the user ban over the same log
    rw [hcheck]
    have hlog₁ := logUpTo_appendAuthenticationLog hlog ha
    have h₁ := bansJustified_handleAttemptPossibleBannedIP r ip
      (bansJustified_appendAuthenticationLog r hs a) hlog₁
    exact bansJustified_handleAttemptPossibleBannedUser r a.username h₁
      (logUpTo_of_authenticationLogs hlog₁ (by simp))

end Step

/-! ### Whole runs -/

structure Attempt where
  now : Int
  ip : List Char
  successful : Bool
  ban : Ban
  authType : List Char
  deriving DecidableEq, Repr

def Regulator.run (r : Regulator) (s : RegulationTables) : List Attempt → RegulationTables
  | [] => s
  | x :: xs => r.run (r.handleAttempt x.now x.ip x.successful x.ban x.authType s) xs

/-- Over any run whose clock never goes back, from tables whose bans are justified and whose log
the clock has written, every ban of the final tables is justified by their log: the regulator
never bans a user or an IP without `MaxRetries` failed, unbanned first factor attempts of it
within `FindTime`, whatever bans the callers pass in. -/
theorem Regulator.bansJustified_run (r : Regulator) :
    ∀ (xs : List Attempt) {s : RegulationTables}, BansJustified r s →
      (∀ x ∈ xs, LogUpTo s x.now) → xs.Pairwise (fun x y => x.now ≤ y.now) →
      BansJustified r (r.run s xs) := by
  intro xs
  induction xs with
  | nil => intro s hs _ _; exact hs
  | cons x xs ih =>
    intro s hs hlog hclock
    obtain ⟨hlater, hclock'⟩ := List.pairwise_cons.mp hclock
    have hlogx := hlog x List.mem_cons_self
    -- the tables after `x` are written up to `x.now`, which no later attempt precedes
    have hlog' : ∀ y ∈ xs, LogUpTo (r.handleAttempt x.now x.ip x.successful x.ban x.authType s)
        y.now := fun y hy =>
      (logUpTo_handleAttempt r x.ip x.successful x.ban x.authType hlogx).mono (hlater y hy)
    exact ih (bansJustified_handleAttempt r x.ip x.successful x.ban x.authType hs hlogx) hlog' hclock'

def johnFails : List Attempt :=
  [100, 150, 200].map fun now =>
    ⟨now, "192.168.1.1".toList, false, ⟨.none, "john".toList, none⟩, authType1FA⟩

theorem Regulator.bansJustified_run_johnFails :
    BansJustified (newRegulator threeFailuresRegulation) {} ∧ (∀ x ∈ johnFails, LogUpTo {} x.now) ∧
      johnFails.Pairwise (fun x y => x.now ≤ y.now) ∧
      BansJustified (newRegulator threeFailuresRegulation)
        ((newRegulator threeFailuresRegulation).run {} johnFails) := by
  have h₀ : BansJustified (newRegulator threeFailuresRegulation) {} :=
    ⟨fun _ h => absurd h List.not_mem_nil, fun _ h => absurd h List.not_mem_nil⟩
  have hlog : ∀ x ∈ johnFails, LogUpTo {} x.now :=
    fun _ _ => ⟨List.Pairwise.nil, fun _ h => absurd h List.not_mem_nil⟩
  have hclock : johnFails.Pairwise (fun x y => x.now ≤ y.now) := by decide
  exact ⟨h₀, hlog, hclock, Regulator.bansJustified_run _ johnFails h₀ hlog hclock⟩

example : ((newRegulator threeFailuresRegulation).run {} johnFails).bannedUsers =
    [{ expires := some 500, value := "john".toList }] := by
  decide

end Authelia.Regulation
