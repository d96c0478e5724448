import Authelia.Lib.Transcript
import Authelia.Lib.Passes
import Authelia.Go.Strings

/-! The credential cache of basic authentication (`authentication/cached.go`). A call computes the
HMAC of the password and the username, each behind its length; an entry of the user that has not
expired and holds that digest answers the call, otherwise the user provider does, and an answer
of valid with no error replaces the user's entry. Calls are sequential, so singleflight only runs
each call once; strings are their bytes, and the clock is read once per call. -/

namespace Authelia.Authentication
open Go

def maxUint32 : Nat := 2 ^ 32 - 1

def putUint32 (n : Nat) : List UInt8 :=
  [UInt8.ofNat (n / 2 ^ 24), UInt8.ofNat (n / 2 ^ 16), UInt8.ofNat (n / 2 ^ 8), UInt8.ofNat n]

def errFmtCacheValueTooLong : List Char :=
  "error occurred calculating cache hmac: value is too long: %d > %d".toList

def writeDigest (digest value : List UInt8) : Except (List Char) (List UInt8) :=
  if maxUint32 < value.length then
    .error (sprintf errFmtCacheValueTooLong [itoa value.length, itoa maxUint32])
  else .ok (digest ++ putUint32 value.length ++ value)

/-- `sum`, for an HMAC `mac` of the written bytes; the hex key only names the singleflight call. -/
def sum {D : Type} (mac : List UInt8 → D) (username password : List UInt8) :
    Except (List Char) D := do
  let digest ← writeDigest [] password
  let digest ← writeDigest digest username
  pure (mac digest)

structure CachedCredential (D : Type) where
  expires : Int
  value : D
  deriving DecidableEq

structure CredentialCacheHMAC (D : Type) where
  lifespan : Int
  values : List UInt8 → Option (CachedCredential D)

def newCredentialCacheHMAC {D : Type} (lifespan : Int) : CredentialCacheHMAC D :=
  ⟨lifespan, fun _ => none⟩

structure CheckCall where
  username : List UInt8
  password : List UInt8
  now : Int
  providerValid : Bool
  providerError : Option (List Char)
  deriving DecidableEq

structure CheckResult where
  valid : Bool
  cached : Bool
  error : Option (List Char)
  deriving DecidableEq

def CheckCall.providerResult (call : CheckCall) : CheckResult :=
  ⟨call.providerValid, false, call.providerError⟩

namespace CredentialCacheHMAC
variable {D : Type} [DecidableEq D]

/-- `valid`: whether the user's entry holds the digest; an entry that expired strictly before now
is deleted. -/
def valid (c : CredentialCacheHMAC D) (now : Int) (username : List UInt8) (value : D) :
    (Bool × Bool) × CredentialCacheHMAC D :=
  match c.values username with
  | some entry =>
    if entry.expires < now then
      ((false, false), { c with values := Function.update c.values username none })
    else ((decide (value = entry.value), true), c)
  | none => ((false, false), c)

def put (c : CredentialCacheHMAC D) (now : Int) (username : List UInt8) (value : D) :
    CredentialCacheHMAC D :=
  { c with values := Function.update c.values username (some ⟨now + c.lifespan, value⟩) }

def checkFlight (c : CredentialCacheHMAC D) (call : CheckCall) (sum : D) :
    CheckResult × CredentialCacheHMAC D :=
  let ((hit, _), c) := c.valid call.now call.username sum
  if hit then (⟨true, true, none⟩, c)
  else
    match call.providerError with
    | some err => (⟨call.providerValid, false, some err⟩, c)
    | none =>
      if call.providerValid then (⟨true, false, none⟩, c.put call.now call.username sum)
      else (⟨false, false, none⟩, c)

def check (mac : List UInt8 → D) (c : CredentialCacheHMAC D) (call : CheckCall) :
    CheckResult × CredentialCacheHMAC D :=
  match sum mac call.username call.password with
  | .error err => (⟨false, false, some err⟩, c)
  | .ok s => c.checkFlight call s

end CredentialCacheHMAC

/-! ### The digest input -/

section Digest
variable {D : Type} {mac : List UInt8 → D}

def digestInput (username password : List UInt8) : List UInt8 :=
  putUint32 password.length ++ password ++ putUint32 username.length ++ username

@[simp] theorem length_putUint32 (n : Nat) : (putUint32 n).length = 4 := rfl

theorem putUint32_inj {n m : Nat} (hn : n ≤ maxUint32) (hm : m ≤ maxUint32)
    (h : putUint32 n = putUint32 m) : n = m := by
  simp only [putUint32, List.cons.injEq, and_true] at h
  obtain ⟨h₁, h₂, h₃, h₄⟩ := h
  have e₁ := congrArg UInt8.toNat h₁
  have e₂ := congrArg UInt8.toNat h₂
  have e₃ := congrArg UInt8.toNat h₃
  have e₄ := congrArg UInt8.toNat h₄
  simp only [UInt8.toNat_ofNat'] at e₁ e₂ e₃ e₄
  unfold maxUint32 at hn hm
  omega

theorem digestInput_inj {u p u' p' : List UInt8} (hp : p.length ≤ maxUint32)
    (hp' : p'.length ≤ maxUint32) (h : digestInput u p = digestInput u' p') : u = u' ∧ p = p' := by
  simp only [digestInput, List.append_assoc] at h
  obtain ⟨h₁, h₂⟩ := List.append_inj h (by simp)
  have hlen := putUint32_inj hp hp' h₁
  obtain ⟨rfl, h₃⟩ := List.append_inj h₂ hlen
  obtain ⟨-, h₄⟩ := List.append_inj h₃ (by simp)
  exact ⟨h₄, rfl⟩

theorem writeDigest_eq_ok {d v d' : List UInt8} (h : writeDigest d v = .ok d') :
    v.length ≤ maxUint32 ∧ d' = d ++ putUint32 v.length ++ v := by
  unfold writeDigest at h
  split at h
  · cases h
  · cases h
    exact ⟨by omega, rfl⟩

theorem writeDigest_of_le (d : List UInt8) {v : List UInt8} (h : v.length ≤ maxUint32) :
    writeDigest d v = .ok (d ++ putUint32 v.length ++ v) := by
  simp [writeDigest, Nat.not_lt.mpr h]

theorem sum_eq_ok {u p : List UInt8} {s : D} (h : sum mac u p = .ok s) :
    p.length ≤ maxUint32 ∧ u.length ≤ maxUint32 ∧ s = mac (digestInput u p) := by
  obtain ⟨d₁, h₁, h⟩ := Except.bind_eq_ok h
  obtain ⟨d₂, h₂, h⟩ := Except.bind_eq_ok h
  obtain ⟨hp, rfl⟩ := writeDigest_eq_ok h₁
  obtain ⟨hu, rfl⟩ := writeDigest_eq_ok h₂
  cases h
  exact ⟨hp, hu, by simp [digestInput]⟩

theorem sum_of_le {u p : List UInt8} (hp : p.length ≤ maxUint32) (hu : u.length ≤ maxUint32) :
    sum mac u p = .ok (mac (digestInput u p)) := by
  rw [sum, writeDigest_of_le _ hp, Except.ok_bind, writeDigest_of_le _ hu, Except.ok_bind]
  simp [digestInput]
  rfl

theorem sum_of_lt {u p : List UInt8} (h : maxUint32 < p.length ∨ maxUint32 < u.length) :
    ∃ err, sum mac u p = .error err := by
  by_cases hp : maxUint32 < p.length
  · exact ⟨_, by rw [sum, writeDigest, if_pos hp, Except.error_bind]⟩
  · have hu : maxUint32 < u.length := h.resolve_left hp
    exact ⟨_, by rw [sum, writeDigest_of_le _ (by omega), Except.ok_bind, writeDigest, if_pos hu,
      Except.error_bind]⟩

theorem sum_inj (hmac : Function.Injective mac) {u p u' p' : List UInt8} {s : D}
    (h : sum mac u p = .ok s) (h' : sum mac u' p' = .ok s) : u = u' ∧ p = p' := by
  obtain ⟨hp, -, hs⟩ := sum_eq_ok h
  obtain ⟨hp', -, hs'⟩ := sum_eq_ok h'
  exact digestInput_inj hp hp' (hmac (hs.symm.trans hs'))

end Digest

/-! ### One call -/

namespace CredentialCacheHMAC
variable {D : Type} [DecidableEq D]

theorem valid_frame (c : CredentialCacheHMAC D) (now : Int) (u : List UInt8) (s : D) :
    (c.valid now u s).2.lifespan = c.lifespan ∧
      (∀ u', u' ≠ u → (c.valid now u s).2.values u' = c.values u') ∧
      ((c.valid now u s).2.values u = none ∨ (c.valid now u s).2.values u = c.values u) := by
  unfold valid
  cases hv : c.values u with
  | none => simp [hv]
  | some e =>
    by_cases hexp : e.expires < now
    · simp +contextual [hexp, Function.update_of_ne]
    · simp [hexp, hv]

theorem valid_of_match {c : CredentialCacheHMAC D} {now : Int} {u : List UInt8} {s : D}
    (h : (c.valid now u s).1.1 = true) :
    ∃ e, c.values u = some e ∧ ¬e.expires < now ∧ s = e.value ∧ (c.valid now u s).2 = c := by
  unfold valid at h ⊢
  cases hv : c.values u with
  | none => simp [hv] at h
  | some e =>
    simp only [hv] at h ⊢
    by_cases hexp : e.expires < now
    · simp [hexp] at h
    · simp only [hexp, if_false, decide_eq_true_eq] at h
      exact ⟨e, rfl, hexp, h, by simp [hexp]⟩

theorem checkFlight_eq (c : CredentialCacheHMAC D) (call : CheckCall) (s : D) :
    c.checkFlight call s =
      if (c.valid call.now call.username s).1.1 then
        (⟨true, true, none⟩, (c.valid call.now call.username s).2)
      else
        match call.providerError with
        | some err => (⟨call.providerValid, false, some err⟩, (c.valid call.now call.username s).2)
        | none =>
          if call.providerValid then
            (⟨true, false, none⟩, (c.valid call.now call.username s).2.put call.now call.username s)
          else (⟨false, false, none⟩, (c.valid call.now call.username s).2) := rfl

theorem checkFlight_of_cached {c : CredentialCacheHMAC D} {call : CheckCall} {s : D}
    (h : (c.checkFlight call s).1.cached = true) :
    ∃ e, c.values call.username = some e ∧ ¬e.expires < call.now ∧ s = e.value ∧
      c.checkFlight call s = (⟨true, true, none⟩, c) := by
  rw [checkFlight_eq] at h ⊢
  cases hhit : (c.valid call.now call.username s).1.1 with
  | false =>
    -- the provider's answers are never cached
    simp only [hhit, Bool.false_eq_true, if_false] at h
    split at h
    · cases h
    · split at h <;> cases h
  | true =>
    obtain ⟨e, he, hexp, hs, hc⟩ := valid_of_match hhit
    exact ⟨e, he, hexp, hs, by rw [if_pos rfl, hc]⟩

theorem checkFlight_of_not_cached {c : CredentialCacheHMAC D} {call : CheckCall} {s : D}
    (h : (c.checkFlight call s).1.cached = false) :
    (c.checkFlight call s).1 = call.providerResult ∧
      (c.checkFlight call s).2.lifespan = c.lifespan ∧
      (∀ u, u ≠ call.username → (c.checkFlight call s).2.values u = c.values u) ∧
      ((c.checkFlight call s).1 = ⟨true, false, none⟩ →
        (c.checkFlight call s).2.values call.username = some ⟨call.now + c.lifespan, s⟩) ∧
      ((c.checkFlight call s).1 ≠ ⟨true, false, none⟩ →
        (c.checkFlight call s).2.values call.username = none ∨
          (c.checkFlight call s).2.values call.username = c.values call.username) := by
  obtain ⟨hlife, hother, hself⟩ := valid_frame c call.now call.username s
  rw [checkFlight_eq] at h ⊢
  cases hhit : (c.valid call.now call.username s).1.1 with
  | true => simp [hhit] at h
  | false =>
    simp only [Bool.false_eq_true, if_false]
    cases herr : call.providerError with
    | some err =>
      exact ⟨by simp [CheckCall.providerResult, herr], hlife, hother, by simp, fun _ => hself⟩
    | none =>
      cases hvalid : call.providerValid with
      | false =>
        exact ⟨by simp [CheckCall.providerResult, herr, hvalid], hlife, hother, by simp,
          fun _ => hself⟩
      | true =>
        -- the provider accepted: the digest replaces the user's entry
        refine ⟨by simp [CheckCall.providerResult, herr, hvalid], hlife, ?_, ?_, ?_⟩
        · intro u hu
          simp [put, Function.update_of_ne hu, hother u hu]
        · intro _
          simp [put, hlife]
        · intro hne
          exact absurd rfl hne

theorem check_of_long (mac : List UInt8 → D) (c : CredentialCacheHMAC D) (call : CheckCall)
    (h : maxUint32 < call.password.length ∨ maxUint32 < call.username.length) :
    ∃ err, c.check mac call = (⟨false, false, some err⟩, c) := by
  obtain ⟨err, herr⟩ : ∃ err, sum mac call.username call.password = .error err := sum_of_lt h
  exact ⟨err, by rw [check, herr]⟩

end CredentialCacheHMAC

/-! ### Runs

The calls of a run are answered one after another (`Transcript.run`). The invariant ties every
entry of the cache to the most recent call of its user that the provider accepted with no error:
the entry holds that call's digest and expires `lifespan` after it. -/

def checks {D : Type} [DecidableEq D] (mac : List UInt8 → D) (lifespan : Int)
    (calls : List CheckCall) : List (CheckCall × CheckResult) :=
  (Transcript.run (fun c call => c.check mac call) (newCredentialCacheHMAC lifespan) calls).1

/-- The most recent call of the user that the provider accepted with no error. -/
def lastAccepted (username : List UInt8) (hist : List (CheckCall × CheckResult)) :
    Option CheckCall :=
  ((hist.filter fun e => e.1.username = username ∧ e.2 = ⟨true, false, none⟩).getLast?).map
    Prod.fst

section LastAccepted
variable {u : List UInt8} {hist : List (CheckCall × CheckResult)}

theorem lastAccepted_append_of_not {call : CheckCall} {r : CheckResult}
    (h : ¬(call.username = u ∧ r = ⟨true, false, none⟩)) :
    lastAccepted u (hist ++ [(call, r)]) = lastAccepted u hist := by
  simp [lastAccepted, List.filter_append, h]

theorem lastAccepted_append_self (call : CheckCall) :
    lastAccepted call.username (hist ++ [(call, ⟨true, false, none⟩)]) = some call := by
  simp [lastAccepted, List.filter_append]

end LastAccepted

section Sound
variable {D : Type} [DecidableEq D] (mac : List UInt8 → D) (lifespan : Int)

/-- Every entry of the cache is the digest of the user's last accepted call, and expires
`lifespan` after it. -/
structure CacheSound (c : CredentialCacheHMAC D) (hist : List (CheckCall × CheckResult)) : Prop where
  lifespan_eq : c.lifespan = lifespan
  entry : ∀ u e, c.values u = some e → ∃ prev, lastAccepted u hist = some prev ∧
    sum mac u prev.password = .ok e.value ∧ e.expires = prev.now + lifespan

omit [DecidableEq D] in
theorem cacheSound_new : CacheSound mac lifespan (newCredentialCacheHMAC lifespan) [] :=
  ⟨rfl, fun _ _ h => by cases h⟩

variable {mac lifespan}

omit [DecidableEq D] in
theorem CacheSound.of_not_accepted {c c' : CredentialCacheHMAC D} {hist} {call : CheckCall}
    {r : CheckResult} (hinv : CacheSound mac lifespan c hist) (hlife : c'.lifespan = c.lifespan)
    (hvalues : ∀ u, c'.values u = none ∨ c'.values u = c.values u)
    (hr : r ≠ ⟨true, false, none⟩) : CacheSound mac lifespan c' (hist ++ [(call, r)]) := by
  refine ⟨hlife.trans hinv.lifespan_eq, fun u e he => ?_⟩
  have hold : c.values u = some e := by
    rcases hvalues u with h | h
    · rw [h] at he
      cases he
    · rwa [← h]
  rw [lastAccepted_append_of_not fun h => hr h.2]
  exact hinv.entry u e hold

theorem CacheSound.check {c : CredentialCacheHMAC D} {hist} (hinv : CacheSound mac lifespan c hist)
    (call : CheckCall) :
    CacheSound mac lifespan (c.check mac call).2 (hist ++ [(call, (c.check mac call).1)]) := by
  unfold CredentialCacheHMAC.check
  cases hs : sum mac call.username call.password with
  | error err =>
    exact hinv.of_not_accepted rfl (fun _ => Or.inr rfl) (by simp)
  | ok s =>
    dsimp only
    cases hcached : (c.checkFlight call s).1.cached with
    | true =>
      obtain ⟨-, -, -, -, hflight⟩ := CredentialCacheHMAC.checkFlight_of_cached hcached
      rw [hflight]
      exact hinv.of_not_accepted rfl (fun _ => Or.inr rfl) (by simp)
    | false =>
      obtain ⟨-, hlife, hother, hput, hkeep⟩ :=
        CredentialCacheHMAC.checkFlight_of_not_cached hcached
      by_cases hacc : (c.checkFlight call s).1 = ⟨true, false, none⟩
      · -- the provider accepted: the user's entry is the digest of this call
        refine ⟨hlife.trans hinv.lifespan_eq, fun u e he => ?_⟩
        rw [hacc]
        by_cases hu : u = call.username
        · subst hu
          rw [hput hacc, Option.some_inj] at he
          subst he
          exact ⟨call, lastAccepted_append_self call, hs, by rw [hinv.lifespan_eq]⟩
        · rw [hother u hu] at he
          rw [lastAccepted_append_of_not fun h => hu h.1.symm]
          exact hinv.entry u e he
      · -- otherwise the user's entry was kept or deleted, the others are unchanged
        refine hinv.of_not_accepted hlife (fun u => ?_) hacc
        by_cases hu : u = call.username
        · subst hu
          exact hkeep hacc
        · exact Or.inr (hother u hu)

theorem CacheSound.check_result (hmac : Function.Injective mac) {c : CredentialCacheHMAC D} {hist}
    (hinv : CacheSound mac lifespan c hist) (call : CheckCall) :
    ((c.check mac call).1.cached = true → (c.check mac call).1 = ⟨true, true, none⟩ ∧
      ∃ prev, lastAccepted call.username hist = some prev ∧ prev.password = call.password ∧
        call.now ≤ prev.now + lifespan) ∧
    ((c.check mac call).1.cached = false →
      (call.password.length ≤ maxUint32 → call.username.length ≤ maxUint32 →
        (c.check mac call).1 = call.providerResult) ∧
      (maxUint32 < call.password.length ∨ maxUint32 < call.username.length →
        ∃ err, (c.check mac call).1 = ⟨false, false, some err⟩)) := by
  unfold CredentialCacheHMAC.check
  cases hs : sum mac call.username call.password with
  | error err =>
    have hlen : maxUint32 < call.password.length ∨ maxUint32 < call.username.length := by
      by_contra hle
      rw [not_or, Nat.not_lt, Nat.not_lt] at hle
      rw [sum_of_le hle.1 hle.2] at hs
      cases hs
    refine ⟨by simp, fun _ => ⟨fun hp hu => absurd hlen (by omega), fun _ => ⟨err, rfl⟩⟩⟩
  | ok s =>
    obtain ⟨hp, hu, -⟩ := sum_eq_ok hs
    dsimp only
    refine ⟨fun hcached => ?_, fun hcached => ?_⟩
    · obtain ⟨e, he, hexp, rfl, hflight⟩ := CredentialCacheHMAC.checkFlight_of_cached hcached
      obtain ⟨prev, hprev, hsum, hexpires⟩ := hinv.entry call.username e he
      -- the digests agree, so the passwords do
      have hpass : prev.password = call.password := (sum_inj hmac hsum hs).2
      refine ⟨by rw [hflight], prev, hprev, hpass, ?_⟩
      omega
    · obtain ⟨hresult, -⟩ := CredentialCacheHMAC.checkFlight_of_not_cached hcached
      exact ⟨fun _ _ => hresult, fun hlen => absurd hlen (by omega)⟩

theorem exists_cacheSound_of_checks_eq {calls : List CheckCall}
    {pre post : List (CheckCall × CheckResult)} {call : CheckCall} {r : CheckResult}
    (h : checks mac lifespan calls = pre ++ (call, r) :: post) :
    ∃ c, CacheSound mac lifespan c pre ∧ (c.check mac call).1 = r := by
  have := Transcript.exists_of_transcript_eq
    (fun (c : CredentialCacheHMAC D) call => c.check mac call) (CacheSound mac lifespan) (fun _ _ call hinv => hinv.check call) calls _ [] pre post call r
    (cacheSound_new mac lifespan) h
  simpa using this

/-- Over every run from a new cache: a call answered from the cache was made with the password of
the user's most recent call that the provider accepted with no error, within `lifespan` of it; every
other call returns the provider's answer, unless the password or the username is longer than
`MaxUint32`, when it returns an error and the provider is not asked. -/
theorem checks_cached_only_last_accepted (mac : List UInt8 → D) (hmac : Function.Injective mac)
    (lifespan : Int) (calls : List CheckCall) (pre post : List (CheckCall × CheckResult))
    (call : CheckCall) (r : CheckResult) (h : checks mac lifespan calls = pre ++ (call, r) :: post) :
    (r.cached = true → r = ⟨true, true, none⟩ ∧
      ∃ prev, lastAccepted call.username pre = some prev ∧ prev.password = call.password ∧
        call.now ≤ prev.now + lifespan) ∧
    (r.cached = false →
      (call.password.length ≤ maxUint32 → call.username.length ≤ maxUint32 →
        r = call.providerResult) ∧
      (maxUint32 < call.password.length ∨ maxUint32 < call.username.length →
        ∃ err, r = ⟨false, false, some err⟩)) := by
  obtain ⟨c, hinv, rfl⟩ := exists_cacheSound_of_checks_eq h
  exact hinv.check_result hmac call

def acceptedThenCached : List CheckCall :=
  [⟨[117], [112], 0, true, none⟩, ⟨[117], [112], 1, false, none⟩]

theorem checks_cached_only_last_accepted_id :
    checks id 1 acceptedThenCached =
        [(⟨[117], [112], 0, true, none⟩, ⟨true, false, none⟩)] ++
          (⟨[117], [112], 1, false, none⟩, ⟨true, true, none⟩) :: [] ∧
      ∃ prev, lastAccepted [117] [(⟨[117], [112], 0, true, none⟩, ⟨true, false, none⟩)] = some prev ∧
        prev.password = [112] ∧ (1 : Int) ≤ prev.now + 1 := by
  have hrun : checks id 1 acceptedThenCached =
      [(⟨[117], [112], 0, true, none⟩, ⟨true, false, none⟩)] ++
        (⟨[117], [112], 1, false, none⟩, ⟨true, true, none⟩) :: [] := by decide
  exact ⟨hrun, ((checks_cached_only_last_accepted id Function.injective_id 1 _ _ _ _ _ hrun).1
    rfl).2⟩

def cachedAfterValidWithError : List CheckCall :=
  [⟨[117], [112], 0, true, none⟩, ⟨[117], [113], 1, true, some "backend unavailable".toList⟩,
    ⟨[117], [112], 2, false, none⟩]

theorem checks_cached_after_valid_with_error :
    checks id 10 cachedAfterValidWithError =
      [(⟨[117], [112], 0, true, none⟩, ⟨true, false, none⟩),
        (⟨[117], [113], 1, true, some "backend unavailable".toList⟩,
          ⟨true, false, some "backend unavailable".toList⟩),
        (⟨[117], [112], 2, false, none⟩, ⟨true, true, none⟩)] ∧
    ∃ password : List UInt8, maxUint32 < password.length ∧
      ∀ (mac : List UInt8 → List UInt8) (c : CredentialCacheHMAC (List UInt8))
        (username : List UInt8) (now : Int),
        ∃ err, (c.check mac ⟨username, password, now, true, none⟩).1 = ⟨false, false, some err⟩ := by
  refine ⟨by decide, ?_⟩
  obtain ⟨password, hlong⟩ : ∃ password : List UInt8, maxUint32 < password.length := by
    refine ⟨List.replicate (2 ^ 32) 0, ?_⟩
    rw [List.length_replicate, maxUint32]
    omega
  refine ⟨password, hlong, fun mac c username now => ?_⟩
  obtain ⟨err, herr⟩ :=
    CredentialCacheHMAC.check_of_long mac c ⟨username, password, now, true, none⟩ (Or.inl hlong)
  exact ⟨err, by rw [herr]⟩

end Sound

end Authelia.Authentication
