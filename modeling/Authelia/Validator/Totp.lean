import Authelia.Validator.AccessControl

/-! `ValidateTOTP` (`configuration/validator/totp.go`). The validator fills each empty option with
the schema's default, checks the algorithm, the period and the digits, and adds the default of each
to the values a user may register with when they lack it. What it accepts is `WellFormed`, and on a
well-formed configuration it changes nothing: a validated configuration validates to itself. -/

namespace Authelia.Validator
open Go Utils

/-- `schema.TOTP`; `skew` is `none` for the nil pointer. -/
structure TOTP where
  disable : Bool := false
  issuer : List Char := []
  defaultAlgorithm : List Char := []
  defaultDigits : Int := 0
  defaultPeriod : Int := 0
  skew : Option Int := none
  secretSize : Int := 0
  allowedAlgorithms : List (List Char) := []
  allowedDigits : List Int := []
  allowedPeriods : List Int := []
  disableReuseSecurityPolicy : Bool := false
  deriving DecidableEq, Repr

def totpAlgorithmSHA1 : List Char := "SHA1".toList
def totpAlgorithmSHA256 : List Char := "SHA256".toList
def totpAlgorithmSHA512 : List Char := "SHA512".toList

def totpPossibleAlgorithms : List (List Char) :=
  [totpAlgorithmSHA1, totpAlgorithmSHA256, totpAlgorithmSHA512]

def totpSecretSizeDefault : Int := 32
def totpSecretSizeMinimum : Int := 20

def defaultTOTPConfiguration : TOTP :=
  { issuer := "Authelia".toList, defaultAlgorithm := totpAlgorithmSHA1, defaultDigits := 6,
    defaultPeriod := 30, skew := some 1, secretSize := totpSecretSizeDefault,
    allowedAlgorithms := [totpAlgorithmSHA1], allowedDigits := [6], allowedPeriods := [30] }

def errFmtTOTPInvalidAlgorithm : List Char :=
  "totp: option 'algorithm' must be one of %s but it's configured as '%s'".toList
def errFmtTOTPInvalidAllowedAlgorithm : List Char :=
  "totp: option 'allowed_algorithm' must be one of %s but one of the values is '%s'".toList
def errFmtTOTPInvalidPeriod : List Char :=
  "totp: option 'period' option must be 15 or more but it's configured as '%d'".toList
def errFmtTOTPInvalidAllowedPeriod : List Char :=
  "totp: option 'allowed_periods' option must be 15 or more but one of the values is '%d'".toList
def errFmtTOTPInvalidDigits : List Char :=
  "totp: option 'digits' must be 6 or 8 but it's configured as '%d'".toList
def errFmtTOTPInvalidAllowedDigit : List Char :=
  "totp: option 'allowed_digits' must only have the values 6 or 8 but one of the values is '%d'".toList
def errFmtTOTPInvalidSecretSize : List Char :=
  "totp: option 'secret_size' must be %d or higher but it's configured as '%d'".toList

/-- `%d` of an `int`. -/
def sprintInt (n : Int) : List Char := (toString n).toList

/-- A `range` loop that pushes an error for each value that fails a check. -/
def pushInvalid {α : Type} (valid : α → Bool) (err : α → List Char) (xs : List α)
    (v : StructValidator) : StructValidator :=
  xs.foldl (fun v x => if valid x then v else v.push (err x)) v

/-- The shape `validateTOTPValueSetPeriod` and `validateTOTPValueSetDigits` share: a zero default
takes `fallback`, an invalid default and each invalid allowed value is an error, and the default
joins the allowed values when they lack it. -/
def validateTOTPValueSet (valid : Int → Bool) (errDefault errAllowed : List Char) (fallback : Int)
    (default : Int) (allowed : List Int) (v : StructValidator) : Int × List Int × StructValidator :=
  let default' := if default = 0 then fallback else default
  let v := if default = 0 ∨ valid default then v else v.push (sprintf errDefault [sprintInt default])
  let v := pushInvalid valid (fun x => sprintf errAllowed [sprintInt x]) allowed v
  (default', if allowed.contains default' then allowed else allowed ++ [default'], v)

def validateTOTPValueSetPeriod (config : TOTP) (v : StructValidator) : TOTP × StructValidator :=
  let (period, periods, v) := validateTOTPValueSet (fun p => decide (15 ≤ p))
    errFmtTOTPInvalidPeriod errFmtTOTPInvalidAllowedPeriod defaultTOTPConfiguration.defaultPeriod
    config.defaultPeriod config.allowedPeriods v
  ({ config with defaultPeriod := period, allowedPeriods := periods }, v)

def validateTOTPValueSetDigits (config : TOTP) (v : StructValidator) : TOTP × StructValidator :=
  let (digits, allowed, v) := validateTOTPValueSet (fun d => d == 6 || d == 8)
    errFmtTOTPInvalidDigits errFmtTOTPInvalidAllowedDigit defaultTOTPConfiguration.defaultDigits
    config.defaultDigits config.allowedDigits v
  ({ config with defaultDigits := digits, allowedDigits := allowed }, v)

section CaseFolding
variable (F : CaseFolding)

/-- `validateTOTPValueSetAlgorithm`: the algorithms are upper-cased before they are checked. -/
def validateTOTPValueSetAlgorithm (config : TOTP) (v : StructValidator) : TOTP × StructValidator :=
  let algorithm := if config.defaultAlgorithm = [] then defaultTOTPConfiguration.defaultAlgorithm
    else toUpper F config.defaultAlgorithm
  let v := if config.defaultAlgorithm = [] ∨ isStringInSlice algorithm totpPossibleAlgorithms then v
    else v.push (sprintf errFmtTOTPInvalidAlgorithm [stringJoinOr totpPossibleAlgorithms, algorithm])
  let allowed := config.allowedAlgorithms.map (toUpper F)
  let v := pushInvalid (isStringInSlice · totpPossibleAlgorithms)
    (fun a => sprintf errFmtTOTPInvalidAllowedAlgorithm [stringJoinOr totpPossibleAlgorithms, a])
    allowed v
  let allowed := if isStringInSlice algorithm allowed then allowed else allowed ++ [algorithm]
  ({ config with defaultAlgorithm := algorithm, allowedAlgorithms := allowed }, v)

def validateTOTP (config : TOTP) (v : StructValidator) : TOTP × StructValidator :=
  if config.disable then (config, v)
  else
    let config := if config.issuer = [] then
        { config with issuer := defaultTOTPConfiguration.issuer } else config
    let (config, v) := validateTOTPValueSetAlgorithm F config v
    let (config, v) := validateTOTPValueSetPeriod config v
    let (config, v) := validateTOTPValueSetDigits config v
    let config := if config.skew = none then
        { config with skew := defaultTOTPConfiguration.skew } else config
    if config.secretSize = 0 then ({ config with secretSize := totpSecretSizeDefault }, v)
    else if config.secretSize < totpSecretSizeMinimum then
      (config, v.push (sprintf errFmtTOTPInvalidSecretSize
        [sprintInt totpSecretSizeMinimum, sprintInt config.secretSize]))
    else (config, v)

end CaseFolding

/-- What the rest of Authelia may assume of a TOTP configuration the validator accepted. -/
structure TOTP.WellFormed (c : TOTP) : Prop where
  issuer_ne_nil : c.issuer ≠ []
  defaultAlgorithm_mem : c.defaultAlgorithm ∈ totpPossibleAlgorithms
  allowedAlgorithms_mem : ∀ a ∈ c.allowedAlgorithms, a ∈ totpPossibleAlgorithms
  defaultAlgorithm_allowed : c.defaultAlgorithm ∈ c.allowedAlgorithms
  defaultPeriod_ge : 15 ≤ c.defaultPeriod
  allowedPeriods_ge : ∀ p ∈ c.allowedPeriods, 15 ≤ p
  defaultPeriod_allowed : c.defaultPeriod ∈ c.allowedPeriods
  defaultDigits_valid : c.defaultDigits = 6 ∨ c.defaultDigits = 8
  allowedDigits_valid : ∀ d ∈ c.allowedDigits, d = 6 ∨ d = 8
  defaultDigits_allowed : c.defaultDigits ∈ c.allowedDigits
  skew_ne_none : c.skew ≠ none
  secretSize_ge : totpSecretSizeMinimum ≤ c.secretSize

/-! ### The loops and the shared shape -/

namespace StructValidator

theorem errors_eq_of_extends {u v w : StructValidator} (huv : u.Extends v) (hvw : v.Extends w)
    (h : w.errors = u.errors) : v.errors = u.errors := by
  have hle : v.errors.length ≤ u.errors.length := h ▸ hvw.1.length_le
  exact (huv.1.eq_of_length (Nat.le_antisymm huv.1.length_le hle)).symm

end StructValidator

theorem pushInvalid_errors {α : Type} (valid : α → Bool) (err : α → List Char) (xs : List α)
    (v : StructValidator) :
    (pushInvalid valid err xs v).errors = v.errors ++ (xs.filter fun x => !valid x).map err := by
  induction xs generalizing v with
  | nil => simp [pushInvalid]
  | cons x xs ih =>
    unfold pushInvalid at ih ⊢
    rw [List.foldl_cons, ih]
    by_cases hx : valid x = true
    · simp [hx]
    · simp [hx, StructValidator.push]

theorem pushInvalid_extends {α : Type} (valid : α → Bool) (err : α → List Char) (xs : List α)
    (v : StructValidator) : v.Extends (pushInvalid valid err xs v) := by
  refine extends_foldl (fun w x => ?_) xs v
  split
  · exact StructValidator.Extends.refl _
  · exact StructValidator.extends_push _ _

theorem pushInvalid_errors_eq_iff {α : Type} {valid : α → Bool} {err : α → List Char}
    {xs : List α} {v : StructValidator} :
    (pushInvalid valid err xs v).errors = v.errors ↔ ∀ x ∈ xs, valid x = true := by
  simp [pushInvalid_errors, List.filter_eq_nil_iff]

theorem pushInvalid_of_forall {α : Type} {valid : α → Bool} {err : α → List Char} {xs : List α}
    (h : ∀ x ∈ xs, valid x = true) (v : StructValidator) : pushInvalid valid err xs v = v := by
  induction xs with
  | nil => rfl
  | cons x xs ih =>
    unfold pushInvalid at ih ⊢
    rw [List.foldl_cons, if_pos (h x List.mem_cons_self)]
    exact ih fun y hy => h y (List.mem_cons_of_mem x hy)

section ValueSet
variable {valid : Int → Bool} {errDefault errAllowed : List Char} {fallback default : Int}
  {allowed : List Int} {v : StructValidator}

theorem validateTOTPValueSet_extends :
    v.Extends (validateTOTPValueSet valid errDefault errAllowed fallback default allowed v).2.2 := by
  unfold validateTOTPValueSet
  dsimp only
  refine StructValidator.Extends.trans ?_ (pushInvalid_extends _ _ _ _)
  split
  · exact StructValidator.Extends.refl _
  · exact StructValidator.extends_push _ _

theorem validateTOTPValueSet_accepted (hfallback : valid fallback = true) {d' : Int}
    {allowed' : List Int} {v' : StructValidator}
    (hr : validateTOTPValueSet valid errDefault errAllowed fallback default allowed v = (d', allowed', v'))
    (h : v'.errors = v.errors) : valid d' = true ∧ (∀ x ∈ allowed', valid x = true) ∧ d' ∈ allowed' := by
  unfold validateTOTPValueSet at hr
  simp only [Prod.mk.injEq] at hr
  obtain ⟨rfl, rfl, rfl⟩ := hr
  -- the default's check pushed nothing, and neither did the loop
  have hdefault : default = 0 ∨ valid default = true := by
    by_contra hbad
    rw [if_neg hbad, pushInvalid_errors] at h
    simp [StructValidator.push] at h
  rw [if_pos hdefault, pushInvalid_errors_eq_iff] at h
  generalize hd : (if default = 0 then fallback else default) = d'
  have hd' : valid d' = true := by
    rw [← hd]
    split_ifs with hzero
    · exact hfallback
    · exact hdefault.resolve_left hzero
  refine ⟨hd', ?_, ?_⟩
  · by_cases hcontains : allowed.contains d' = true
    · rw [if_pos hcontains]
      exact h
    · rw [if_neg hcontains]
      intro x hx
      rcases List.mem_append.mp hx with hx | hx
      · exact h x hx
      · rw [List.mem_singleton.mp hx]
        exact hd'
  · by_cases hcontains : allowed.contains d' = true
    · rw [if_pos hcontains]
      exact List.contains_iff_mem.mp hcontains
    · rw [if_neg hcontains]
      exact List.mem_append_right _ (List.mem_singleton_self _)

theorem validateTOTPValueSet_of_valid (hne : default ≠ 0) (hd : valid default = true)
    (hall : ∀ x ∈ allowed, valid x = true) (hmem : default ∈ allowed) :
    validateTOTPValueSet valid errDefault errAllowed fallback default allowed v = (default, allowed, v) := by
  unfold validateTOTPValueSet
  simp only [if_neg hne, hd, or_true, if_true, pushInvalid_of_forall hall,
    List.contains_iff_mem.mpr hmem]

end ValueSet

section CaseFolding
variable (F : CaseFolding)

theorem toUpper_of_mem_totpPossibleAlgorithms {a : List Char} (ha : a ∈ totpPossibleAlgorithms) :
    toUpper F a = a := by
  simp only [totpPossibleAlgorithms, List.mem_cons, List.not_mem_nil, or_false] at ha
  rcases ha with rfl | rfl | rfl
  all_goals
    rw [toUpper_of_ascii F (by decide)]
    decide

theorem validateTOTPValueSetAlgorithm_extends (config : TOTP) (v : StructValidator) :
    v.Extends (validateTOTPValueSetAlgorithm F config v).2 := by
  unfold validateTOTPValueSetAlgorithm
  dsimp only
  generalize (if config.defaultAlgorithm = [] then defaultTOTPConfiguration.defaultAlgorithm
    else toUpper F config.defaultAlgorithm) = algorithm
  refine StructValidator.Extends.trans ?_ (pushInvalid_extends _ _ _ _)
  split
  · exact StructValidator.Extends.refl _
  · exact StructValidator.extends_push _ _

theorem validateTOTPValueSetAlgorithm_accepted {config config' : TOTP} {v v' : StructValidator}
    (hr : validateTOTPValueSetAlgorithm F config v = (config', v')) (h : v'.errors = v.errors) :
    ∃ a as, config' = { config with defaultAlgorithm := a, allowedAlgorithms := as } ∧
      a ∈ totpPossibleAlgorithms ∧ (∀ x ∈ as, x ∈ totpPossibleAlgorithms) ∧ a ∈ as := by
  unfold validateTOTPValueSetAlgorithm at hr
  simp only [Prod.mk.injEq] at hr
  obtain ⟨rfl, rfl⟩ := hr
  refine ⟨_, _, rfl, ?_⟩
  generalize hdefault : (if config.defaultAlgorithm = [] then defaultTOTPConfiguration.defaultAlgorithm
    else toUpper F config.defaultAlgorithm) = algorithm at h ⊢
  have hchecked : config.defaultAlgorithm = [] ∨
      isStringInSlice algorithm totpPossibleAlgorithms = true := by
    by_contra hbad
    rw [if_neg hbad, pushInvalid_errors] at h
    simp [StructValidator.push] at h
  rw [if_pos hchecked, pushInvalid_errors_eq_iff] at h
  have halgorithm : algorithm ∈ totpPossibleAlgorithms := by
    rcases hchecked with hempty | hin
    · rw [← hdefault, if_pos hempty]
      decide
    · exact (isStringInSlice_iff _ _).mp hin
  refine ⟨halgorithm, fun a ha => ?_, ?_⟩
  · split at ha
    · exact (isStringInSlice_iff _ _).mp (h a ha)
    · rcases List.mem_append.mp ha with ha | ha
      · exact (isStringInSlice_iff _ _).mp (h a ha)
      · rw [List.mem_singleton.mp ha]
        exact halgorithm
  · split
    · rename_i hin
      exact (isStringInSlice_iff _ _).mp hin
    · exact List.mem_append_right _ (List.mem_singleton_self _)

theorem validateTOTPValueSetAlgorithm_of_valid {config : TOTP}
    (hdefault : config.defaultAlgorithm ∈ totpPossibleAlgorithms)
    (hall : ∀ a ∈ config.allowedAlgorithms, a ∈ totpPossibleAlgorithms)
    (hmem : config.defaultAlgorithm ∈ config.allowedAlgorithms) (v : StructValidator) :
    validateTOTPValueSetAlgorithm F config v = (config, v) := by
  -- every algorithm is upper case already
  have hne : config.defaultAlgorithm ≠ [] := by
    intro hnil
    rw [hnil] at hdefault
    exact absurd hdefault (by decide)
  have hupper : config.allowedAlgorithms.map (toUpper F) = config.allowedAlgorithms :=
    (List.map_congr_left (g := id) fun a ha => toUpper_of_mem_totpPossibleAlgorithms F (hall a ha)).trans
      (List.map_id _)
  unfold validateTOTPValueSetAlgorithm
  simp only [if_neg hne, toUpper_of_mem_totpPossibleAlgorithms F hdefault, hupper,
    (isStringInSlice_iff _ _).mpr hdefault, (isStringInSlice_iff _ _).mpr hmem, or_true, if_true,
    pushInvalid_of_forall fun a ha => (isStringInSlice_iff _ _).mpr (hall a ha)]

end CaseFolding

section Stages
variable {config config' : TOTP} {v v' : StructValidator}

theorem validateTOTPValueSetPeriod_extends (config : TOTP) (v : StructValidator) :
    v.Extends (validateTOTPValueSetPeriod config v).2 := by
  unfold validateTOTPValueSetPeriod
  exact @validateTOTPValueSet_extends _ _ _ defaultTOTPConfiguration.defaultPeriod _ _ _

theorem validateTOTPValueSetDigits_extends (config : TOTP) (v : StructValidator) :
    v.Extends (validateTOTPValueSetDigits config v).2 := by
  unfold validateTOTPValueSetDigits
  exact @validateTOTPValueSet_extends _ _ _ defaultTOTPConfiguration.defaultDigits _ _ _

theorem validateTOTPValueSetPeriod_accepted (hr : validateTOTPValueSetPeriod config v = (config', v'))
    (h : v'.errors = v.errors) :
    ∃ p ps, config' = { config with defaultPeriod := p, allowedPeriods := ps } ∧
      15 ≤ p ∧ (∀ x ∈ ps, 15 ≤ x) ∧ p ∈ ps := by
  unfold validateTOTPValueSetPeriod at hr
  split at hr
  rename_i p ps w hs
  simp only [Prod.mk.injEq] at hr
  obtain ⟨rfl, rfl⟩ := hr
  obtain ⟨hp, hps, hmem⟩ := validateTOTPValueSet_accepted (by decide) hs h
  exact ⟨p, ps, rfl, of_decide_eq_true hp, fun x hx => of_decide_eq_true (hps x hx), hmem⟩

theorem validateTOTPValueSetDigits_accepted (hr : validateTOTPValueSetDigits config v = (config', v'))
    (h : v'.errors = v.errors) :
    ∃ d ds, config' = { config with defaultDigits := d, allowedDigits := ds } ∧
      (d = 6 ∨ d = 8) ∧ (∀ x ∈ ds, x = 6 ∨ x = 8) ∧ d ∈ ds := by
  unfold validateTOTPValueSetDigits at hr
  split at hr
  rename_i d ds w hs
  simp only [Prod.mk.injEq] at hr
  obtain ⟨rfl, rfl⟩ := hr
  obtain ⟨hd, hds, hmem⟩ := validateTOTPValueSet_accepted (by decide) hs h
  refine ⟨d, ds, rfl, by simpa using hd, fun x hx => by simpa using hds x hx, hmem⟩

theorem validateTOTPValueSetPeriod_of_valid (hp : 15 ≤ config.defaultPeriod)
    (hps : ∀ x ∈ config.allowedPeriods, 15 ≤ x) (hmem : config.defaultPeriod ∈ config.allowedPeriods)
    (v : StructValidator) : validateTOTPValueSetPeriod config v = (config, v) := by
  unfold validateTOTPValueSetPeriod
  rw [validateTOTPValueSet_of_valid (by omega) (decide_eq_true hp)
    (fun x hx => decide_eq_true (hps x hx)) hmem]

theorem validateTOTPValueSetDigits_of_valid (hd : config.defaultDigits = 6 ∨ config.defaultDigits = 8)
    (hds : ∀ x ∈ config.allowedDigits, x = 6 ∨ x = 8) (hmem : config.defaultDigits ∈ config.allowedDigits)
    (v : StructValidator) : validateTOTPValueSetDigits config v = (config, v) := by
  have hvalid : ∀ x : Int, x = 6 ∨ x = 8 → (x == 6 || x == 8) = true := by
    rintro x (rfl | rfl) <;> decide
  unfold validateTOTPValueSetDigits
  rw [validateTOTPValueSet_of_valid (by omega) (hvalid _ hd) (fun x hx => hvalid x (hds x hx)) hmem]

end Stages

theorem defaultTOTPConfiguration_wellFormed : defaultTOTPConfiguration.WellFormed where
  issuer_ne_nil := by decide
  defaultAlgorithm_mem := by decide
  allowedAlgorithms_mem := by decide
  defaultAlgorithm_allowed := by decide
  defaultPeriod_ge := by decide
  allowedPeriods_ge := by decide
  defaultPeriod_allowed := by decide
  defaultDigits_valid := by decide
  allowedDigits_valid := by decide
  defaultDigits_allowed := by decide
  skew_ne_none := by decide
  secretSize_ge := by decide

section CaseFolding
variable (F : CaseFolding)

theorem wellFormed_validateTOTP {config config' : TOTP} {v v' : StructValidator}
    (hdisable : config.disable = false) (hr : validateTOTP F config v = (config', v'))
    (h : v'.errors = v.errors) : config'.WellFormed := by
  unfold validateTOTP at hr
  rw [if_neg (by simp [hdisable])] at hr
  dsimp only at hr
  generalize hc0 : (if config.issuer = [] then { config with issuer := defaultTOTPConfiguration.issuer }
    else config) = c0 at hr
  have hissuer : c0.issuer ≠ [] := by
    rw [← hc0]
    split_ifs with hempty
    · dsimp only
      decide
    · exact hempty
  rcases h1 : validateTOTPValueSetAlgorithm F c0 v with ⟨c1, v1⟩
  rw [h1] at hr
  dsimp only at hr
  rcases h2 : validateTOTPValueSetPeriod c1 v1 with ⟨c2, v2⟩
  rw [h2] at hr
  dsimp only at hr
  rcases h3 : validateTOTPValueSetDigits c2 v2 with ⟨c3, v3⟩
  rw [h3] at hr
  dsimp only at hr
  generalize hc4 : (if c3.skew = none then { c3 with skew := defaultTOTPConfiguration.skew }
    else c3) = c4 at hr
  -- the last stage pushes at most the secret size's error, so each stage pushed none
  have e1 : v.Extends v1 := by simpa [h1] using validateTOTPValueSetAlgorithm_extends F c0 v
  have e2 : v1.Extends v2 := by simpa [h2] using validateTOTPValueSetPeriod_extends c1 v1
  have e3 : v2.Extends v3 := by simpa [h3] using validateTOTPValueSetDigits_extends c2 v2
  have e4 : v3.Extends v' := by
    split_ifs at hr <;> simp only [Prod.mk.injEq] at hr <;> rw [← hr.2]
    · exact StructValidator.Extends.refl _
    · exact StructValidator.extends_push _ _
    · exact StructValidator.Extends.refl _
  have h3' : v3.errors = v.errors :=
    StructValidator.errors_eq_of_extends (e1.trans (e2.trans e3)) e4 h
  have h2' : v2.errors = v.errors := StructValidator.errors_eq_of_extends (e1.trans e2) e3 h3'
  have h1' : v1.errors = v.errors := StructValidator.errors_eq_of_extends e1 e2 h2'
  have hskew : ∃ s, c4 = { c3 with skew := s } ∧ s ≠ none := by
    rw [← hc4]
    split_ifs with hnone
    · exact ⟨_, rfl, by decide⟩
    · exact ⟨c3.skew, rfl, hnone⟩
  obtain ⟨s, hs4, hs⟩ := hskew
  obtain ⟨a, as, rfl, ha, has, hamem⟩ := validateTOTPValueSetAlgorithm_accepted F h1 h1'
  obtain ⟨p, ps, rfl, hp, hps, hpmem⟩ := validateTOTPValueSetPeriod_accepted h2 (h2'.trans h1'.symm)
  obtain ⟨d, ds, rfl, hd, hds, hdmem⟩ := validateTOTPValueSetDigits_accepted h3 (h3'.trans h2'.symm)
  -- every field but the secret size is settled; the last stage sets it or rejects it
  have hwf : ∀ n, totpSecretSizeMinimum ≤ n → ({ c4 with secretSize := n }).WellFormed := by
    intro n hn
    rw [hs4]
    exact ⟨hissuer, ha, has, hamem, hp, hps, hpmem, hd, hds, hdmem, hs, hn⟩
  split_ifs at hr with hzero hsmall
  · obtain ⟨rfl, -⟩ := Prod.mk.inj hr
    exact hwf _ (by decide)
  · obtain ⟨-, rfl⟩ := Prod.mk.inj hr
    simp [StructValidator.push, h3'] at h
  · obtain ⟨rfl, -⟩ := Prod.mk.inj hr
    exact hwf _ (not_lt.mp hsmall)

theorem validateTOTP_of_wellFormed {config : TOTP} (hc : config.WellFormed) (v : StructValidator) :
    validateTOTP F config v = (config, v) := by
  have hsize : config.secretSize ≠ 0 := by
    have := hc.secretSize_ge
    unfold totpSecretSizeMinimum at this
    omega
  unfold validateTOTP
  by_cases hdisable : config.disable = true
  · rw [if_pos hdisable]
  · rw [if_neg hdisable]
    simp only [if_neg hc.issuer_ne_nil,
      validateTOTPValueSetAlgorithm_of_valid F hc.defaultAlgorithm_mem hc.allowedAlgorithms_mem
        hc.defaultAlgorithm_allowed,
      validateTOTPValueSetPeriod_of_valid hc.defaultPeriod_ge hc.allowedPeriods_ge hc.defaultPeriod_allowed,
      validateTOTPValueSetDigits_of_valid hc.defaultDigits_valid hc.allowedDigits_valid
        hc.defaultDigits_allowed,
      if_neg hc.skew_ne_none, if_neg hsize, if_neg (not_lt.mpr hc.secretSize_ge)]

/-- A validated configuration validates to itself: an enabled configuration the validator accepts
without a new error comes out well formed, and validating the result again changes nothing and
pushes nothing. -/
theorem validateTOTP_fixpoint {config config' : TOTP} {v v' : StructValidator}
    (hdisable : config.disable = false) (hr : validateTOTP F config v = (config', v'))
    (h : v'.errors = v.errors) :
    config'.WellFormed ∧ ∀ w, validateTOTP F config' w = (config', w) := by
  have hwf := wellFormed_validateTOTP F hdisable hr h
  exact ⟨hwf, validateTOTP_of_wellFormed F hwf⟩

def sha256Totp : TOTP :=
  { defaultAlgorithm := "sha256".toList, defaultPeriod := 60, allowedPeriods := [30] }

theorem validateTOTP_fixpoint_sha256Totp :
    (validateTOTP CaseFolding.ascii sha256Totp {}).2.errors = [] ∧
      (validateTOTP CaseFolding.ascii sha256Totp {}).1.WellFormed ∧
      ∀ w, validateTOTP CaseFolding.ascii (validateTOTP CaseFolding.ascii sha256Totp {}).1 w =
        ((validateTOTP CaseFolding.ascii sha256Totp {}).1, w) := by
  have h : (validateTOTP CaseFolding.ascii sha256Totp {}).2.errors = ({} : StructValidator).errors := by
    decide
  exact ⟨h, @validateTOTP_fixpoint CaseFolding.ascii sha256Totp _ {} _ rfl rfl h⟩

end CaseFolding

end Authelia.Validator
