import Authelia.Authorization.Rule
import Authelia.Lib.FirstMatch

/-! `Authorizer` (`authorizer.go`): the decision walks the rules and returns at the first match,
while the diagnostic report evaluates every criterion of every rule and threads a `skipped` flag.
Both read the same matchers, so once the report has been computed (no matcher panicked), the
decision is the first entry of the report that matches or potentially matches. -/

namespace Authelia.Authorization
open Go

structure Authorizer where
  defaultPolicy : Level
  rules : List AccessControlRule

structure RuleMatchResult where
  rule : AccessControlRule
  skipped : Bool
  matchDomain : Bool
  matchResources : Bool
  matchQuery : Bool
  matchMethods : Bool
  matchNetworks : Bool
  matchSubjects : Bool
  matchSubjectsExact : Bool

namespace RuleMatchResult

def isMatch (r : RuleMatchResult) : Bool :=
  r.matchDomain && r.matchResources && r.matchQuery && r.matchMethods && r.matchNetworks &&
    r.matchSubjectsExact

def isPotentialMatch (r : RuleMatchResult) : Bool :=
  r.matchDomain && r.matchResources && r.matchQuery && r.matchMethods && r.matchNetworks &&
    r.matchSubjects && !r.matchSubjectsExact

def decides (r : RuleMatchResult) : Bool := r.isMatch || r.isPotentialMatch

end RuleMatchResult

section CaseFolding
variable (F : CaseFolding)

def newAuthorizer (config : Schema.AccessControl) : Authorizer :=
  ⟨newLevel config.defaultPolicy, newAccessControlRules F config⟩

/-- `GetRequiredLevel`: the first rule that matches decides, else the default policy. -/
def Authorizer.getRequiredLevel (p : Authorizer) (subject : Subject) (object : Object) :
    Option (Bool × Level) :=
  (p.rules.findM? fun (rule : AccessControlRule) => rule.isMatch F subject object).map fun
    | some rule => (rule.hasSubjects, rule.policy)
    | none => (false, p.defaultPolicy)

def ruleMatchResult (rule : AccessControlRule) (skipped : Bool) (subject : Subject)
    (object : Object) : Option RuleMatchResult := do
  let matchDomain ← rule.matchesDomains F subject object
  let matchResources ← rule.matchesResources F subject object
  pure { rule, skipped, matchDomain, matchResources
         matchQuery := rule.matchesQuery object
         matchMethods := rule.matchesMethods object
         matchNetworks := rule.matchesNetworks subject
         matchSubjects := rule.matchesSubjects subject
         matchSubjectsExact := rule.matchesSubjectExact subject }

def getRuleMatchResultsFrom (subject : Subject) (object : Object) :
    Bool → List AccessControlRule → Option (List RuleMatchResult)
  | _, [] => some []
  | skipped, rule :: rules => do
    let result ← ruleMatchResult F rule skipped subject object
    let rest ← getRuleMatchResultsFrom subject object (skipped || result.isMatch) rules
    pure (result :: rest)

def Authorizer.getRuleMatchResults (p : Authorizer) (subject : Subject) (object : Object) :
    Option (List RuleMatchResult) :=
  getRuleMatchResultsFrom F subject object false p.rules

/-! ### One entry of the report -/

theorem ruleMatchResult_rule {rule : AccessControlRule} {b : Bool} {subject : Subject}
    {object : Object} {r : RuleMatchResult} (h : ruleMatchResult F rule b subject object = some r) :
    r.rule = rule ∧ r.skipped = b := by
  simp only [ruleMatchResult, Option.bind_eq_bind, Option.bind_eq_some_iff, Option.pure_def,
    Option.some.injEq] at h
  obtain ⟨d, -, res, -, rfl⟩ := h
  exact ⟨rfl, rfl⟩

theorem isMatch_of_ruleMatchResult {rule : AccessControlRule} {b : Bool} {subject : Subject}
    {object : Object} {r : RuleMatchResult} (h : ruleMatchResult F rule b subject object = some r) :
    rule.isMatch F subject object = some r.decides := by
  simp only [ruleMatchResult, Option.bind_eq_bind, Option.bind_eq_some_iff, Option.pure_def,
    Option.some.injEq] at h
  obtain ⟨d, hd, res, hres, rfl⟩ := h
  rw [AccessControlRule.isMatch_eq_of_matches F hd hres]
  congr 1
  simp only [RuleMatchResult.decides, RuleMatchResult.isMatch, RuleMatchResult.isPotentialMatch]
  cases hexact : rule.matchesSubjectExact subject with
  | false => simp
  | true =>
    have hsubjects := AccessControlRule.matchesSubjects_of_matchesSubjectExact hexact
    simp [hsubjects]

/-! ### The whole report -/

theorem getRuleMatchResultsFrom_rules {subject : Subject} {object : Object} :
    ∀ {b : Bool} {rules : List AccessControlRule} {R : List RuleMatchResult},
      getRuleMatchResultsFrom F subject object b rules = some R → R.map (·.rule) = rules
  | _, [], R, h => by
    simp only [getRuleMatchResultsFrom, Option.some.injEq] at h
    subst h
    rfl
  | b, rule :: rules, R, h => by
    simp only [getRuleMatchResultsFrom, Option.bind_eq_bind, Option.bind_eq_some_iff,
      Option.pure_def, Option.some.injEq] at h
    obtain ⟨r, hr, rest, hrest, rfl⟩ := h
    rw [List.map_cons, (ruleMatchResult_rule F hr).1, getRuleMatchResultsFrom_rules hrest]

theorem getRuleMatchResultsFrom_skipped {subject : Subject} {object : Object} :
    ∀ {b : Bool} {rules : List AccessControlRule} {R : List RuleMatchResult},
      getRuleMatchResultsFrom F subject object b rules = some R →
      ∀ i (hi : i < R.length),
        R[i].skipped = true ↔ b = true ∨ ∃ j, ∃ _ : j < i, R[j].isMatch = true
  | _, [], R, h, i, hi => by
    simp only [getRuleMatchResultsFrom, Option.some.injEq] at h
    subst h
    simp at hi
  | b, rule :: rules, R, h, i, hi => by
    simp only [getRuleMatchResultsFrom, Option.bind_eq_bind, Option.bind_eq_some_iff,
      Option.pure_def, Option.some.injEq] at h
    obtain ⟨r, hr, rest, hrest, rfl⟩ := h
    have ih := getRuleMatchResultsFrom_skipped hrest
    cases i with
    | zero =>
      simp [(ruleMatchResult_rule F hr).2]
    | succ i =>
      have hi' : i < rest.length := by simpa using hi
      rw [List.getElem_cons_succ, ih i hi']
      constructor
      · rintro (hb | ⟨j, hj, hm⟩)
        · rcases Bool.or_eq_true_iff.mp hb with hb | hm
          · exact Or.inl hb
          · exact Or.inr ⟨0, by omega, by simpa using hm⟩
        · exact Or.inr ⟨j + 1, by omega, by simpa using hm⟩
      · rintro (hb | ⟨j, hj, hm⟩)
        · exact Or.inl (by simp [hb])
        · cases j with
          | zero => exact Or.inl (by simp_all)
          | succ j => exact Or.inr ⟨j, by omega, by simpa using hm⟩

theorem exists_ruleMatchResult_of_mem {subject : Subject} {object : Object} :
    ∀ {b : Bool} {rules : List AccessControlRule} {R : List RuleMatchResult},
      getRuleMatchResultsFrom F subject object b rules = some R →
      ∀ r ∈ R, ∃ b', ruleMatchResult F r.rule b' subject object = some r
  | _, [], R, h => by
    simp only [getRuleMatchResultsFrom, Option.some.injEq] at h
    subst h
    simp
  | b, rule :: rules, R, h => by
    simp only [getRuleMatchResultsFrom, Option.bind_eq_bind, Option.bind_eq_some_iff,
      Option.pure_def, Option.some.injEq] at h
    obtain ⟨r, hr, rest, hrest, rfl⟩ := h
    intro r' hr'
    rcases List.mem_cons.mp hr' with rfl | hmem
    · refine ⟨b, ?_⟩
      rw [(ruleMatchResult_rule F hr).1]
      exact hr
    · exact exists_ruleMatchResult_of_mem hrest r' hmem

theorem decides_eq_isMatch_of_ruleMatchResult {rule : AccessControlRule} {b : Bool}
    {subject : Subject} {object : Object} {r : RuleMatchResult}
    (h : ruleMatchResult F rule b subject object = some r) (hanon : subject.isAnonymous = false) :
    r.decides = r.isMatch := by
  simp only [ruleMatchResult, Option.bind_eq_bind, Option.bind_eq_some_iff, Option.pure_def,
    Option.some.injEq] at h
  obtain ⟨d, -, res, -, rfl⟩ := h
  have hsubjects := rule.matchesSubjects_of_not_isAnonymous hanon
  simp only [RuleMatchResult.decides, RuleMatchResult.isMatch, RuleMatchResult.isPotentialMatch,
    hsubjects]
  cases rule.matchesSubjectExact subject <;> simp

/-- The diagnostic report agrees with the decision: `skipped` marks the entries after a match,
`GetRequiredLevel` returns the rule of the first entry that matches or potentially matches, and
for an identity that entry is the only match that is not skipped. -/
theorem getRequiredLevel_eq_ruleMatchResults (p : Authorizer) (subject : Subject)
    (object : Object) {R : List RuleMatchResult}
    (hR : p.getRuleMatchResults F subject object = some R) :
    R.map (·.rule) = p.rules ∧
    (∀ i (hi : i < R.length),
      R[i].skipped = true ↔ ∃ j, ∃ _ : j < i, R[j].isMatch = true) ∧
    p.getRequiredLevel F subject object =
      some (match R.find? RuleMatchResult.decides with
        | some r => (r.rule.hasSubjects, r.rule.policy)
        | none => (false, p.defaultPolicy)) ∧
    (subject.isAnonymous = false → ∀ i (hi : i < R.length),
      (R[i].isMatch = true ∧ R[i].skipped = false) ↔
        R.findIdx? RuleMatchResult.decides = some i) := by
  have hrules : R.map (·.rule) = p.rules := getRuleMatchResultsFrom_rules F hR
  have hskipped : ∀ i (hi : i < R.length),
      R[i].skipped = true ↔ ∃ j, ∃ _ : j < i, R[j].isMatch = true := by
    intro i hi
    simpa using getRuleMatchResultsFrom_skipped F hR i hi
  refine ⟨hrules, hskipped, ?_, ?_⟩
  · -- the decision loop over `R.map rule` meets every entry's `IsMatch` answer
    have hfind : p.rules.findM? (fun rule => rule.isMatch F subject object) =
        some ((R.find? RuleMatchResult.decides).map (·.rule)) := by
      rw [← hrules]
      apply List.findM?_map_eq_some_find?
      intro r hr
      obtain ⟨b', hb'⟩ := exists_ruleMatchResult_of_mem F hR r hr
      exact isMatch_of_ruleMatchResult F hb'
    rw [Authorizer.getRequiredLevel, hfind]
    cases R.find? RuleMatchResult.decides <;> rfl
  · intro hanon i hi
    -- for an identity the search for a deciding entry is the search for a matching one
    have hdecides : ∀ j (hj : j < R.length), R[j].decides = R[j].isMatch := by
      intro j hj
      obtain ⟨b', hb'⟩ := exists_ruleMatchResult_of_mem F hR R[j] (List.getElem_mem hj)
      exact decides_eq_isMatch_of_ruleMatchResult F hb' hanon
    rw [List.findIdx?_eq_some_iff_getElem]
    have hnot := not_congr (hskipped i hi)
    simp only [Bool.not_eq_true] at hnot
    rw [hnot]
    constructor
    · rintro ⟨hm, hnone⟩
      refine ⟨hi, by rw [hdecides i hi]; exact hm, fun j hj hmj => hnone ⟨j, hj, ?_⟩⟩
      rwa [hdecides j (by omega)] at hmj
    · rintro ⟨_, hm, hbefore⟩
      refine ⟨by rwa [hdecides i hi] at hm, fun ⟨j, hj, hmj⟩ => hbefore j hj ?_⟩
      rw [hdecides j (by omega)]
      exact hmj

end CaseFolding

def exampleAccessControl : Schema.AccessControl :=
  ⟨"deny".toList, [{ domains := ["*.example.com".toList], policy := "one_factor".toList },
    { domains := ["{user}.example.com".toList], policy := "two_factor".toList }]⟩

theorem getRequiredLevel_eq_ruleMatchResults_john :
    ∃ R, (newAuthorizer CaseFolding.ascii exampleAccessControl).getRuleMatchResults
        CaseFolding.ascii { username := "john".toList } { domain := "john.example.com".toList } =
        some R ∧
      R.map (·.rule) = (newAuthorizer CaseFolding.ascii exampleAccessControl).rules := by
  obtain ⟨R, hR⟩ : ∃ R, (newAuthorizer CaseFolding.ascii exampleAccessControl).getRuleMatchResults
      CaseFolding.ascii { username := "john".toList } { domain := "john.example.com".toList } =
      some R := ⟨_, rfl⟩
  exact ⟨R, hR, (getRequiredLevel_eq_ruleMatchResults _ _ _ _ hR).1⟩

end Authelia.Authorization
