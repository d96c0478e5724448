import Authelia.Authorization.Matchers

/-! `AccessControlRule` (`access_control_rule.go`, `util.go`). A rule holds six criteria and a
policy; `IsMatch` checks the criteria in order and stops at the first that fails, so only the
domain and resource matchers, which run first, can make it panic. -/

namespace Authelia.Authorization
open Go Utils

structure AccessControlRule where
  hasSubjects : Bool
  position : Nat
  domains : List AccessControlDomain
  resources : List AccessControlResource
  query : List AccessControlQuery
  methods : List (List Char)
  networks : List IPNet
  subjects : List AccessControlSubjects
  policy : Level

def ruleAddMatchers {α β : Type} (build : α → Bool × β)
    (push : AccessControlRule → β → AccessControlRule) (entries : List α)
    (rule : AccessControlRule) : AccessControlRule :=
  entries.foldl (fun r e => { push r (build e).2 with hasSubjects := r.hasSubjects || (build e).1 })
    rule

def ruleAddDomain (F : CaseFolding) (domainRules : List (List Char)) (rule : AccessControlRule) :
    AccessControlRule :=
  ruleAddMatchers (newAccessControlDomain F) (fun r m => { r with domains := r.domains ++ [m] })
    domainRules rule

def ruleAddDomainRegex (exps : List Regexp) (rule : AccessControlRule) : AccessControlRule :=
  ruleAddMatchers newAccessControlDomainRegex (fun r m => { r with domains := r.domains ++ [m] })
    exps rule

def ruleAddResources (exps : List Regexp) (rule : AccessControlRule) : AccessControlRule :=
  ruleAddMatchers newAccessControlResource (fun r m => { r with resources := r.resources ++ [m] })
    exps rule

def newAccessControlRule (F : CaseFolding) (pos : Nat) (rule : Schema.AccessControlRule) :
    AccessControlRule :=
  let r : AccessControlRule :=
    { hasSubjects := !(schemaSubjectsToACL rule.subjects).isEmpty
      position := pos
      domains := []
      resources := []
      query := newAccessControlQuery rule.query
      methods := schemaMethodsToACL F rule.methods
      networks := rule.networks
      subjects := schemaSubjectsToACL rule.subjects
      policy := newLevel rule.policy }
  ruleAddResources rule.resources (ruleAddDomainRegex rule.domainsRegex (ruleAddDomain F rule.domains r))

def newAccessControlRules (F : CaseFolding) (config : Schema.AccessControl) :
    List AccessControlRule :=
  config.rules.mapIdx fun i rule => newAccessControlRule F (i + 1) rule

namespace AccessControlRule
variable (F : CaseFolding)

def matchesDomains (acr : AccessControlRule) (subject : Subject) (object : Object) : Option Bool :=
  if acr.domains.isEmpty then some true
  else acr.domains.anyM fun domain => domain.isMatch F subject object

def matchesResources (acr : AccessControlRule) (subject : Subject) (object : Object) :
    Option Bool :=
  if acr.resources.isEmpty then some true
  else acr.resources.anyM fun resource => resource.isMatch F subject object

def matchesQuery (acr : AccessControlRule) (object : Object) : Bool :=
  acr.query.isEmpty || acr.query.any fun query => query.isMatch object

def matchesMethods (acr : AccessControlRule) (object : Object) : Bool :=
  acr.methods.isEmpty || isStringInSlice object.method acr.methods

def matchesNetworks (acr : AccessControlRule) (subject : Subject) : Bool :=
  networksIsMatch acr.networks subject

def matchesSubjectExact (acr : AccessControlRule) (subject : Subject) : Bool :=
  if acr.subjects.isEmpty then true
  else if subject.isAnonymous then false
  else acr.subjects.any fun subjectRule => subjectRule.isMatch subject

def matchesSubjects (acr : AccessControlRule) (subject : Subject) : Bool :=
  if subject.isAnonymous then true else acr.matchesSubjectExact subject

/-- `IsMatch`. The last four criteria cannot panic, so reading them with `&&` is the early return
of the source. -/
def isMatch (acr : AccessControlRule) (subject : Subject) (object : Object) : Option Bool :=
  (acr.matchesDomains F subject object).bind fun domains =>
    if !domains then some false
    else (acr.matchesResources F subject object).map fun resources =>
      resources && acr.matchesQuery object && acr.matchesMethods object &&
        acr.matchesNetworks subject && acr.matchesSubjects subject

theorem matchesSubjects_of_matchesSubjectExact {acr : AccessControlRule} {subject : Subject}
    (h : acr.matchesSubjectExact subject = true) : acr.matchesSubjects subject = true := by
  unfold matchesSubjects
  split
  · rfl
  · exact h

theorem matchesSubjects_of_not_isAnonymous (acr : AccessControlRule) {subject : Subject}
    (h : subject.isAnonymous = false) :
    acr.matchesSubjects subject = acr.matchesSubjectExact subject := by
  simp [matchesSubjects, h]

theorem isMatch_eq_of_matches {acr : AccessControlRule} {subject : Subject} {object : Object}
    {d r : Bool} (hd : acr.matchesDomains F subject object = some d)
    (hr : acr.matchesResources F subject object = some r) :
    acr.isMatch F subject object = some (d && r && acr.matchesQuery object &&
      acr.matchesMethods object && acr.matchesNetworks subject && acr.matchesSubjects subject) := by
  cases d with
  | false => simp [isMatch, hd]
  | true => simp [isMatch, hd, hr, Bool.and_assoc]

theorem isMatch_eq_some_true_iff {acr : AccessControlRule} {subject : Subject}
    {object : Object} :
    acr.isMatch F subject object = some true ↔
      acr.matchesDomains F subject object = some true ∧
        acr.matchesResources F subject object = some true ∧ acr.matchesQuery object = true ∧
        acr.matchesMethods object = true ∧ acr.matchesNetworks subject = true ∧
        acr.matchesSubjects subject = true := by
  unfold isMatch
  cases hd : acr.matchesDomains F subject object with
  | none => simp
  | some d =>
    cases d with
    | false => simp
    | true =>
      cases hr : acr.matchesResources F subject object with
      | none => simp
      | some r => simp [Bool.and_assoc]

theorem isMatch_of_domains_eq_singleton {acr : AccessControlRule} {d : AccessControlDomain}
    (hd : acr.domains = [d]) (hr : acr.resources = []) (hq : acr.query = [])
    (hm : acr.methods = []) (hn : acr.networks = []) (hs : acr.subjects = []) (subject : Subject)
    (object : Object) : acr.isMatch F subject object = d.isMatch F subject object := by
  have hsubjects : acr.matchesSubjects subject = true :=
    matchesSubjects_of_matchesSubjectExact (by simp [matchesSubjectExact, hs])
  simp only [isMatch, matchesDomains, hd, List.isEmpty_cons, Bool.false_eq_true, if_false,
    matchesResources, hr, List.isEmpty_nil, if_true, Option.map_some, matchesQuery, hq,
    matchesMethods, hm, matchesNetworks, networksIsMatch, hn, hsubjects, Bool.true_or,
    Bool.and_true, List.anyM]
  cases d.isMatch F subject object with
  | none => rfl
  | some b => cases b <;> rfl

end AccessControlRule

end Authelia.Authorization
