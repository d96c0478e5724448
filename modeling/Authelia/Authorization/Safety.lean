import Authelia.Authorization.Authorizer

/-! Where the decision can panic. Of all the matchers, only the `{group}` domain matcher slices a
string at a computed offset, and it does so before checking that the offset was found: a request
for a host without a period reaches `domain[-1:]`. -/

namespace Authelia.Authorization
open Go Utils

variable (F : CaseFolding)

theorem AccessControlDomainMatcher.isMatch_eq_none_iff (m : AccessControlDomainMatcher)
    (domain : List Char) (subject : Subject) :
    m.isMatch F domain subject = none ↔
      m.wildcard = false ∧ m.userWildcard = false ∧ m.groupWildcard = true ∧
        (subject.isAnonymous && stringHasSuffixFold F domain m.name) = false ∧
        index domain ['.'] = -1 := by
  unfold AccessControlDomainMatcher.isMatch
  by_cases hw : m.wildcard = true
  · simp [hw]
  by_cases hu : m.userWildcard = true
  · simp only [hw, hu, if_true, Bool.false_eq_true, if_false]
    split <;> simp
  by_cases hg : m.groupWildcard = false
  · simp [hw, hu, hg]
  simp only [hw, hu, hg, if_true, if_false, Bool.false_eq_true, true_and]
  cases hshort : (subject.isAnonymous && stringHasSuffixFold F domain m.name) with
  | true => simp
  | false =>
    simp only [Bool.false_eq_true, if_false, true_and]
    rcases index_eq_neg_one_or_nonneg domain ['.'] with hneg | hnonneg
    · -- no period: `domain[-1:]` panics
      rw [sliceFrom_eq_none_of_neg (by omega)]
      simp [hneg]
    · -- a period was found, so both slices are in range
      obtain ⟨rest, hrest⟩ := Option.isSome_iff_exists.mp (sliceFrom_index_isSome hnonneg)
      obtain ⟨head, hhead⟩ := Option.isSome_iff_exists.mp (sliceTo_index_isSome hnonneg)
      have hfound : index domain ['.'] ≠ -1 := by omega
      rw [hrest]
      simp only [Option.bind_some, hfound, iff_false]
      split
      · simp [hhead]
      · simp

theorem AccessControlRule.isMatch_eq_none_of_domain {acr : AccessControlRule}
    {d : AccessControlDomain} {ds : List AccessControlDomain} {subject : Subject} {object : Object}
    (hd : acr.domains = d :: ds) (h : d.isMatch F subject object = none) :
    acr.isMatch F subject object = none := by
  simp [AccessControlRule.isMatch, AccessControlRule.matchesDomains, hd, h]

theorem Authorizer.getRequiredLevel_eq_none_of_head {p : Authorizer} {rule : AccessControlRule}
    {rules : List AccessControlRule} {subject : Subject} {object : Object}
    (hp : p.rules = rule :: rules) (h : rule.isMatch F subject object = none) :
    p.getRequiredLevel F subject object = none := by
  simp [Authorizer.getRequiredLevel, hp, List.findM?, h]

theorem newAccessControlDomain_of_group (domain : List Char)
    (hstar : hasPrefix (toLower F domain) "*.".toList = false)
    (huser : hasPrefix (toLower F domain) "{user}".toList = false)
    (hgroup : hasPrefix (toLower F domain) "{group}".toList = true) :
    newAccessControlDomain F domain =
      (true, ⟨.domain { name := (toLower F domain).drop 7, groupWildcard := true }⟩) := by
  simp only [newAccessControlDomain, hstar, huser, hgroup, Bool.false_eq_true, if_false, if_true,
    Bool.or_true]

def groupWildcardRule : Schema.AccessControlRule :=
  { domains := ["{group}.example.com".toList], policy := "one_factor".toList }

def groupWildcardConfig : Schema.AccessControl := ⟨"deny".toList, [groupWildcardRule]⟩

/-- With a `{group}` rule, a request for `localhost` makes the decision panic, for the anonymous
subject as for any other, before any rule or the default policy applies. -/
theorem getRequiredLevel_group_rule_localhost_panics :
    ∀ F : CaseFolding,
      (newAuthorizer F groupWildcardConfig).getRequiredLevel F {} { domain := "localhost".toList } =
        none := by
  intro F
  have hlower : toLower F "{group}.example.com".toList = "{group}.example.com".toList := by
    rw [toLower_of_ascii F (by decide)]
    decide
  have hdomain := newAccessControlDomain_of_group F "{group}.example.com".toList
    (by rw [hlower]; decide) (by rw [hlower]; decide) (by rw [hlower]; decide)
  have hname : (toLower F "{group}.example.com".toList).drop 7 = ".example.com".toList := by
    rw [hlower]
    decide
  rw [hname] at hdomain
  have hrules : (newAuthorizer F groupWildcardConfig).rules =
      [newAccessControlRule F 1 groupWildcardRule] := by
    simp only [newAuthorizer, newAccessControlRules, groupWildcardConfig, List.mapIdx_cons,
      List.mapIdx_nil]
  have hdomains : (newAccessControlRule F 1 groupWildcardRule).domains =
      [⟨.domain { name := ".example.com".toList, groupWildcard := true }⟩] := by
    simp only [newAccessControlRule, ruleAddResources, ruleAddDomainRegex, ruleAddDomain,
      ruleAddMatchers, groupWildcardRule, hdomain, List.foldl_cons, List.foldl_nil, List.nil_append]
  -- the anonymous shortcut fails on length, and `localhost` has no period
  have hpanic : (AccessControlDomainMatcher.isMatch F
      { name := ".example.com".toList, groupWildcard := true } "localhost".toList {}) = none := by
    rw [AccessControlDomainMatcher.isMatch_eq_none_iff]
    refine ⟨rfl, rfl, rfl, ?_, index_singleton_eq_neg_one (by decide)⟩
    rw [stringHasSuffixFold_of_lt F (by decide), Bool.and_false]
  exact Authorizer.getRequiredLevel_eq_none_of_head F hrules
    (AccessControlRule.isMatch_eq_none_of_domain F hdomains hpanic)

end Authelia.Authorization
