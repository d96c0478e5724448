import Authelia.Authorization.Rule
import Authelia.Lib.FirstMatch

/-! The anonymous subject against an identity. A matcher asked about the anonymous subject answers
for every identity at once: the `{user}` and `{group}` domains accept a longer domain with the
suffix, and a pattern with named groups accepts whatever it matches. This covers an identity
whose username is not empty and whose groups are not empty names; an identity with an empty
username (an OAuth 2.0 client) matches the bare suffix, which the anonymous subject does not. -/

namespace Authelia.Authorization
open Go Utils

theorem Subject.eq_nil_of_isAnonymous {s : Subject} (h : s.isAnonymous = true) :
    s.username = [] ∧ s.groups = [] ∧ s.clientID = [] := by
  simpa [Subject.isAnonymous, List.isEmpty_iff, and_assoc] using h

variable (F : CaseFolding)

theorem AccessControlDomainMatcher.isMatch_congr (m : AccessControlDomainMatcher)
    (domain : List Char) {s t : Subject} (hanon : s.isAnonymous = t.isAnonymous)
    (huser : s.username = t.username) (hgroups : s.groups = t.groups) :
    m.isMatch F domain s = m.isMatch F domain t := by
  simp only [AccessControlDomainMatcher.isMatch, hanon, huser, hgroups]

section Covers
variable {s a : Subject}

theorem AccessControlDomainMatcher.isMatch_covers_anonymous (m : AccessControlDomainMatcher)
    (domain : List Char) (ha : a.isAnonymous = true)
    (hu : s.isAnonymous = false → s.username ≠ []) (hg : [] ∉ s.groups) :
    (m.isMatch F domain s).Covers (m.isMatch F domain a) := by
  obtain ⟨hau, hag, -⟩ := Subject.eq_nil_of_isAnonymous ha
  cases hs : s.isAnonymous with
  | true =>
    -- an anonymous subject reads as the other anonymous one
    obtain ⟨hsu, hsg, -⟩ := Subject.eq_nil_of_isAnonymous hs
    rw [isMatch_congr F m domain (hs.trans ha.symm) (hsu.trans hau.symm) (hsg.trans hag.symm)]
    exact Option.Covers.refl _
  | false =>
    unfold AccessControlDomainMatcher.isMatch
    by_cases hw : m.wildcard = true
    · simp only [hw, if_true]
      exact Option.Covers.refl _
    by_cases huw : m.userWildcard = true
    · -- `{user}`: the identity's domain is its username in front of the suffix
      simp only [hw, huw, hs, ha, hau, Bool.false_and, Bool.true_and, Bool.false_eq_true,
        if_true, if_false]
      intro b hb
      obtain rfl := Option.some.inj hb
      by_cases hsuf : stringHasSuffixFold F domain m.name = true
      · refine ⟨_, if_pos hsuf, fun hdomain => ?_⟩
        obtain rfl := beq_iff_eq.mp hdomain
        have hpos := utf8Len_pos_of_ne_nil (hu hs)
        simp only [String.utf8Len_append, decide_eq_true_eq]
        omega
      · refine ⟨_, if_neg hsuf, fun hdomain => ?_⟩
        obtain rfl := beq_iff_eq.mp hdomain
        exact absurd (stringHasSuffixFold_append F _ _) hsuf
    by_cases hgw : m.groupWildcard = true
    · -- `{group}`: the identity's domain is one of its groups in front of the suffix
      simp only [hw, huw, hgw, hs, ha, hag, Bool.false_and, Bool.true_and, Bool.false_eq_true,
        if_true, if_false]
      intro b hb
      rcases index_eq_neg_one_or_nonneg domain ['.'] with hneg | hnonneg
      · -- no period: the identity's evaluation panics, so there is nothing to cover
        rw [sliceFrom_eq_none_of_neg (by omega), Option.bind_none] at hb
        cases hb
      obtain ⟨u, v, rfl, -, hto, hfrom⟩ := exists_slices_of_index_nonneg hnonneg
      rw [hfrom, Option.bind_some, hto] at hb ⊢
      by_cases hv : v = m.name
      · subst hv
        simp only [beq_self_eq_true, if_true, Option.map_some, stringHasSuffixFold_append] at hb ⊢
        obtain rfl := Option.some.inj hb
        refine ⟨_, rfl, fun hmem => ?_⟩
        obtain ⟨g, hgmem, hgu⟩ := (isStringInSliceFold_iff F u s.groups).mp hmem
        have hune : u ≠ [] := by
          rintro rfl
          have hlen := length_eq_of_equalFold F hgu
          rw [List.length_nil, List.length_eq_zero_iff] at hlen
          exact hg (hlen ▸ hgmem)
        have hpos := utf8Len_pos_of_ne_nil hune
        simp only [String.utf8Len_append, decide_eq_true_eq]
        omega
      · simp only [beq_eq_false_iff_ne.mpr hv, Bool.false_eq_true, if_false] at hb ⊢
        obtain rfl := Option.some.inj hb
        -- the identity is rejected, and the anonymous subject returns on both branches
        split
        · exact ⟨_, rfl, fun h => absurd h Bool.false_ne_true⟩
        · exact ⟨false, rfl, id⟩
    · simp only [hw, huw, hgw, Bool.false_eq_true, if_false]
      exact Option.Covers.refl _

theorem RegexpGroupStringSubjectMatcher.isMatch_covers_anonymous
    (r : RegexpGroupStringSubjectMatcher) (input : List Char) (ha : a.isAnonymous = true) :
    (r.isMatch F input s).Covers (r.isMatch F input a) := by
  unfold RegexpGroupStringSubjectMatcher.isMatch
  cases r.pattern.findStringSubmatch input with
  | none => exact Option.Covers.refl _
  | some sub =>
    -- a match is all the anonymous subject needs
    intro b _
    exact ⟨true, by simp [ha], fun _ => rfl⟩

theorem StringSubjectMatcher.isMatch_covers_anonymous (m : StringSubjectMatcher)
    (input : List Char) (ha : a.isAnonymous = true)
    (hu : s.isAnonymous = false → s.username ≠ []) (hg : [] ∉ s.groups) :
    (m.isMatch F input s).Covers (m.isMatch F input a) := by
  cases m with
  | domain m => exact m.isMatch_covers_anonymous F input ha hu hg
  | regexpGroup m => exact m.isMatch_covers_anonymous F input ha
  | regexp m => exact Option.Covers.refl _

theorem AccessControlRule.matchesDomains_covers_anonymous (acr : AccessControlRule)
    (object : Object) (ha : a.isAnonymous = true)
    (hu : s.isAnonymous = false → s.username ≠ []) (hg : [] ∉ s.groups) :
    (acr.matchesDomains F s object).Covers (acr.matchesDomains F a object) := by
  unfold AccessControlRule.matchesDomains
  split
  · exact Option.Covers.refl _
  · exact List.anyM_covers fun domain _ =>
      domain.matcher.isMatch_covers_anonymous F object.domain ha hu hg

theorem AccessControlRule.matchesResources_covers_anonymous (acr : AccessControlRule)
    (object : Object) (ha : a.isAnonymous = true)
    (hu : s.isAnonymous = false → s.username ≠ []) (hg : [] ∉ s.groups) :
    (acr.matchesResources F s object).Covers (acr.matchesResources F a object) := by
  unfold AccessControlRule.matchesResources
  split
  · exact Option.Covers.refl _
  · exact List.anyM_covers fun resource _ =>
      resource.matcher.isMatch_covers_anonymous F object.path ha hu hg

/-- A rule that matches an identity whose username and group names are not empty matches the
anonymous subject from the same address. -/
theorem AccessControlRule.isMatch_anonymous_of_isMatch (acr : AccessControlRule)
    (object : Object) (ha : a.isAnonymous = true) (hip : a.ip = s.ip)
    (hu : s.isAnonymous = false → s.username ≠ []) (hg : [] ∉ s.groups)
    (h : acr.isMatch F s object = some true) : acr.isMatch F a object = some true := by
  obtain ⟨hd, hr, hq, hm, hn, -⟩ := (AccessControlRule.isMatch_eq_some_true_iff F).mp h
  refine (AccessControlRule.isMatch_eq_some_true_iff F).mpr ⟨?_, ?_, hq, hm, ?_, ?_⟩
  · exact (acr.matchesDomains_covers_anonymous F object ha hu hg).eq_some_true hd
  · exact (acr.matchesResources_covers_anonymous F object ha hu hg).eq_some_true hr
  · -- the networks read only the address
    simpa only [AccessControlRule.matchesNetworks, networksIsMatch, hip] using hn
  · simp [AccessControlRule.matchesSubjects, ha]

end Covers

/-! ### The `{user}` matcher -/

theorem AccessControlDomainMatcher.isMatch_userWildcard_anonymous {m : AccessControlDomainMatcher}
    (hw : m.wildcard = false) (hu : m.userWildcard = true) (domain : List Char) {a : Subject}
    (ha : a.isAnonymous = true) :
    m.isMatch F domain a =
      some (stringHasSuffixFold F domain m.name &&
        decide (String.utf8Len m.name < String.utf8Len domain)) := by
  obtain ⟨hau, -, -⟩ := Subject.eq_nil_of_isAnonymous ha
  unfold AccessControlDomainMatcher.isMatch
  simp only [hw, hu, ha, hau, Bool.true_and, Bool.false_eq_true, if_false, if_true,
    List.nil_append]
  cases hsuf : stringHasSuffixFold F domain m.name with
  | true => rfl
  | false =>
    -- a domain equal to the suffix would end with it
    have hne : domain ≠ m.name := fun h => by simp [h] at hsuf
    simp [hne]

theorem AccessControlDomainMatcher.isMatch_userWildcard {m : AccessControlDomainMatcher}
    (hw : m.wildcard = false) (hu : m.userWildcard = true) (domain : List Char) {s : Subject}
    (hs : s.isAnonymous = false) :
    m.isMatch F domain s = some (domain == s.username ++ m.name) := by
  unfold AccessControlDomainMatcher.isMatch
  simp only [hw, hu, hs, Bool.false_and, Bool.false_eq_true, if_false, if_true]

/-! ### An identity without a username -/

theorem newAccessControlDomain_of_user (domain : List Char)
    (hstar : hasPrefix (toLower F domain) "*.".toList = false)
    (huser : hasPrefix (toLower F domain) "{user}".toList = true) :
    newAccessControlDomain F domain =
      (true, ⟨.domain { name := (toLower F domain).drop 6, userWildcard := true }⟩) := by
  simp only [newAccessControlDomain, hstar, huser, Bool.false_eq_true, if_false, if_true,
    Bool.true_or]

def userWildcardMatcher : AccessControlDomainMatcher :=
  { name := ".example.com".toList, userWildcard := true }

def userWildcardACLRule (pos : Nat) (policy : Level) : AccessControlRule :=
  { hasSubjects := true
    position := pos
    domains := [⟨.domain userWildcardMatcher⟩]
    resources := []
    query := []
    methods := []
    networks := []
    subjects := []
    policy := policy }

theorem userWildcardACLRule_isMatch (pos : Nat) (policy : Level) (subject : Subject)
    (object : Object) :
    (userWildcardACLRule pos policy).isMatch F subject object =
      userWildcardMatcher.isMatch F object.domain subject := by
  rw [AccessControlRule.isMatch_of_domains_eq_singleton F (d := ⟨.domain userWildcardMatcher⟩)
    rfl rfl rfl rfl rfl rfl]
  rfl

theorem AccessControlRule.isMatch_anonymous_of_isMatch_john :
    ({ ip := [192, 0, 2, 1] } : Subject).isAnonymous = true ∧
      ({ ip := [192, 0, 2, 1] } : Subject).ip =
        ({ username := "john".toList, ip := [192, 0, 2, 1] } : Subject).ip ∧
      (({ username := "john".toList, ip := [192, 0, 2, 1] } : Subject).isAnonymous = false →
        ({ username := "john".toList, ip := [192, 0, 2, 1] } : Subject).username ≠ []) ∧
      [] ∉ ({ username := "john".toList, ip := [192, 0, 2, 1] } : Subject).groups ∧
      (userWildcardACLRule 1 .oneFactor).isMatch .ascii
        { username := "john".toList, ip := [192, 0, 2, 1] }
        { domain := "john.example.com".toList } = some true ∧
      (userWildcardACLRule 1 .oneFactor).isMatch .ascii { ip := [192, 0, 2, 1] }
        { domain := "john.example.com".toList } = some true := by
  have hmatch : (userWildcardACLRule 1 .oneFactor).isMatch .ascii
      { username := "john".toList, ip := [192, 0, 2, 1] }
      { domain := "john.example.com".toList } = some true := by
    rw [userWildcardACLRule_isMatch, AccessControlDomainMatcher.isMatch_userWildcard _ rfl rfl _ rfl]
    decide
  exact ⟨rfl, rfl, fun _ => by simp, by simp, hmatch,
    AccessControlRule.isMatch_anonymous_of_isMatch .ascii _ _
      (s := { username := "john".toList, ip := [192, 0, 2, 1] }) (a := { ip := [192, 0, 2, 1] })
      rfl rfl (fun _ => by simp) (by simp) hmatch⟩

theorem newAccessControlRule_userWildcard (pos : Nat) (policy : List Char) :
    newAccessControlRule F pos { domains := ["{user}.example.com".toList], policy := policy } =
      userWildcardACLRule pos (newLevel policy) := by
  have hlower : toLower F "{user}.example.com".toList = "{user}.example.com".toList := by
    rw [toLower_of_ascii F (by decide)]
    decide
  have hdomain := newAccessControlDomain_of_user F "{user}.example.com".toList
    (by rw [hlower]; decide) (by rw [hlower]; decide)
  have hname : (toLower F "{user}.example.com".toList).drop 6 = ".example.com".toList := by
    rw [hlower]
    decide
  rw [hname] at hdomain
  simp only [newAccessControlRule, ruleAddResources, ruleAddDomainRegex, ruleAddDomain,
    ruleAddMatchers, hdomain, List.foldl_cons, List.foldl_nil, List.nil_append]
  rfl

def userWildcardRule : Schema.AccessControlRule :=
  { domains := ["{user}.example.com".toList], policy := "one_factor".toList }

/-- An OAuth 2.0 client, which has no username, matches a `{user}` rule on the bare suffix, where
the anonymous subject's length check rejects. -/
theorem userWildcardRule_matches_client_not_anonymous :
    ∀ F : CaseFolding,
      (newAccessControlRule F 1 userWildcardRule).isMatch F { clientID := "app".toList }
          { domain := ".example.com".toList } = some true ∧
        (newAccessControlRule F 1 userWildcardRule).isMatch F {}
          { domain := ".example.com".toList } = some false := by
  intro F
  rw [userWildcardRule, newAccessControlRule_userWildcard, userWildcardACLRule_isMatch,
    userWildcardACLRule_isMatch]
  constructor
  · -- the client is not anonymous, and its empty username leaves the bare suffix
    rw [AccessControlDomainMatcher.isMatch_userWildcard F rfl rfl _ (by decide)]
    decide
  · -- the anonymous subject passes the suffix check and fails the length check
    rw [AccessControlDomainMatcher.isMatch_userWildcard_anonymous F rfl rfl _ rfl,
      show userWildcardMatcher.name = ".example.com".toList from rfl, stringHasSuffixFold_self,
      Bool.true_and]
    decide

end Authelia.Authorization
