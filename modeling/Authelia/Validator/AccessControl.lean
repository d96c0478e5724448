import Authelia.Authorization.Matchers
import Authelia.Lib.MapAccum

/-! The `access_control` validator (`configuration/validator/access_control.go`). The validator
pushes errors and warnings into a `StructValidator` and rewrites the configuration in place: an
empty default policy becomes `deny`, a query criterion gets its default operator, and a pattern
value is replaced by the compiled pattern. A configuration is accepted when no error was pushed. -/

namespace Authelia.Validator
open Go Utils Schema

structure StructValidator where
  errors : List (List Char) := []
  warnings : List (List Char) := []

namespace StructValidator

def push (v : StructValidator) (err : List Char) : StructValidator :=
  { v with errors := v.errors ++ [err] }

def pushWarning (v : StructValidator) (err : List Char) : StructValidator :=
  { v with warnings := v.warnings ++ [err] }

/-- `v'` is `v` after some pushes: neither list loses or changes an entry. -/
def Extends (v v' : StructValidator) : Prop :=
  v.errors <+: v'.errors ∧ v.warnings <+: v'.warnings

theorem Extends.refl (v : StructValidator) : v.Extends v :=
  ⟨List.prefix_refl _, List.prefix_refl _⟩

theorem Extends.trans {u v w : StructValidator} (huv : u.Extends v) (hvw : v.Extends w) :
    u.Extends w :=
  ⟨huv.1.trans hvw.1, huv.2.trans hvw.2⟩

theorem extends_push (v : StructValidator) (err : List Char) : v.Extends (v.push err) :=
  ⟨List.prefix_append _ _, List.prefix_refl _⟩

theorem extends_pushWarning (v : StructValidator) (err : List Char) :
    v.Extends (v.pushWarning err) :=
  ⟨List.prefix_refl _, List.prefix_append _ _⟩

theorem errors_eq_nil_of_extends {v v' : StructValidator} (h : v.Extends v')
    (h' : v'.errors = []) : v.errors = [] :=
  List.eq_nil_of_prefix_nil (h' ▸ h.1)

@[simp] theorem push_errors_ne_nil (v : StructValidator) (err : List Char) :
    (v.push err).errors ≠ [] := by
  simp [push]

@[simp] theorem pushWarning_errors (v : StructValidator) (err : List Char) :
    (v.pushWarning err).errors = v.errors := rfl

end StructValidator

/-! ### Constants -/

def policyBypass : List Char := "bypass".toList
def policyOneFactor : List Char := "one_factor".toList
def policyTwoFactor : List Char := "two_factor".toList
def policyDeny : List Char := "deny".toList

def operatorPresent : List Char := "present".toList
def operatorAbsent : List Char := "absent".toList
def operatorEqual : List Char := "equal".toList
def operatorNotEqual : List Char := "not equal".toList
def operatorPattern : List Char := "pattern".toList
def operatorNotPattern : List Char := "not pattern".toList

def validACLRulePolicies : List (List Char) :=
  [policyBypass, policyOneFactor, policyTwoFactor, policyDeny]

def validACLRuleOperators : List (List Char) :=
  [operatorPresent, operatorAbsent, operatorEqual, operatorNotEqual, operatorPattern,
    operatorNotPattern]

def validRFC7231HTTPMethodVerbs : List (List Char) :=
  ["GET", "HEAD", "POST", "PUT", "PATCH", "DELETE", "TRACE", "CONNECT", "OPTIONS"].map String.toList

def validRFC4918HTTPMethodVerbs : List (List Char) :=
  ["COPY", "LOCK", "MKCOL", "MOVE", "PROPFIND", "PROPPATCH", "UNLOCK"].map String.toList

def validACLHTTPMethodVerbs : List (List Char) :=
  validRFC7231HTTPMethodVerbs ++ validRFC4918HTTPMethodVerbs

def errFmtAccessControlDefaultPolicyValue : List Char :=
  "access_control: option 'default_policy' must be one of %s but it's configured as '%s'".toList

def errFmtAccessControlDefaultPolicyWithoutRules : List Char :=
  ("access_control: 'default_policy' option '%s' is invalid: when no rules are specified it must " ++
    "be 'two_factor' or 'one_factor'").toList

def errFmtAccessControlWarnNoRulesDefaultPolicy : List Char :=
  ("access_control: no rules have been specified so the 'default_policy' of '%s' is going to be " ++
    "applied to all requests").toList

def errFmtAccessControlRuleNoDomains : List Char :=
  "access_control: rule %s: option 'domain' or 'domain_regex' must be present but are both absent".toList

def errFmtAccessControlRuleNoPolicy : List Char :=
  "access_control: rule %s: option 'policy' must be present but it's absent".toList

def errFmtAccessControlRuleInvalidPolicy : List Char :=
  "access_control: rule %s: option 'policy' must be one of %s but it's configured as '%s'".toList

def errAccessControlRuleBypassPolicyOptionBypassIs : String :=
  "access_control: rule %s: 'policy' option 'bypass' is "

def errAccessControlRuleBypassPolicyInvalidWithSubjects : List Char :=
  (errAccessControlRuleBypassPolicyOptionBypassIs ++
    "not supported when 'subject' option is configured: see " ++
    "https://www.authelia.com/c/acl#bypass").toList

def errAccessControlRuleBypassPolicyInvalidWithSubjectsWithGroupDomainRegex : List Char :=
  (errAccessControlRuleBypassPolicyOptionBypassIs ++
    "not supported when 'domain_regex' option contains the user or group named matches. " ++
    "For more information see: https://www.authelia.com/c/acl-match-concept-2").toList

def errFmtAccessControlRuleSubjectInvalid : List Char :=
  ("access_control: rule %s: 'subject' option '%s' is invalid: must start with 'user:', " ++
    "'group:', or 'oauth2:client:'").toList

def errFmtAccessControlRuleOAuth2ClientSubjectInvalid : List Char :=
  ("access_control: rule %s: option 'subject' with value '%s' is invalid: the client id '%s' " ++
    "does not belong to a registered client").toList

def errFmtAccessControlRuleInvalidEntries : List Char :=
  ("access_control: rule %s: option '%s' must only have the values %s but the values %s are " ++
    "present").toList

def errFmtAccessControlRuleInvalidDuplicates : List Char :=
  ("access_control: rule %s: option '%s' must have unique values but the values %s are " ++
    "duplicated").toList

def errFmtAccessControlRuleQueryInvalid : List Char :=
  ("access_control: rule %s: query: option 'operator' must be one of %s but it's configured as " ++
    "'%s'").toList

def errFmtAccessControlRuleQueryInvalidNoValue : List Char :=
  "access_control: rule %s: query: option '%s' is required but it's absent".toList

def errFmtAccessControlRuleQueryInvalidNoValueOperator : List Char :=
  ("access_control: rule %s: query: option '%s' must be present when the option 'operator' is " ++
    "'%s' but it's absent").toList

def errFmtAccessControlRuleQueryInvalidValue : List Char :=
  ("access_control: rule %s: query: option '%s' must not be present when the option 'operator' " ++
    "is '%s' but it's present").toList

def errFmtAccessControlRuleQueryInvalidValueParse : List Char :=
  "access_control: rule %s: query: option '%s' is invalid: %w".toList

def errFmtAccessControlRuleQueryInvalidValueType : List Char :=
  "access_control: rule %s: query: option 'value' is invalid: expected type was string but got %T".toList

/-! ### Helpers -/

def stringJoinBuild (sep sepFinal quote : List Char) (items : List (List Char)) : List Char :=
  let n := items.length
  (items.mapIdx fun i item =>
    quote ++ item ++ quote ++
      if i = n - 1 then []
      else
        (if sep.isEmpty then [] else (if sepFinal.isEmpty || n != 2 then sep else []) ++ [' ']) ++
          (if !sepFinal.isEmpty && i = n - 2 then trim sepFinal [' '] ++ [' '] else [])).flatten

def stringJoinComma (word : List Char) (items : List (List Char)) : List Char :=
  if word.isEmpty then stringJoinBuild [','] [] ['\''] items
  else stringJoinBuild [','] word ['\''] items

def stringJoinOr (items : List (List Char)) : List Char := stringJoinComma "or".toList items

def stringJoinAnd (items : List (List Char)) : List Char := stringJoinComma "and".toList items

/-- `validateList`: the values outside `valid` (when `valid` is not empty), and each value that
occurs twice, once. -/
def validateList (values valid : List (List Char)) (chkDuplicate : Bool) :
    List (List Char) × List (List Char) :=
  let chkValid := !valid.isEmpty
  values.zipIdx.foldl
    (fun (acc : List (List Char) × List (List Char)) (vi : List Char × Nat) =>
      let (invalid, duplicates) := acc
      let (value, i) := vi
      if chkValid && !isStringInSlice value valid then (invalid ++ [value], duplicates)
      else if chkDuplicate then
        (invalid, values.zipIdx.foldl
          (fun (duplicates : List (List Char)) (vj : List Char × Nat) =>
            if i = vj.2 then duplicates
            else if value != vj.1 then duplicates
            else if isStringInSlice value duplicates then duplicates
            else duplicates ++ [value])
          duplicates)
      else (invalid, duplicates))
    ([], [])

def ruleDescriptor (position : Nat) (rule : AccessControlRule) : List Char :=
  if rule.domains.isEmpty then sprintf "#%d".toList [itoa position]
  else sprintf "#%d (domain '%s')".toList [itoa position, [','].intercalate rule.domains]

def isPolicyValid (policy : List Char) : Bool := isStringInSlice policy validACLRulePolicies

def isSubjectValidBasic (subject : List Char) : Bool :=
  hasPrefix subject "user:".toList || hasPrefix subject "group:".toList

/-- `IsSubjectValid`: whether the subject is valid, and the client id of an OAuth 2.0 subject. -/
def isSubjectValid (subject : List Char) : List Char × Bool :=
  if isSubjectValidBasic subject then ([], true)
  else if hasPrefix subject "oauth2:client:".toList then
    (trimPrefix subject "oauth2:client:".toList, true)
  else ([], false)

def isSubjectValidOAuth20 (config : Configuration) (id : List Char) : Bool :=
  match config.oidc with
  | none => false
  | some oidc => if oidc.clients.isEmpty then false else oidc.clients.any (· == id)

/-! ### The checks of one rule -/

/-- `validateDomains`. The warning reads bytes `0` and `1`; the first is `*`, a single byte, so the
second byte is the period exactly when the second rune is. -/
def validateDomains (rulePosition : Nat) (rule : AccessControlRule) (v : StructValidator) :
    StructValidator :=
  let v := if rule.domains.length + rule.domainsRegex.length = 0 then
      v.push (sprintf errFmtAccessControlRuleNoDomains [ruleDescriptor rulePosition rule])
    else v
  rule.domains.zipIdx.foldl
    (fun (v : StructValidator) (di : List Char × Nat) =>
      match di.1 with
      | '*' :: c :: rest =>
        if c ≠ '.' then
          v.pushWarning (sprintf ("access_control: rule #%d: domain #%d: domain '%s' is " ++
              "ineffective and should probably be '%s' instead").toList
            [itoa rulePosition, itoa (di.2 + 1), di.1, sprintf "*.%s".toList [c :: rest]])
        else v
      | _ => v)
    v

def validatePolicy (rulePosition : Nat) (rule : AccessControlRule) (v : StructValidator) :
    StructValidator :=
  if rule.policy.isEmpty then
    v.push (sprintf errFmtAccessControlRuleNoPolicy [ruleDescriptor rulePosition rule])
  else if !isPolicyValid rule.policy then
    v.push (sprintf errFmtAccessControlRuleInvalidPolicy
      [ruleDescriptor rulePosition rule, stringJoinOr validACLRulePolicies, rule.policy])
  else v

def validateSubjects (rulePosition : Nat) (rule : AccessControlRule) (config : Configuration)
    (v : StructValidator) : StructValidator :=
  rule.subjects.foldl
    (fun v subjectRule => subjectRule.foldl
      (fun (v : StructValidator) subject =>
        let (id, isValid) := isSubjectValid subject
        if !isValid then
          v.push (sprintf errFmtAccessControlRuleSubjectInvalid
            [ruleDescriptor rulePosition rule, subject])
        else if !id.isEmpty && !isSubjectValidOAuth20 config id then
          v.push (sprintf errFmtAccessControlRuleOAuth2ClientSubjectInvalid
            [ruleDescriptor rulePosition rule, subject, id])
        else v)
      v)
    v

def validateMethods (rulePosition : Nat) (rule : AccessControlRule) (v : StructValidator) :
    StructValidator :=
  let (invalid, duplicates) := validateList rule.methods validACLHTTPMethodVerbs true
  let v := if invalid.isEmpty then v
    else v.push (sprintf errFmtAccessControlRuleInvalidEntries
      [ruleDescriptor rulePosition rule, "methods".toList, stringJoinOr validACLHTTPMethodVerbs,
        stringJoinAnd invalid])
  if duplicates.isEmpty then v
  else v.push (sprintf errFmtAccessControlRuleInvalidDuplicates
    [ruleDescriptor rulePosition rule, "methods".toList, stringJoinAnd duplicates])

section Query
variable (F : CaseFolding) (compile : List Char → Except (List Char) Regexp)

/-- The first statement of the loop body of `validateQuery`: an empty operator gets its default
(`case "", nil`: `present` for an absent or empty value, `equal` for any other) when a key is
set, and a given operator must be one of the known ones up to case. -/
def validateQueryOperator (desc : List Char) (q : AccessControlRuleQuery) (v : StructValidator) :
    AccessControlRuleQuery × StructValidator :=
  if q.operator.isEmpty then
    if !q.key.isEmpty then
      ({ q with
          operator := match q.value with
            | .none => operatorPresent
            | .str s => if s.isEmpty then operatorPresent else operatorEqual
            | _ => operatorEqual }, v)
    else (q, v)
  else if !isStringInSliceFold F q.operator validACLRuleOperators then
    (q, v.push (sprintf errFmtAccessControlRuleQueryInvalid
      [desc, stringJoinOr validACLRuleOperators, q.operator]))
  else (q, v)

/-- The type switch on the value in the loop body of `validateQuery`, reached with a non-empty
operator; a pattern that compiles is written back in place of its text. -/
def validateQueryValue (desc : List Char) (q : AccessControlRuleQuery) (v : StructValidator) :
    AccessControlRuleQuery × StructValidator :=
  let op := q.operator
  match q.value with
  | .none =>
    (q, if op ≠ operatorAbsent ∧ op ≠ operatorPresent then
        v.push (sprintf errFmtAccessControlRuleQueryInvalidNoValueOperator [desc, "value".toList, op])
      else v)
  | .str s =>
    if op = operatorPresent ∨ op = operatorAbsent then
      (q, if !s.isEmpty then
          v.push (sprintf errFmtAccessControlRuleQueryInvalidValue [desc, "value".toList, op])
        else v)
    else if op = operatorPattern ∨ op = operatorNotPattern then
      match compile s with
      | .error err =>
        (q, v.push (sprintf errFmtAccessControlRuleQueryInvalidValueParse
          [desc, "value".toList, err]))
      | .ok pattern => ({ q with value := .pattern pattern }, v)
    else (q, v)
  | .pattern _ =>
    (q, v.push (sprintf errFmtAccessControlRuleQueryInvalidValueType
      [desc, "*regexp.Regexp".toList]))
  | .other typeName =>
    (q, v.push (sprintf errFmtAccessControlRuleQueryInvalidValueType [desc, typeName]))

/-- The loop body of `validateQuery` for one criterion. `compile` is `regexp.Compile`, with its
error already printed. -/
def validateQueryRule (desc : List Char) (q : AccessControlRuleQuery) (v : StructValidator) :
    AccessControlRuleQuery × StructValidator :=
  let (q, v) := validateQueryOperator F desc q v
  let v := if q.key.isEmpty then
      v.push (sprintf errFmtAccessControlRuleQueryInvalidNoValue [desc, "key".toList])
    else v
  if q.operator.isEmpty then (q, v) else validateQueryValue compile desc q v

/-- `validateQuery`: every criterion of every conjunction, in order. -/
def validateQuery (rulePosition : Nat) (rule : AccessControlRule) (v : StructValidator) :
    List (List AccessControlRuleQuery) × StructValidator :=
  rule.query.mapAccumL
    (fun conj v => conj.mapAccumL (validateQueryRule F compile (ruleDescriptor rulePosition rule)) v)
    v

end Query

/-- `validateBypass`: a bypass rule may have no subjects and no identity group in a domain pattern;
the loop over the patterns returns after the first error. -/
def validateBypass (rulePosition : Nat) (rule : AccessControlRule) (v : StructValidator) :
    StructValidator :=
  let v := if rule.subjects.length ≠ 0 then
      v.push (sprintf errAccessControlRuleBypassPolicyInvalidWithSubjects
        [ruleDescriptor rulePosition rule])
    else v
  if rule.domainsRegex.any fun pattern =>
      isStringSliceContainsAny Authorization.identitySubexpNames pattern.subexpNames then
    v.push (sprintf errAccessControlRuleBypassPolicyInvalidWithSubjectsWithGroupDomainRegex
      [ruleDescriptor rulePosition rule])
  else v

/-! ### The validators -/

section Validate
variable (F : CaseFolding) (compile : List Char → Except (List Char) Regexp)

/-- The body of the loop of `ValidateRules` for the rule at index `i`. -/
def validateRule (config : Configuration) (i : Nat) (rule : AccessControlRule)
    (v : StructValidator) : AccessControlRule × StructValidator :=
  let rulePosition := i + 1
  let v := validateDomains rulePosition rule v
  let v := validatePolicy rulePosition rule v
  let v := validateSubjects rulePosition rule config v
  let v := validateMethods rulePosition rule v
  let (query, v) := validateQuery F compile rulePosition rule v
  ({ rule with query := query },
    if rule.policy = policyBypass then validateBypass rulePosition rule v else v)

def validateAccessControl (config : Configuration) (v : StructValidator) :
    Configuration × StructValidator :=
  let config := if config.accessControl.defaultPolicy.isEmpty then
      { config with accessControl := { config.accessControl with defaultPolicy := policyDeny } }
    else config
  (config,
    if !isPolicyValid config.accessControl.defaultPolicy then
      v.push (sprintf errFmtAccessControlDefaultPolicyValue
        [stringJoinOr validACLRulePolicies, config.accessControl.defaultPolicy])
    else v)

def validateRules (config : Configuration) (v : StructValidator) :
    Configuration × StructValidator :=
  if config.accessControl.rules.length = 0 then
    if config.accessControl.defaultPolicy ≠ policyOneFactor ∧
        config.accessControl.defaultPolicy ≠ policyTwoFactor then
      (config, v.push (sprintf errFmtAccessControlDefaultPolicyWithoutRules
        [config.accessControl.defaultPolicy]))
    else
      (config, v.pushWarning (sprintf errFmtAccessControlWarnNoRulesDefaultPolicy
        [config.accessControl.defaultPolicy]))
  else
    let (rules, v) := config.accessControl.rules.zipIdx.mapAccumL
      (fun ri v => validateRule F compile config ri.2 ri.1 v) v
    ({ config with accessControl := { config.accessControl with rules := rules } }, v)

/-- `ValidateAccessControl` then `ValidateRules`, as `ValidateConfiguration` calls them. -/
def validateAccessControlRules (config : Configuration) (v : StructValidator) :
    Configuration × StructValidator :=
  let (config, v) := validateAccessControl config v
  validateRules F compile config v

end Validate

/-! ### Pushes only add -/

section Extends
open StructValidator

theorem extends_foldl {α : Type} {f : StructValidator → α → StructValidator}
    (hf : ∀ (v : StructValidator) a, v.Extends (f v a)) (l : List α) (v : StructValidator) :
    v.Extends (l.foldl f v) :=
  List.rel_foldl_of_step Extends.refl (fun _ _ _ => Extends.trans) hf l v

theorem extends_mapAccumL {α β : Type} {f : α → StructValidator → β × StructValidator}
    (hf : ∀ a (v : StructValidator), v.Extends (f a v).2) (l : List α) (v : StructValidator) :
    v.Extends (l.mapAccumL f v).2 :=
  List.rel_mapAccumL Extends.refl (fun _ _ _ => Extends.trans) hf l v

theorem validateDomains_extends (rulePosition : Nat) (rule : AccessControlRule)
    (v : StructValidator) : v.Extends (validateDomains rulePosition rule v) := by
  dsimp only [validateDomains]
  refine Extends.trans ?_ (extends_foldl (fun w di => ?_) _ _)
  · split
    · exact extends_push _ _
    · exact Extends.refl _
  · split
    · split
      · exact extends_pushWarning _ _
      · exact Extends.refl _
    · exact Extends.refl _

theorem validatePolicy_extends (rulePosition : Nat) (rule : AccessControlRule)
    (v : StructValidator) : v.Extends (validatePolicy rulePosition rule v) := by
  unfold validatePolicy
  split
  · exact extends_push _ _
  · split
    · exact extends_push _ _
    · exact Extends.refl _

theorem validateSubjects_extends (rulePosition : Nat) (rule : AccessControlRule)
    (config : Configuration) (v : StructValidator) :
    v.Extends (validateSubjects rulePosition rule config v) := by
  unfold validateSubjects
  refine extends_foldl (fun w subjectRule => extends_foldl (fun w' subject => ?_) _ _) _ _
  split
  split
  · exact extends_push _ _
  · split
    · exact extends_push _ _
    · exact Extends.refl _

theorem extends_ite_push {c : Prop} [Decidable c] (v : StructValidator) (err : List Char) :
    v.Extends (if c then v else v.push err) := by
  split
  · exact Extends.refl v
  · exact extends_push v err

theorem extends_push_ite {c : Prop} [Decidable c] (v : StructValidator) (err : List Char) :
    v.Extends (if c then v.push err else v) := by
  split
  · exact extends_push v err
  · exact Extends.refl v

theorem validateMethods_extends (rulePosition : Nat) (rule : AccessControlRule)
    (v : StructValidator) : v.Extends (validateMethods rulePosition rule v) := by
  unfold validateMethods
  split
  exact (extends_ite_push v _).trans (extends_ite_push _ _)

section Query
variable (F : CaseFolding) (compile : List Char → Except (List Char) Regexp)

theorem validateQueryOperator_extends (desc : List Char) (q : AccessControlRuleQuery)
    (v : StructValidator) : v.Extends (validateQueryOperator F desc q v).2 := by
  unfold validateQueryOperator
  split
  · split <;> exact Extends.refl v
  · split
    · exact extends_push v _
    · exact Extends.refl v

theorem validateQueryValue_extends (desc : List Char) (q : AccessControlRuleQuery)
    (v : StructValidator) : v.Extends (validateQueryValue compile desc q v).2 := by
  unfold validateQueryValue
  dsimp only
  split
  · exact extends_push_ite v _
  · split
    · exact extends_push_ite v _
    · split
      · split
        · exact extends_push v _
        · exact Extends.refl v
      · exact Extends.refl v
  · exact extends_push v _
  · exact extends_push v _

theorem validateQueryRule_extends (desc : List Char) (q : AccessControlRuleQuery)
    (v : StructValidator) : v.Extends (validateQueryRule F compile desc q v).2 := by
  unfold validateQueryRule
  -- the operator stage, the key check, then the value stage unless the operator is still empty
  have hop := validateQueryOperator_extends F desc q v
  rcases h : validateQueryOperator F desc q v with ⟨q', w⟩
  rw [h] at hop
  dsimp only
  have hkey := hop.trans (extends_push_ite (c := q'.key.isEmpty = true) w
    (sprintf errFmtAccessControlRuleQueryInvalidNoValue [desc, "key".toList]))
  split
  · exact hkey
  · exact hkey.trans (validateQueryValue_extends compile desc _ _)

theorem validateQuery_extends (rulePosition : Nat) (rule : AccessControlRule)
    (v : StructValidator) : v.Extends (validateQuery F compile rulePosition rule v).2 :=
  extends_mapAccumL (fun conj w => extends_mapAccumL
    (fun q w' => validateQueryRule_extends F compile _ q w') conj w) rule.query v

end Query

theorem validateBypass_extends (rulePosition : Nat) (rule : AccessControlRule)
    (v : StructValidator) : v.Extends (validateBypass rulePosition rule v) := by
  unfold validateBypass
  exact (extends_push_ite v _).trans (extends_push_ite _ _)

end Extends

/-! ### What an accepted configuration satisfies -/

section Accepted
open StructValidator

theorem validateDomains_errors (rulePosition : Nat) (rule : AccessControlRule)
    (v : StructValidator) :
    (validateDomains rulePosition rule v).errors =
      (if rule.domains.length + rule.domainsRegex.length = 0 then
        v.push (sprintf errFmtAccessControlRuleNoDomains [ruleDescriptor rulePosition rule])
      else v).errors := by
  dsimp only [validateDomains]
  refine List.rel_foldl_of_step (R := fun (w w' : StructValidator) => w'.errors = w.errors) (fun _ => rfl)
    (fun _ _ _ h₁ h₂ => h₂.trans h₁) (fun w di => ?_) _ _
  split
  · split
    · exact pushWarning_errors _ _
    · rfl
  · rfl

theorem has_domains_of_validateDomains {rulePosition : Nat} {rule : AccessControlRule}
    {v : StructValidator} (h : (validateDomains rulePosition rule v).errors = []) :
    rule.domains ≠ [] ∨ rule.domainsRegex ≠ [] := by
  rw [validateDomains_errors] at h
  by_contra hnone
  rw [not_or, not_not, not_not] at hnone
  rw [if_pos (by simp [hnone.1, hnone.2])] at h
  exact push_errors_ne_nil _ _ h

theorem isPolicyValid_of_validatePolicy {rulePosition : Nat} {rule : AccessControlRule}
    {v : StructValidator} (h : (validatePolicy rulePosition rule v).errors = []) :
    isPolicyValid rule.policy = true := by
  unfold validatePolicy at h
  split at h
  · exact absurd h (push_errors_ne_nil _ _)
  · split at h
    · exact absurd h (push_errors_ne_nil _ _)
    · simpa using ‹¬(!isPolicyValid rule.policy) = true›

theorem subjects_eq_nil_of_validateBypass {rulePosition : Nat} {rule : AccessControlRule}
    {v : StructValidator} (h : (validateBypass rulePosition rule v).errors = []) :
    rule.subjects = [] := by
  unfold validateBypass at h
  dsimp only at h
  by_contra hne
  rw [if_pos (show rule.subjects.length ≠ 0 by simpa using hne)] at h
  split at h
  · exact push_errors_ne_nil _ _ h
  · exact push_errors_ne_nil _ _ h

theorem not_mem_subexpNames_of_validateBypass {rulePosition : Nat} {rule : AccessControlRule}
    {v : StructValidator} (h : (validateBypass rulePosition rule v).errors = []) :
    ∀ pattern ∈ rule.domainsRegex, ∀ name ∈ Authorization.identitySubexpNames,
      name ∉ pattern.subexpNames := by
  intro pattern hpattern name hname hmem
  unfold validateBypass at h
  have hany : (rule.domainsRegex.any fun pattern =>
      isStringSliceContainsAny Authorization.identitySubexpNames pattern.subexpNames) = true := by
    simp only [List.any_eq_true, isStringSliceContainsAny, isStringInSlice_iff]
    exact ⟨pattern, hpattern, name, hname, hmem⟩
  rw [if_pos hany] at h
  exact push_errors_ne_nil _ _ h

structure RuleAccepted (rule : AccessControlRule) : Prop where
  has_domains : rule.domains ≠ [] ∨ rule.domainsRegex ≠ []
  policy_valid : isPolicyValid rule.policy = true
  bypass_subjects : rule.policy = policyBypass → rule.subjects = []
  bypass_domainsRegex : rule.policy = policyBypass →
    ∀ pattern ∈ rule.domainsRegex, ∀ name ∈ Authorization.identitySubexpNames,
      name ∉ pattern.subexpNames

variable (F : CaseFolding) (compile : List Char → Except (List Char) Regexp)

theorem validateRule_extends (config : Configuration) (i : Nat) (rule : AccessControlRule)
    (v : StructValidator) : v.Extends (validateRule F compile config i rule v).2 := by
  unfold validateRule
  dsimp only
  have hquery := (validateDomains_extends (i + 1) rule v).trans <|
    (validatePolicy_extends (i + 1) rule _).trans <|
    (validateSubjects_extends (i + 1) rule config _).trans <|
    (validateMethods_extends (i + 1) rule _).trans (validateQuery_extends F compile (i + 1) rule _)
  rcases hq : validateQuery F compile (i + 1) rule _ with ⟨query, w⟩
  rw [hq] at hquery
  dsimp only
  split
  · exact hquery.trans (validateBypass_extends _ rule w)
  · exact hquery

theorem ruleAccepted_of_validateRule {config : Configuration} {i : Nat}
    {rule : AccessControlRule} {v : StructValidator}
    (h : (validateRule F compile config i rule v).2.errors = []) : RuleAccepted rule := by
  unfold validateRule at h
  dsimp only at h
  -- each check's validator extends into the final one, so each ended without errors
  have h4 := validateQuery_extends F compile (i + 1) rule
    (validateMethods (i + 1) rule (validateSubjects (i + 1) rule config
      (validatePolicy (i + 1) rule (validateDomains (i + 1) rule v))))
  rcases hq : validateQuery F compile (i + 1) rule _ with ⟨query, w⟩
  rw [hq] at h h4
  have hw : w.errors = [] := by
    split at h
    · exact errors_eq_nil_of_extends (validateBypass_extends _ rule w) h
    · exact h
  have h3 := errors_eq_nil_of_extends ((validateMethods_extends _ rule _).trans h4) hw
  have h2 := errors_eq_nil_of_extends (validateSubjects_extends _ rule config _) h3
  have h1 := errors_eq_nil_of_extends (validatePolicy_extends _ rule _) h2
  refine ⟨has_domains_of_validateDomains h1, isPolicyValid_of_validatePolicy h2, ?_, ?_⟩
  · intro hbypass
    rw [if_pos hbypass] at h
    exact subjects_eq_nil_of_validateBypass h
  · intro hbypass
    rw [if_pos hbypass] at h
    exact not_mem_subexpNames_of_validateBypass h

def exampleOneFactorRule : AccessControlRule :=
  { domains := ["*.example.com".toList], policy := policyOneFactor }

def exampleOneFactorConfiguration : Configuration :=
  { accessControl := ⟨policyDeny, [exampleOneFactorRule]⟩ }

end Accepted

end Authelia.Validator
