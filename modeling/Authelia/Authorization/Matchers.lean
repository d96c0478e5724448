import Authelia.Utils.Strings
import Authelia.Schema.AccessControl

/-! The criteria an access control rule is made of (`types.go`, `access_control_domain.go`,
`regexp.go`, `access_control_resource.go`, `access_control_subjects.go`, `access_control_query.go`)
and the constructors that build them from the schema. A matcher reads the subject and the object;
only the `{group}` domain matcher can panic, when it slices a domain that has no period, and it
returns `none` then. -/

namespace Authelia.Authorization
open Go Utils

/-- `Level`, in the order of the `iota` constants. -/
inductive Level
  | bypass
  | oneFactor
  | twoFactor
  | denied
  deriving DecidableEq, Repr

/-- `NewLevel`: `deny` and every unknown policy are `Denied`. -/
def newLevel (policy : List Char) : Level :=
  if policy = "bypass".toList then .bypass
  else if policy = "one_factor".toList then .oneFactor
  else if policy = "two_factor".toList then .twoFactor
  else .denied

/-- `Subject`; `ip` is the `net.IP` byte slice. -/
structure Subject where
  username : List Char := []
  groups : List (List Char) := []
  clientID : List Char := []
  ip : List UInt8 := []
  deriving DecidableEq, Repr

def Subject.isAnonymous (s : Subject) : Bool :=
  s.username.isEmpty && s.groups.isEmpty && s.clientID.isEmpty

/-- `Object`. The query pairs are `URL.Query()` in the order they appear in the URL. -/
structure Object where
  domain : List Char
  path : List Char := []
  method : List Char := []
  query : List (List Char × List Char) := []
  deriving DecidableEq, Repr

/-- `url.Values.Get`: the first value of the key, or the empty string. -/
def Object.queryGet (o : Object) (key : List Char) : List Char :=
  ((o.query.find? fun kv => kv.1 == key).map Prod.snd).getD []

def Object.queryHas (o : Object) (key : List Char) : Bool :=
  o.query.any fun kv => kv.1 == key

/-! ### String matchers for domains and resources -/

structure AccessControlDomainMatcher where
  name : List Char
  wildcard : Bool := false
  userWildcard : Bool := false
  groupWildcard : Bool := false

/-- `RegexpGroupStringSubjectMatcher`; an index of `-1` marks a named group the pattern lacks. -/
structure RegexpGroupStringSubjectMatcher where
  pattern : Regexp
  subexpNameUser : Int
  subexpNameGroup : Int

structure RegexpStringSubjectMatcher where
  pattern : Regexp

inductive StringSubjectMatcher
  | domain (m : AccessControlDomainMatcher)
  | regexpGroup (m : RegexpGroupStringSubjectMatcher)
  | regexp (m : RegexpStringSubjectMatcher)

section CaseFolding
variable (F : CaseFolding)

def AccessControlDomainMatcher.isMatch (m : AccessControlDomainMatcher) (domain : List Char)
    (subject : Subject) : Option Bool :=
  if m.wildcard then some (stringHasSuffixFold F domain m.name)
  else if m.userWildcard then
    if subject.isAnonymous && stringHasSuffixFold F domain m.name then
      some (decide (String.utf8Len m.name < String.utf8Len domain))
    else some (domain == subject.username ++ m.name)
  else if m.groupWildcard then
    if subject.isAnonymous && stringHasSuffixFold F domain m.name then
      some (decide (String.utf8Len m.name < String.utf8Len domain))
    else
      -- `domain[i:]` is evaluated first and panics for `i = -1`; `&&` reads `domain[:i]` only when
      -- the rest of the domain is the suffix
      let i := index domain ['.']
      (sliceFrom domain i).bind fun rest =>
        if rest == m.name then
          (sliceTo domain i).map fun head => isStringInSliceFold F head subject.groups
        else some false
  else some (equalFold F domain m.name)

def RegexpGroupStringSubjectMatcher.isMatch (r : RegexpGroupStringSubjectMatcher)
    (input : List Char) (subject : Subject) : Option Bool :=
  match r.pattern.findStringSubmatch input with
  | none => some false
  | some sub =>
    if subject.isAnonymous then some true
    else do
      let userOk ← if r.subexpNameUser ≠ -1 then
          (elemAt sub r.subexpNameUser).map (equalFold F subject.username)
        else pure true
      if !userOk then pure false
      else if r.subexpNameGroup ≠ -1 then
        (elemAt sub r.subexpNameGroup).map fun g => isStringInSliceFold F g subject.groups
      else pure true

/-- `RegexpStringSubjectMatcher.IsMatch`, which ignores the subject. -/
def RegexpStringSubjectMatcher.isMatch (r : RegexpStringSubjectMatcher) (input : List Char)
    (_subject : Subject) : Option Bool :=
  some (r.pattern.matchString input)

def StringSubjectMatcher.isMatch : StringSubjectMatcher → List Char → Subject → Option Bool
  | .domain m, input, subject => m.isMatch F input subject
  | .regexpGroup m, input, subject => m.isMatch F input subject
  | .regexp m, input, subject => m.isMatch input subject

end CaseFolding

/-- `AccessControlDomain`: a string matcher applied to the object's domain. -/
structure AccessControlDomain where
  matcher : StringSubjectMatcher

/-- `AccessControlResource`: a string matcher applied to the object's path. -/
structure AccessControlResource where
  matcher : StringSubjectMatcher

def AccessControlDomain.isMatch (F : CaseFolding) (acl : AccessControlDomain) (subject : Subject)
    (object : Object) : Option Bool :=
  acl.matcher.isMatch F object.domain subject

def AccessControlResource.isMatch (F : CaseFolding) (acl : AccessControlResource)
    (subject : Subject) (object : Object) : Option Bool :=
  acl.matcher.isMatch F object.path subject

/-- `NewAccessControlDomain`: the domain is lowercased, then its prefix picks the matcher kind.
The flag says whether the matcher depends on the identity. -/
def newAccessControlDomain (F : CaseFolding) (domain : List Char) : Bool × AccessControlDomain :=
  let domain := toLower F domain
  let m : AccessControlDomainMatcher :=
    if hasPrefix domain "*.".toList then { name := domain.drop 1, wildcard := true }
    else if hasPrefix domain "{user}".toList then { name := domain.drop 6, userWildcard := true }
    else if hasPrefix domain "{group}".toList then { name := domain.drop 7, groupWildcard := true }
    else { name := domain }
  (m.userWildcard || m.groupWildcard, ⟨.domain m⟩)

def subexpNameUser : List Char := "User".toList

def subexpNameGroup : List Char := "Group".toList

def identitySubexpNames : List (List Char) := [subexpNameUser, subexpNameGroup]

def subexpIndices : Nat → List (List Char) → Int × Int → Int × Int
  | _, [], acc => acc
  | i, g :: gs, (iuser, igroup) =>
    subexpIndices (i + 1) gs
      (if g = subexpNameUser then (i, igroup)
       else if g = subexpNameGroup then (iuser, i) else (iuser, igroup))

/-- The body shared by `NewAccessControlDomainRegex` and `NewAccessControlResource`: a pattern with
a `User` or `Group` group becomes an identity-dependent matcher. -/
def newRegexpSubjectMatcher (pattern : Regexp) : Bool × StringSubjectMatcher :=
  let (iuser, igroup) := subexpIndices 0 pattern.subexpNames (-1, -1)
  if iuser ≠ -1 ∨ igroup ≠ -1 then (true, .regexpGroup ⟨pattern, iuser, igroup⟩)
  else (false, .regexp ⟨pattern⟩)

def newAccessControlDomainRegex (pattern : Regexp) : Bool × AccessControlDomain :=
  ((newRegexpSubjectMatcher pattern).1, ⟨(newRegexpSubjectMatcher pattern).2⟩)

def newAccessControlResource (pattern : Regexp) : Bool × AccessControlResource :=
  ((newRegexpSubjectMatcher pattern).1, ⟨(newRegexpSubjectMatcher pattern).2⟩)

/-! ### Subjects -/

inductive SubjectMatcher
  | user (name : List Char)
  | group (name : List Char)
  | client (provider id : List Char)

def SubjectMatcher.isMatch : SubjectMatcher → Subject → Bool
  | .user name, s => s.username == name
  | .group name, s => isStringInSlice name s.groups
  | .client _ id, s => id == s.clientID

/-- `AccessControlSubjects`: one conjunction of subject criteria. -/
structure AccessControlSubjects where
  subjects : List SubjectMatcher

def AccessControlSubjects.isMatch (acs : AccessControlSubjects) (subject : Subject) : Bool :=
  acs.subjects.all fun rule => rule.isMatch subject

/-- `schemaSubjectToACLSubject`; a subject with an unknown prefix gives `nil`. -/
def schemaSubjectToACLSubject (subjectRule : List Char) : Option SubjectMatcher :=
  if hasPrefix subjectRule "user:".toList then some (.user (trim (subjectRule.drop 5) [' ']))
  else if hasPrefix subjectRule "group:".toList then some (.group (trim (subjectRule.drop 6) [' ']))
  else if hasPrefix subjectRule "oauth2:client:".toList then
    some (.client "OAuth2".toList (trim (subjectRule.drop 14) [' ']))
  else none

/-- `schemaSubjectsToACL`: `AddSubject` keeps the recognised subjects, and a conjunction with none
is dropped. -/
def schemaSubjectsToACL (subjectRules : List (List (List Char))) : List AccessControlSubjects :=
  subjectRules.filterMap fun subjectRule =>
    let subject : AccessControlSubjects := ⟨subjectRule.filterMap schemaSubjectToACLSubject⟩
    if subject.subjects.isEmpty then none else some subject

/-! ### Query, methods and networks -/

inductive ObjectMatcher
  | present (key : List Char) (isPresent : Bool)
  | equal (key value : List Char) (isEqual : Bool)
  | pattern (key : List Char) (pattern : Regexp) (isMatch : Bool)

def ObjectMatcher.isMatch : ObjectMatcher → Object → Bool
  | .present key isPresent, o => if isPresent then o.queryHas key else !o.queryHas key
  | .equal key value isEqual, o =>
    if isEqual then o.queryGet key == value else o.queryGet key != value
  | .pattern key r isMatch, o =>
    if isMatch then r.matchString (o.queryGet key) else !r.matchString (o.queryGet key)

/-- `NewAccessControlQueryObjectMatcher`; `none` is the returned error. -/
def newAccessControlQueryObjectMatcher (rule : Schema.AccessControlRuleQuery) :
    Option ObjectMatcher :=
  if rule.operator = "present".toList ∨ rule.operator = "absent".toList then
    some (.present rule.key (rule.operator = "present".toList))
  else if rule.operator = "equal".toList ∨ rule.operator = "not equal".toList then
    match rule.value with
    | .str value => some (.equal rule.key value (rule.operator = "equal".toList))
    | _ => none
  else if rule.operator = "pattern".toList ∨ rule.operator = "not pattern".toList then
    match rule.value with
    | .pattern pattern => some (.pattern rule.key pattern (rule.operator = "pattern".toList))
    | _ => none
  else none

structure AccessControlQuery where
  rules : List ObjectMatcher

def AccessControlQuery.isMatch (acq : AccessControlQuery) (object : Object) : Bool :=
  acq.rules.all fun rule => rule.isMatch object

/-- `NewAccessControlQuery`: criteria that fail to build are skipped. -/
def newAccessControlQuery (config : List (List Schema.AccessControlRuleQuery)) :
    List AccessControlQuery :=
  config.map fun conj => ⟨conj.filterMap newAccessControlQueryObjectMatcher⟩

def networksIsMatch (networks : List IPNet) (subject : Subject) : Bool :=
  networks.isEmpty || networks.any fun network => network.contains subject.ip

def schemaMethodsToACL (F : CaseFolding) (methodRules : List (List Char)) : List (List Char) :=
  methodRules.map (toUpper F)

end Authelia.Authorization
