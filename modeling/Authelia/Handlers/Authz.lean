import Authelia.Authorization.Authorizer
import Authelia.Authorization.Identity
import Authelia.Validator.AccessControl

/-! The authorization decision of the authz endpoints (`handler_authz_util.go`). The handler asks
the authorizer for the level a request requires and compares it with the level the requester has
reached; an anonymous requester is told apart from one that is refused outright only by whether the
matched rule depends on the identity. -/

namespace Authelia

namespace Authentication

/-- `authentication.Level`, in the order of the `iota` constants. -/
inductive Level
  | notAuthenticated
  | oneFactor
  | twoFactor
  deriving DecidableEq, Repr

def Level.toNat : Level → Nat
  | .notAuthenticated => 0
  | .oneFactor => 1
  | .twoFactor => 2

end Authentication

namespace Handlers
open Go Utils Authorization

inductive AuthzResult
  | forbidden
  | unauthorized
  | authorized
  deriving DecidableEq, Repr

def isAuthzResult (level : Authentication.Level) (required : Authorization.Level)
    (ruleHasSubject : Bool) : AuthzResult :=
  if required = .bypass then .authorized
  else if required = .denied ∧ (level ≠ .notAuthenticated ∨ !ruleHasSubject) then .forbidden
  else if (required = .oneFactor ∧ Authentication.Level.oneFactor.toNat ≤ level.toNat) ∨
      (required = .twoFactor ∧ Authentication.Level.twoFactor.toNat ≤ level.toNat) then
    .authorized
  else .unauthorized

/-! ### A `{user}` bypass rule -/

def userBypassRule : Schema.AccessControlRule :=
  { domains := ["{user}.example.com".toList], policy := "bypass".toList }

def userBypassConfiguration : Schema.Configuration :=
  { accessControl := ⟨"deny".toList, [userBypassRule]⟩ }

variable (F : CaseFolding)

theorem newAuthorizer_userBypassConfiguration :
    newAuthorizer F userBypassConfiguration.accessControl =
      ⟨.denied, [userWildcardACLRule 1 .bypass]⟩ := by
  simp only [newAuthorizer, newAccessControlRules, userBypassConfiguration, List.mapIdx_cons,
    List.mapIdx_nil, userBypassRule, newAccessControlRule_userWildcard]
  rfl

theorem userBypassConfiguration_anonymous_authorized_identity_denied :
    ∀ (F : CaseFolding) (compile : List Char → Except (List Char) Regexp) (ip : List UInt8),
      Validator.validateAccessControlRules F compile userBypassConfiguration {} =
          (userBypassConfiguration, {}) ∧
        ((newAuthorizer F userBypassConfiguration.accessControl).getRequiredLevel F { ip := ip }
            { domain := "john.example.com".toList }).map
          (fun r => isAuthzResult .notAuthenticated r.2 r.1) = some .authorized ∧
        (newAuthorizer F userBypassConfiguration.accessControl).getRequiredLevel F
            { username := "bob".toList, ip := ip } { domain := "john.example.com".toList } =
          some (false, .denied) := by
  intro F compile ip
  refine ⟨rfl, ?_, ?_⟩
  all_goals
    rw [newAuthorizer_userBypassConfiguration]
    simp only [Authorizer.getRequiredLevel, List.findM?, userWildcardACLRule_isMatch]
  · -- the anonymous subject needs only some name in front of the suffix
    rw [AccessControlDomainMatcher.isMatch_userWildcard_anonymous F rfl rfl _ rfl,
      show userWildcardMatcher.name = ".example.com".toList from rfl,
      show "john.example.com".toList = "john".toList ++ ".example.com".toList by decide,
      stringHasSuffixFold_append, Bool.true_and]
    decide
  · -- `bob` is not the name in front of the suffix, so no rule matches
    rw [AccessControlDomainMatcher.isMatch_userWildcard F rfl rfl _ rfl,
      show ("john.example.com".toList == "bob".toList ++ userWildcardMatcher.name) = false by
        decide]
    rfl

end Handlers

end Authelia
