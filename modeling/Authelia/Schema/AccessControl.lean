import Authelia.Go.Regexp
import Authelia.Go.Net

/-! The `schema` types of the `access_control` section as the configuration decoder hands them to
the validator and to `NewAccessControlRules`: the patterns are compiled and the networks parsed. -/

namespace Authelia.Schema
open Go

/-- The `value` of a query criterion after decoding: absent (`nil`), a string, a pattern the
validator has compiled, or any other YAML value, known by the name `%T` prints for its type. -/
inductive QueryValue
  | none
  | str (s : List Char)
  | pattern (r : Regexp)
  | other (typeName : List Char)

structure AccessControlRuleQuery where
  operator : List Char
  key : List Char
  value : QueryValue

structure AccessControlRule where
  domains : List (List Char) := []
  domainsRegex : List Regexp := []
  policy : List Char := []
  subjects : List (List (List Char)) := []
  networks : List IPNet := []
  resources : List Regexp := []
  methods : List (List Char) := []
  query : List (List AccessControlRuleQuery) := []

/-- `schema.AccessControl`; the named network groups are already resolved into the rules. -/
structure AccessControl where
  defaultPolicy : List Char
  rules : List AccessControlRule

/-- `schema.IdentityProvidersOpenIDConnect`, of which the access control validator reads the
registered client ids. -/
structure IdentityProvidersOpenIDConnect where
  clients : List (List Char)

/-- `schema.Configuration`, with the sections the modelled validators read. `oidc` is `nil` when
the OpenID Connect provider is not configured. -/
structure Configuration where
  accessControl : AccessControl
  oidc : Option IdentityProvidersOpenIDConnect := none

end Authelia.Schema
