import Authelia.Authorization.Authorizer
import Authelia.Utils.Url
import Authelia.Validator.Session

/-! Where the portal sends a user after a factor (`handlers/response.go`), and the object the
access control rules are asked about (`authorization.NewObject`). The rules see the target's path
cleaned, so a path that climbs out of a directory is judged where it lands. -/

namespace Authelia.Authorization
open Go

/-- `NewObject`; `URL.Query()`, the parsing of the raw query, is given as `query`. -/
def newObject (query : List Char → List (List Char × List Char)) (targetURL : URL)
    (method : List Char) : Object :=
  { domain := targetURL.hostname, path := Utils.urlPathFullClean targetURL, method := method,
    query := query targetURL.rawQuery }

/-- The `mfa` flag `NewAuthorizer` sets: a two factor default policy or rule, or, from the
OpenID Connect configuration, `isOpenIDConnectMFA`. -/
def Authorizer.isSecondFactorEnabled (p : Authorizer) (openIDConnectMFA : Bool) : Bool :=
  p.defaultPolicy == .twoFactor || p.rules.any (fun rule => rule.policy == .twoFactor) ||
    openIDConnectMFA

/-- The rules are asked about a URL exactly as about the URL whose path is already cleaned: a
rooted path reaches them rooted and without `.` or `..` elements, and cleaning it again changes
nothing. -/
theorem newObject_path_canonical (query : List Char → List (List Char × List Char)) (u : URL)
    (method : List Char) (hrooted : u.path.head? = some '/') :
    (newObject query u method).path =
        Utils.fullCleanPath u.path ++ Utils.fullCleanQuery u.rawQuery ∧
      (Utils.fullCleanPath u.path).head? = some '/' ∧
      (∀ e ∈ Path.elements (Utils.fullCleanPath u.path), Path.Element e ∧ e ≠ Path.dotDot) ∧
      newObject query { u with path := Utils.fullCleanPath u.path } method = newObject query u method := by
  obtain ⟨hhead, helems⟩ := Utils.fullCleanPath_of_rooted hrooted
  refine ⟨Utils.urlPathFullClean_eq u, hhead, helems, ?_⟩
  -- only the path changes, and the cleaned path cleans to itself
  simp only [newObject, Utils.urlPathFullClean_fullCleanPath]
  rfl

def climbingTarget : URL :=
  { scheme := "https".toList, host := "app.example.com".toList, path := "/public/../admin".toList }

theorem newObject_path_canonical_climbingTarget :
    climbingTarget.path.head? = some '/' ∧
      ((newObject (fun _ => []) climbingTarget "GET".toList).path =
          Utils.fullCleanPath climbingTarget.path ++ Utils.fullCleanQuery climbingTarget.rawQuery ∧
        (Utils.fullCleanPath climbingTarget.path).head? = some '/' ∧
        (∀ e ∈ Path.elements (Utils.fullCleanPath climbingTarget.path), Path.Element e ∧ e ≠ Path.dotDot) ∧
        newObject (fun _ => []) { climbingTarget with path := Utils.fullCleanPath climbingTarget.path }
            "GET".toList = newObject (fun _ => []) climbingTarget "GET".toList) :=
  ⟨rfl, newObject_path_canonical (fun _ => []) climbingTarget "GET".toList rfl⟩

example : (newObject (fun _ => []) climbingTarget "GET".toList).path = "/admin".toList := by
  simp [newObject, climbingTarget, Utils.urlPathFullClean, Path.clean, Path.cleanLoop,
    Path.copyElement, Path.separate, Path.dotDotElement, Path.backtrack, Path.elementEnds]

end Authelia.Authorization

namespace Authelia.Handlers
open Go Utils Validator

inductive ReplyBody
  | ok
  | redirect (uri : List Char)
  | error (message : List Char)
  deriving DecidableEq, Repr

def messageAuthenticationFailed : List Char := "Authentication failed. Check your credentials.".toList
def messageMFAValidationFailed : List Char := "Authentication failed, please retry later.".toList

structure ResponseCtx where
  cookies : List SessionCookie
  defaultRedirectionURL : Option URL
  authorizer : Authorization.Authorizer
  openIDConnectMFA : Bool
  remoteIP : List UInt8

section Redirection
variable (F : CaseFolding) (parseRequestURI : List Char → Option URL)
  (query : List Char → List (List Char × List Char))

/-- `IsSafeRedirectionTargetURI`: a secure URL within the scope of a session cookie domain. -/
def isSafeRedirectionTargetURI (cookies : List SessionCookie) : Option URL → Bool
  | none => false
  | some targetURI => isURISecure targetURI && getCookieDomainFromTargetURI F cookies (some targetURI) != []

/-- The answer of `Handle1FAResponse` when it does not follow the target: the default redirection
URL when there is one and no second factor is configured, else OK. -/
def defaultResponse1FA (ctx : ResponseCtx) : ReplyBody :=
  match ctx.defaultRedirectionURL with
  | some u => if !ctx.authorizer.isSecondFactorEnabled ctx.openIDConnectMFA then .redirect u.string else .ok
  | none => .ok

/-- `Handle1FAResponse`; `none` when a matcher of the rules panics. -/
def handle1FAResponse (ctx : ResponseCtx) (targetURI requestMethod username : List Char)
    (groups : List (List Char)) : Option ReplyBody :=
  if targetURI.isEmpty then some (defaultResponse1FA ctx)
  else
    match parseRequestURI targetURI with
    | none => some (.error messageAuthenticationFailed)
    | some targetURL =>
      (ctx.authorizer.getRequiredLevel F { username := username, groups := groups, ip := ctx.remoteIP }
          (Authorization.newObject query targetURL requestMethod)).map fun (_, requiredLevel) =>
        if requiredLevel = .twoFactor then .ok
        else if !isSafeRedirectionTargetURI F ctx.cookies (some targetURL) then defaultResponse1FA ctx
        else .redirect targetURI

def handle2FAResponse (ctx : ResponseCtx) (targetURI : List Char) : ReplyBody :=
  if targetURI.isEmpty then
    match ctx.defaultRedirectionURL with
    | none => .ok
    | some u => .redirect u.string
  else
    match parseRequestURI targetURI with
    | none => .error messageMFAValidationFailed
    | some parsedURI =>
      if isSafeRedirectionTargetURI F ctx.cookies (some parsedURI) then .redirect targetURI else .ok

def handlePasskeyResponse (ctx : ResponseCtx) (targetURI requestMethod username : List Char)
    (groups : List (List Char)) (isTwoFactor : Bool) : Option ReplyBody :=
  if isTwoFactor then some (handle2FAResponse F parseRequestURI ctx targetURI)
  else handle1FAResponse F parseRequestURI query ctx targetURI requestMethod username groups

def appTarget : URL := { scheme := "https".toList, host := "app.example.com".toList, path := "/".toList }

end Redirection

end Authelia.Handlers
