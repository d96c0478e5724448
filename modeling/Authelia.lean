import Authelia.Go.Strings
import Authelia.Go.Regexp
import Authelia.Go.Net
import Authelia.Utils.Strings
import Authelia.Schema.AccessControl
import Authelia.Authorization.Matchers
import Authelia.Lib.FirstMatch
import Authelia.Authorization.Rule
import Authelia.Authorization.Authorizer
import Authelia.Authorization.Safety
import Authelia.Lib.MapAccum
import Authelia.Validator.AccessControl
import Authelia.Authorization.Identity
import Authelia.Handlers.Authz
import Authelia.Lib.Interleaving
import Authelia.Storage.SingleUse
import Authelia.Storage.Regulation
import Authelia.Regulation.Regulator
import Authelia.Handlers.Password
import Authelia.Lib.Passes
import Authelia.Storage.Encryption
import Authelia.Storage.Migration
import Authelia.Go.Url
import Authelia.Validator.Session
import Authelia.Go.Replace
import Authelia.Lib.Template
import Authelia.Authentication.LdapFilter
import Authelia.Lib.Transcript
import Authelia.Authentication.CredentialCache
import Authelia.Utils.Delimited
import Authelia.Go.Time
import Authelia.Utils.Time
import Authelia.Configuration.DecodeHooks
import Authelia.Middlewares.Cors
import Authelia.Lib.EraseDups
import Authelia.Authorization.Amr
import Authelia.Lib.Words
import Authelia.Random.Util
import Authelia.Ntp.Util
import Authelia.Authentication.FileUserDatabase
import Authelia.Regulation.Run
import Authelia.Session.UserSession
import Authelia.Handlers.AuthzSession
import Authelia.Go.Path
import Authelia.Utils.Url
import Authelia.Handlers.Response
import Authelia.Handlers.AuthzHandler
import Authelia.Validator.Totp
import Authelia.Handlers.SignTotp
import Authelia.Handlers.RegisterTotp
