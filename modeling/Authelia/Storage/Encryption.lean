import Authelia.Go.Strings
import Authelia.Lib.Passes

/-! Encrypted storage values and the change of their key (`encryption_aad.go`,
`sql_provider_encryption.go`). AES-GCM is taken at its contract: a value opens only under the AAD
and the key it was sealed with, and then gives back its plaintext, so a ciphertext is modelled by
the three. The keys are the two derivations of the configured `storage.encryption_key`. -/

namespace Authelia.Utils

inductive DerivedKey
  | legacy
  | hkdf
  deriving DecidableEq, Repr

structure Sealed (α : Type) where
  plaintext : α
  aad : List Char
  key : DerivedKey
  deriving DecidableEq, Repr

def encrypt {α : Type} (m : α) (aad : List Char) (key : DerivedKey) : Sealed α := ⟨m, aad, key⟩

def decrypt {α : Type} (c : Sealed α) (aad : List Char) (key : DerivedKey) : Option α :=
  if c.aad = aad ∧ c.key = key then some c.plaintext else none

@[simp] theorem decrypt_encrypt {α : Type} (m : α) (a a' : List Char) (k k' : DerivedKey) :
    decrypt (encrypt m a k) a' k' = if a = a' ∧ k = k' then some m else none := rfl

end Authelia.Utils

namespace Authelia.Storage
open Utils

def tableCachedData : List Char := "cached_data".toList
def tableOneTimeCode : List Char := "one_time_code".toList
def tableTOTPConfigurations : List Char := "totp_configurations".toList
def tableWebAuthnCredentials : List Char := "webauthn_credentials".toList
def tableOAuth2AccessTokenSession : List Char := "oauth2_access_token_session".toList
def tableOAuth2AuthorizeCodeSession : List Char := "oauth2_authorization_code_session".toList
def tableOAuth2DeviceCodeSession : List Char := "oauth2_device_code_session".toList
def tableOAuth2OpenIDConnectSession : List Char := "oauth2_openid_connect_session".toList
def tableOAuth2PARContext : List Char := "oauth2_par_context".toList
def tableOAuth2PKCERequestSession : List Char := "oauth2_pkce_request_session".toList
def tableOAuth2RefreshTokenSession : List Char := "oauth2_refresh_token_session".toList
def tableEncryption : List Char := "encryption".toList
def tableAADPushedAuthorizationRequestSession : List Char :=
  "oauth2_pushed_authorization_session".toList
def columnSessionData : List Char := "session_data".toList
def columnValue : List Char := "value".toList
def columnCode : List Char := "code".toList
def columnSecret : List Char := "secret".toList
def encryptionNameCheck : List Char := "check".toList

/-! ## AAD schemes -/

inductive EncryptionAAD
  | none
  | column
  | row
  deriving DecidableEq, Repr

namespace EncryptionAAD

/-- `Get(table, column, row)`; the `nil` of `aadNone` is the empty AAD, as GCM reads it. -/
def get : EncryptionAAD → (table column row : List Char) → List Char
  | none, _, _, _ => []
  | column, table, col, _ => Go.sprintf "authelia:storage:%s:%s".toList [table, col]
  | row, table, col, r => Go.sprintf "authelia:storage:%s:%s:%s".toList [table, col, r]

/-- `GetIssuer(table, column, row, issuer)`; schema 25 wrote the issuer before the column. -/
def getIssuer : EncryptionAAD → (table column row issuer : List Char) → List Char
  | none, _, _, _, _ => []
  | column, table, col, _, issuer => Go.sprintf "authelia:storage:%s:%s:%s".toList [table, issuer, col]
  | row, table, col, r, issuer =>
    Go.sprintf "authelia:storage:%s:%s:%s:%s".toList [table, col, r, issuer]

end EncryptionAAD

def schemaVersionEncryptionKeyDerivation : Nat := 25
def schemaVersionEncryptionAADRowScoped : Nat := 26

def aadForSchemaVersion (version : Nat) : EncryptionAAD :=
  if version < schemaVersionEncryptionKeyDerivation then .none
  else if version < schemaVersionEncryptionAADRowScoped then .column
  else .row

/-! ## The encrypted columns -/

inductive OAuth2SessionType
  | accessToken
  | authorizeCode
  | deviceAuthorizeCode
  | openIDConnect
  | par
  | pkceChallenge
  | refreshToken
  deriving DecidableEq, Repr

namespace OAuth2SessionType

/-- The types in the order of their `iota` values: the loop over `OAuth2SessionType(i)` visits
them so, and stops at the first `i` whose `Table()` is empty. -/
def all : List OAuth2SessionType :=
  [accessToken, authorizeCode, deviceAuthorizeCode, openIDConnect, par, pkceChallenge, refreshToken]

def table : OAuth2SessionType → List Char
  | accessToken => tableOAuth2AccessTokenSession
  | authorizeCode => tableOAuth2AuthorizeCodeSession
  | deviceAuthorizeCode => tableOAuth2DeviceCodeSession
  | openIDConnect => tableOAuth2OpenIDConnectSession
  | par => tableOAuth2PARContext
  | pkceChallenge => tableOAuth2PKCERequestSession
  | refreshToken => tableOAuth2RefreshTokenSession

def aad : OAuth2SessionType → List Char
  | par => tableAADPushedAuthorizationRequestSession
  | s => s.table

end OAuth2SessionType

/-- The columns `SchemaEncryptionChangeKeyAdvanced` re-encrypts. -/
inductive EncryptedColumn
  | oneTimeCode
  | totpSecret
  | webAuthnPublicKey
  | webAuthnAttestation
  | cachedDataValue
  | oauth2SessionData (type : OAuth2SessionType)
  | encryptionValue
  deriving DecidableEq, Repr

namespace EncryptedColumn

/-- The AAD each change-key function binds a value to, from the value's row key (signature,
username, kid or name) and, for WebAuthn, its relying party. -/
def aad : EncryptedColumn → EncryptionAAD → (row issuer : List Char) → List Char
  | oneTimeCode, a, row, _ => a.get tableOneTimeCode columnCode row
  | totpSecret, a, row, _ => a.get tableTOTPConfigurations columnSecret row
  | webAuthnPublicKey, a, row, issuer =>
    a.getIssuer tableWebAuthnCredentials "public_key".toList row issuer
  | webAuthnAttestation, a, row, issuer =>
    a.getIssuer tableWebAuthnCredentials "attestation".toList row issuer
  | cachedDataValue, a, row, _ => a.get tableCachedData columnValue row
  | oauth2SessionData t, a, row, _ => a.get t.aad columnSessionData row
  | encryptionValue, a, row, _ => a.get tableEncryption columnValue row

def skipsEmpty : EncryptedColumn → Bool
  | webAuthnAttestation | cachedDataValue => true
  | _ => false

def isWebAuthn : EncryptedColumn → Bool
  | webAuthnPublicKey | webAuthnAttestation => true
  | _ => false

end EncryptedColumn

/-- One encrypted value of the store, with what its AAD is bound to; `value` is `none` for a NULL
or empty column. -/
structure EncryptedValue (α : Type) where
  column : EncryptedColumn
  row : List Char
  issuer : List Char := []
  value : Option (Sealed α)
  deriving DecidableEq, Repr

structure DecryptError where
  column : EncryptedColumn
  row : List Char
  deriving DecidableEq, Repr

variable {α : Type}

/-! ## Changing the key -/

/-- One iteration of a change-key loop: open the value under the provider's key `current` and the
`decrypt` scheme, then seal it again under `key` and the `encrypt` scheme. -/
def changeKeyValue (current : DerivedKey) (decrypt encrypt : EncryptionAAD) (key : DerivedKey)
    (v : EncryptedValue α) : Except DecryptError (EncryptedValue α) :=
  match v.value with
  | none => if v.column.skipsEmpty then .ok v else .error ⟨v.column, v.row⟩
  | some c =>
    match Utils.decrypt c (v.column.aad decrypt v.row v.issuer) current with
    | some m =>
      .ok { v with value := some (Utils.encrypt m (v.column.aad encrypt v.row v.issuer) key) }
    | none => .error ⟨v.column, v.row⟩

/-- A change-key function of the source as the body of its loop, given `provider.keys.encryption`,
`init`, the two schemes and the new key. It passes the values of other tables through, which its
`SELECT` never reads. -/
def EncryptionChangeKeyFunc (α : Type) : Type :=
  DerivedKey → Bool → EncryptionAAD → EncryptionAAD → DerivedKey → EncryptedValue α →
    Except DecryptError (EncryptedValue α)

def changeKeyColumns (selected : EncryptedColumn → Bool) : EncryptionChangeKeyFunc α :=
  fun current _ decrypt encrypt key v =>
    if selected v.column then changeKeyValue current decrypt encrypt key v else .ok v

def schemaEncryptionChangeKeyOneTimeCode : EncryptionChangeKeyFunc α :=
  changeKeyColumns (· == .oneTimeCode)

def schemaEncryptionChangeKeyTOTP : EncryptionChangeKeyFunc α :=
  changeKeyColumns (· == .totpSecret)

/-- Both encrypted columns of each credential; a row's public key comes before its attestation in
the store, as in the loop. -/
def schemaEncryptionChangeKeyWebAuthn : EncryptionChangeKeyFunc α :=
  changeKeyColumns EncryptedColumn.isWebAuthn

def schemaEncryptionChangeKeyCachedData : EncryptionChangeKeyFunc α :=
  changeKeyColumns (· == .cachedDataValue)

def schemaEncryptionChangeKeyOpenIDConnect (t : OAuth2SessionType) : EncryptionChangeKeyFunc α :=
  changeKeyColumns (· == .oauth2SessionData t)

/-- The encryption table's loop opens its values under the `encrypt` scheme when `init` is set: a
fresh schema has just written the check value in the target scheme. -/
def schemaEncryptionChangeKeyEncryption : EncryptionChangeKeyFunc α :=
  fun current init decrypt encrypt key v =>
    if v.column == .encryptionValue then
      changeKeyValue current (if init then encrypt else decrypt) encrypt key v
    else .ok v

def encChangeFuncs : List (EncryptionChangeKeyFunc α) :=
  [schemaEncryptionChangeKeyOneTimeCode, schemaEncryptionChangeKeyTOTP,
    schemaEncryptionChangeKeyWebAuthn, schemaEncryptionChangeKeyCachedData] ++
  OAuth2SessionType.all.map schemaEncryptionChangeKeyOpenIDConnect ++
  [schemaEncryptionChangeKeyEncryption]

structure SQLProvider (α : Type) where
  keys : DerivedKey
  aad : EncryptionAAD
  store : List (EncryptedValue α)
  deriving DecidableEq, Repr

/-- Every function of `encChangeFuncs` in turn over the whole store; the first value that does
not open stops the run, and the transaction around it keeps nothing. -/
def SQLProvider.schemaEncryptionChangeKeyAdvanced (p : SQLProvider α) (key : DerivedKey)
    (init : Bool) (decrypt encrypt : EncryptionAAD) : Except DecryptError (SQLProvider α) := do
  let store ← (encChangeFuncs (α := α)).foldlM
    (fun s f => s.mapM (f p.keys init decrypt encrypt key)) p.store
  pure { p with store }

/-! ## Sealed values -/

namespace EncryptedValue

/-- The value opens under `key` and the scheme `aad`; an empty value only where its loop skips it. -/
def sealedUnder (key : DerivedKey) (aad : EncryptionAAD) (v : EncryptedValue α) : Bool :=
  match v.value with
  | some c => c.key == key && c.aad == v.column.aad aad v.row v.issuer
  | none => v.column.skipsEmpty

/-- The value sealed again under `key` and the scheme `aad`, what a loop that opens it writes. -/
def reseal (aad : EncryptionAAD) (key : DerivedKey) (v : EncryptedValue α) : EncryptedValue α :=
  { v with value := v.value.map fun c => encrypt c.plaintext (v.column.aad aad v.row v.issuer) key }

def clear (v : EncryptedValue α) : EncryptedColumn × List Char × List Char × Option α :=
  (v.column, v.row, v.issuer, v.value.map (·.plaintext))

/-- Where the value is: its column, and the row key and relying party its AAD is bound to. -/
def place (v : EncryptedValue α) : EncryptedColumn × List Char × List Char :=
  (v.column, v.row, v.issuer)

@[simp] theorem reseal_column (aad : EncryptionAAD) (key : DerivedKey) (v : EncryptedValue α) :
    (v.reseal aad key).column = v.column := rfl

@[simp] theorem place_reseal (aad : EncryptionAAD) (key : DerivedKey) (v : EncryptedValue α) :
    (v.reseal aad key).place = v.place := rfl

@[simp] theorem clear_reseal (aad : EncryptionAAD) (key : DerivedKey) (v : EncryptedValue α) :
    (v.reseal aad key).clear = v.clear := by
  cases h : v.value <;> simp [reseal, clear, h, encrypt]

theorem sealedUnder_reseal {k k' : DerivedKey} {a a' : EncryptionAAD} {v : EncryptedValue α}
    (h : v.sealedUnder k a = true) : (v.reseal a' k').sealedUnder k' a' = true := by
  cases hv : v.value with
  | none => simpa [sealedUnder, reseal, hv] using h
  | some c => simp [sealedUnder, reseal, hv, encrypt]

theorem reseal_of_sealedUnder {k : DerivedKey} {a : EncryptionAAD} {v : EncryptedValue α}
    (h : v.sealedUnder k a = true) : v.reseal a k = v := by
  obtain ⟨column, row, issuer, value⟩ := v
  cases value with
  | none => rfl
  | some c =>
    have hc : c.key = k ∧ c.aad = column.aad a row issuer := by simpa [sealedUnder] using h
    obtain ⟨plaintext, aad, key⟩ := c
    simp only at hc
    simp [reseal, encrypt, hc.1, hc.2]

end EncryptedValue

open EncryptedValue

theorem changeKeyValue_of_sealedUnder {current key : DerivedKey} {decrypt encrypt : EncryptionAAD}
    {v : EncryptedValue α} (h : v.sealedUnder current decrypt = true) :
    changeKeyValue current decrypt encrypt key v = .ok (v.reseal encrypt key) := by
  obtain ⟨column, row, issuer, value⟩ := v
  cases value with
  | none =>
    have hskip : column.skipsEmpty = true := by simpa [sealedUnder] using h
    simp [changeKeyValue, hskip, reseal]
  | some c =>
    have hc : c.key = current ∧ c.aad = column.aad decrypt row issuer := by
      simpa [sealedUnder] using h
    simp [changeKeyValue, Utils.decrypt, hc, reseal]

/-- The scheme the change-key function of a column opens its values with. -/
def decryptFor (init : Bool) (decrypt encrypt : EncryptionAAD) (c : EncryptedColumn) :
    EncryptionAAD :=
  if init && c == .encryptionValue then encrypt else decrypt

@[simp] theorem decryptFor_false (decrypt encrypt : EncryptionAAD) (c : EncryptedColumn) :
    decryptFor false decrypt encrypt c = decrypt := rfl

theorem place_of_changeKeyValue {current key : DerivedKey} {decrypt encrypt : EncryptionAAD}
    {v w : EncryptedValue α} (h : changeKeyValue current decrypt encrypt key v = .ok w) :
    w.place = v.place := by
  unfold changeKeyValue at h
  split at h
  · split at h
    · cases h
      rfl
    · cases h
  · split at h
    · cases h
      rfl
    · cases h

theorem place_of_encChangeFuncs {f : EncryptionChangeKeyFunc α} (hf : f ∈ encChangeFuncs)
    {current key : DerivedKey} {init : Bool} {decrypt encrypt : EncryptionAAD}
    {v w : EncryptedValue α} (h : f current init decrypt encrypt key v = .ok w) :
    w.place = v.place := by
  -- every function either passes the value through or runs the one loop body on it
  have hbody : ∀ (b : Bool) (d : EncryptionAAD),
      (if b then changeKeyValue current d encrypt key v else .ok v) = .ok w → w.place = v.place := by
    intro b d hb
    split at hb
    · exact place_of_changeKeyValue hb
    · cases hb
      rfl
  simp only [encChangeFuncs, OAuth2SessionType.all, List.map_cons, List.map_nil, List.cons_append,
    List.nil_append, List.mem_cons, List.not_mem_nil, or_false] at hf
  rcases hf with rfl | rfl | rfl | rfl | rfl | rfl | rfl | rfl | rfl | rfl | rfl | rfl
  all_goals exact hbody _ _ h

theorem encChangeFuncs_foldlM_of_sealedUnder {current key : DerivedKey} {init : Bool}
    {decrypt encrypt : EncryptionAAD} {v : EncryptedValue α}
    (h : v.sealedUnder current (decryptFor init decrypt encrypt v.column) = true) :
    ((encChangeFuncs (α := α)).map fun f => f current init decrypt encrypt key).foldlM
      (fun x f => f x) v = .ok (v.reseal encrypt key) := by
  obtain ⟨column, row, issuer, value⟩ := v
  have hv : changeKeyValue current (decryptFor init decrypt encrypt column) encrypt key
      ⟨column, row, issuer, value⟩ = .ok (reseal encrypt key ⟨column, row, issuer, value⟩) :=
    changeKeyValue_of_sealedUnder h
  cases column with
  | oauth2SessionData t =>
    cases t <;>
      simp_all [encChangeFuncs, OAuth2SessionType.all, changeKeyColumns, decryptFor,
        schemaEncryptionChangeKeyOneTimeCode, schemaEncryptionChangeKeyTOTP,
        schemaEncryptionChangeKeyWebAuthn, schemaEncryptionChangeKeyCachedData,
        schemaEncryptionChangeKeyOpenIDConnect, schemaEncryptionChangeKeyEncryption,
        EncryptedColumn.isWebAuthn]
  | _ =>
    simp_all [encChangeFuncs, OAuth2SessionType.all, changeKeyColumns, decryptFor,
      schemaEncryptionChangeKeyOneTimeCode, schemaEncryptionChangeKeyTOTP,
      schemaEncryptionChangeKeyWebAuthn, schemaEncryptionChangeKeyCachedData,
      schemaEncryptionChangeKeyOpenIDConnect, schemaEncryptionChangeKeyEncryption,
      EncryptedColumn.isWebAuthn]

theorem SQLProvider.schemaEncryptionChangeKeyAdvanced_eq {p : SQLProvider α} {key : DerivedKey}
    {init : Bool} {decrypt encrypt : EncryptionAAD}
    (h : ∀ v ∈ p.store, v.sealedUnder p.keys (decryptFor init decrypt encrypt v.column) = true) :
    p.schemaEncryptionChangeKeyAdvanced key init decrypt encrypt =
      .ok { p with store := p.store.map (·.reseal encrypt key) } := by
  have hpass : (encChangeFuncs (α := α)).foldlM
      (fun s f => s.mapM (f p.keys init decrypt encrypt key)) p.store =
      .ok (p.store.map (·.reseal encrypt key)) := by
    have hmap : ((encChangeFuncs (α := α)).map fun f => f p.keys init decrypt encrypt key).foldlM
        (fun s f => s.mapM f) p.store = (encChangeFuncs (α := α)).foldlM
        (fun s f => s.mapM (f p.keys init decrypt encrypt key)) p.store := List.foldlM_map
    rw [← hmap]
    apply List.foldlM_mapM_eq_ok
    rw [List.forall₂_map_right_iff, List.forall₂_same]
    exact fun v hv => encChangeFuncs_foldlM_of_sealedUnder (h v hv)
  simp only [schemaEncryptionChangeKeyAdvanced, hpass]
  rfl

/-! ## Stores sealed under one scheme -/

/-- Every value of the store opens under `key` and the scheme `aad`. -/
def SealedStore (key : DerivedKey) (aad : EncryptionAAD) (store : List (EncryptedValue α)) : Prop :=
  ∀ v ∈ store, v.sealedUnder key aad = true

instance (key : DerivedKey) (aad : EncryptionAAD) (store : List (EncryptedValue α)) :
    Decidable (SealedStore key aad store) :=
  inferInstanceAs (Decidable (∀ v ∈ store, v.sealedUnder key aad = true))

theorem SealedStore.reseal {k k' : DerivedKey} {a a' : EncryptionAAD}
    {store : List (EncryptedValue α)} (h : SealedStore k a store) :
    SealedStore k' a' (store.map (·.reseal a' k')) := by
  intro w hw
  obtain ⟨v, hv, rfl⟩ := List.mem_map.mp hw
  exact sealedUnder_reseal (h v hv)

theorem SealedStore.map_reseal {k : DerivedKey} {a : EncryptionAAD}
    {store : List (EncryptedValue α)} (h : SealedStore k a store) :
    store.map (·.reseal a k) = store := by
  conv => rhs; rw [← List.map_id store]
  exact List.map_congr_left fun v hv => reseal_of_sealedUnder (h v hv)

theorem SealedStore.decryptFor_init {k : DerivedKey} {decrypt encrypt : EncryptionAAD}
    {store : List (EncryptedValue α)} (h : SealedStore k encrypt store)
    (hcheck : ∀ v ∈ store, v.column = .encryptionValue) :
    ∀ v ∈ store, v.sealedUnder k (decryptFor true decrypt encrypt v.column) = true := by
  intro v hv
  simpa [decryptFor, hcheck v hv] using h v hv

theorem clear_map_reseal (a : EncryptionAAD) (k : DerivedKey) (store : List (EncryptedValue α)) :
    (store.map (·.reseal a k)).map clear = store.map clear := by
  simp [Function.comp_def]

end Authelia.Storage
