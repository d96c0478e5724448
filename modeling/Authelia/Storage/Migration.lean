import Mathlib.Data.List.Nodup
import Authelia.Storage.Encryption

/-! Schema migrations and the re-encryption stages they carry (`migrations.go`,
`sql_provider_schema.go`, `sql_provider_schema_special.go`, the SQL under `migrations/`). The SQL
of a migration writes no encrypted value: it copies ciphertexts from table to table as they are,
and drops the values of the tables and columns a down migration drops and of the rows some
statements pick by columns the store does not carry. So a run seals what the SQL leaves under the
target's scheme, in place; the re-encryption is the work of the special stages and, for version 1
up, of the check value it writes. -/

namespace Authelia.Storage
open Utils

variable {α : Type}

structure SchemaMigration where
  version : Nat
  up : Bool
  deriving DecidableEq, Repr

namespace SchemaMigration

def before (m : SchemaMigration) : Nat := if m.up then m.version - 1 else m.version

def after (m : SchemaMigration) : Nat := if m.up then m.version else m.version - 1

end SchemaMigration

/-- The embedded migration files in the order `ReadDir` lists them: `V0001.Initial_Schema.down.sql`
before its `.up.sql`, up to `V0026.StorageAADRowScoped`. -/
def migrationFiles : List SchemaMigration :=
  (List.range' 1 26).flatMap fun v => [⟨v, false⟩, ⟨v, true⟩]

def latestMigrationVersion : Nat :=
  (migrationFiles.filter (·.up)).foldl (fun v m => max v m.version) 0

def skipMigration (up : Bool) (target prior : Nat) (m : SchemaMigration) : Bool :=
  if up then !m.up || decide (target < m.version) || decide (m.version ≤ prior)
  else m.up || decide (m.version ≤ target) || decide (prior < m.version)

inductive SchemaError
  | migrateCurrentVersionSameAsTarget
  | noMigrationsFound
  | decrypt (e : DecryptError)
  deriving DecidableEq, Repr

/-- `loadMigrations`. The listing is in ascending version, so the ascending sort of an upgrade
keeps it and the descending sort of a downgrade reverses it. -/
def loadMigrations (prior target : Nat) : Except SchemaError (List SchemaMigration) :=
  if prior = target then .error .migrateCurrentVersionSameAsTarget
  else
    let up := decide (prior < target)
    let migrations := migrationFiles.filter fun m => !skipMigration up target prior m
    .ok (if up then migrations else migrations.reverse)

/-! ## The special stages -/

/-- `fSchemaMigration`: a stage gets the provider and `prior`, `before`, `after`, `target`. -/
def fSchemaMigration (α : Type) : Type :=
  SQLProvider α → (prior before after target : Nat) → Except DecryptError (SQLProvider α)

/-- The credentials are loaded, and those whose attestation type changes written back, under the
legacy key and no AAD; the provider's key and AAD are restored afterwards. Writing back seals the
same plaintext under the same scheme, so every credential may be written back. -/
def migrationSpecialUp24 : fSchemaMigration α := fun p _ _ _ _ => do
  let q := { p with keys := .legacy, aad := .none }
  let store ← q.store.mapM fun v =>
    if v.column.isWebAuthn then changeKeyValue q.keys q.aad q.aad q.keys v else .ok v
  pure { p with store }

def migrationSpecialDown25 : fSchemaMigration α := fun p prior _ _ target =>
  if prior ≥ schemaVersionEncryptionAADRowScoped then .ok p
  else do
    let encryptKey := DerivedKey.legacy
    -- a target of 0 destroys all data, so nothing is re-encrypted
    let p ← if target ≠ 0 then p.schemaEncryptionChangeKeyAdvanced encryptKey false .column .none
      else .ok p
    pure { p with keys := encryptKey }

def migrationSpecialUp25 : fSchemaMigration α := fun p prior _ _ target =>
  if target > schemaVersionEncryptionKeyDerivation then .ok p
  else do
    let encryptKey := p.keys
    let p := if prior ≠ 0 then { p with keys := .legacy } else p
    let p ← p.schemaEncryptionChangeKeyAdvanced encryptKey (prior == 0) .none .column
    pure { p with keys := encryptKey }

def migrationSpecialUp26 : fSchemaMigration α := fun p prior _ _ _ => do
  let encryptKey := p.keys
  let (p, decrypt) :=
    if prior = 0 then (p, EncryptionAAD.row)
    else if prior < schemaVersionEncryptionKeyDerivation then ({ p with keys := .legacy }, .none)
    else (p, .column)
  let p ← p.schemaEncryptionChangeKeyAdvanced encryptKey (prior == 0) decrypt .row
  pure { p with keys := encryptKey }

def migrationSpecialDown26 : fSchemaMigration α := fun p _ _ _ target =>
  if target = 0 then .ok { p with keys := .legacy }
  else do
    let (encryptKey, encrypt) :=
      if target < schemaVersionEncryptionKeyDerivation then (DerivedKey.legacy, EncryptionAAD.none)
      else (p.keys, .column)
    let p ← p.schemaEncryptionChangeKeyAdvanced encryptKey false .row encrypt
    pure { p with keys := encryptKey }

def migrationsSpecialUp : Nat → Option (List (fSchemaMigration α))
  | 24 => some [migrationSpecialUp24]
  | 25 => some [migrationSpecialUp25]
  | 26 => some [migrationSpecialUp26]
  | _ => none

def migrationsSpecialDown : Nat → Option (List (fSchemaMigration α))
  | 25 => some [migrationSpecialDown25]
  | 26 => some [migrationSpecialDown26]
  | _ => none

/-! ## The SQL of the migrations

The public key of a U2F device of schema 1 is the WebAuthn public key `V0002` makes of it. -/

/-- The five OAuth2 session tables that reference `oauth2_consent_session` with a cascade. -/
def consentSessionColumns : List EncryptedColumn :=
  [.oauth2SessionData .authorizeCode, .oauth2SessionData .accessToken,
    .oauth2SessionData .refreshToken, .oauth2SessionData .pkceChallenge,
    .oauth2SessionData .openIDConnect]

/-- The encrypted columns whose table or column the SQL of a down migration drops. -/
def droppedColumns : SchemaMigration → List EncryptedColumn
  | ⟨1, false⟩ => [.totpSecret, .webAuthnPublicKey, .encryptionValue]
  | ⟨4, false⟩ => consentSessionColumns
  | ⟨8, false⟩ => [.oauth2SessionData .par]
  | ⟨13, false⟩ => [.oneTimeCode]
  | ⟨18, false⟩ => [.oauth2SessionData .deviceAuthorizeCode]
  | ⟨19, false⟩ => [.webAuthnAttestation, .cachedDataValue]
  | _ => []

/-- The encrypted columns among whose rows the SQL of a migration picks by columns the store does
not carry: `V0002` and `V0012` down keep the `fido-u2f` and the `legacy` credentials, `V0005`,
`V0006` up and `V0016` down drop consents and the sessions that cascade from them, and `V0010` and
`V0023` down drop sessions without a subject or a challenge. -/
def rowFilteredColumns : SchemaMigration → List EncryptedColumn
  | ⟨2, false⟩ | ⟨12, false⟩ => [.webAuthnPublicKey]
  | ⟨5, true⟩ | ⟨5, false⟩ | ⟨6, true⟩ | ⟨16, false⟩ => consentSessionColumns
  | ⟨10, false⟩ => [.oauth2SessionData .accessToken]
  | ⟨23, false⟩ => [.oauth2SessionData .deviceAuthorizeCode]
  | _ => []

/-- What the rows of the database hold beyond the encrypted values, as the statements that pick
rows read it: whether the SQL of a migration deletes the row of the value at a place. -/
def RowDeletion : Type := SchemaMigration → EncryptedColumn × List Char × List Char → Bool

def keepsPlace (deletesRow : RowDeletion) (m : SchemaMigration)
    (place : EncryptedColumn × List Char × List Char) : Bool :=
  !(droppedColumns m).contains place.1 &&
    !((rowFilteredColumns m).contains place.1 && deletesRow m place)

/-! ## Applying migrations -/

namespace SQLProvider

def filterStore (keep : EncryptedColumn × List Char × List Char → Bool) (p : SQLProvider α) :
    SQLProvider α :=
  { p with store := p.store.filter fun v => keep v.place }

/-- `conn.ExecContext(ctx, migration.Query)`, as what it leaves of the encrypted values. -/
def migrationQuery (deletesRow : RowDeletion) (p : SQLProvider α) (m : SchemaMigration) :
    SQLProvider α :=
  p.filterStore (keepsPlace deletesRow m)

def schemaMigrateApplySpecial (p : SQLProvider α) (m : SchemaMigration) (prior target : Nat) :
    Except DecryptError (SQLProvider α) :=
  match if m.up then migrationsSpecialUp m.version else migrationsSpecialDown m.version with
  | none => .ok p
  | some specials => specials.foldlM (fun p special => special p prior m.before m.after target) p

/-- Upsert the check value by its name, sealing `valueClearText`, the random UUID it is made of. -/
def setNewEncryptionCheckValue (p : SQLProvider α) (key : DerivedKey) (aad : EncryptionAAD)
    (valueClearText : α) : SQLProvider α :=
  { p with store :=
      p.store.filter (fun v => !(v.column == .encryptionValue && v.row == encryptionNameCheck)) ++
        [{ column := .encryptionValue, row := encryptionNameCheck,
           value := some (encrypt valueClearText
             (aad.get tableEncryption columnValue encryptionNameCheck) key) }] }

/-- What `schemaMigrateApply` does after the migration's SQL: the check value of version 1 up,
then the special stages. -/
def schemaMigrateApplyStages (p : SQLProvider α) (m : SchemaMigration) (prior target : Nat)
    (valueClearText : α) : Except SchemaError (SQLProvider α) :=
  let p :=
    if m.version = 1 ∧ m.up then
      let key := if target < schemaVersionEncryptionKeyDerivation then .legacy else p.keys
      p.setNewEncryptionCheckValue key (aadForSchemaVersion target) valueClearText
    else p
  (p.schemaMigrateApplySpecial m prior target).mapError .decrypt

def schemaMigrateApply (deletesRow : RowDeletion) (p : SQLProvider α) (m : SchemaMigration)
    (prior target : Nat) (valueClearText : α) : Except SchemaError (SQLProvider α) :=
  (p.migrationQuery deletesRow m).schemaMigrateApplyStages m prior target valueClearText

def schemaMigrate (deletesRow : RowDeletion) (p : SQLProvider α) (prior target : Nat)
    (valueClearText : α) : Except SchemaError (SQLProvider α) := do
  let migrations ← loadMigrations prior target
  if migrations.isEmpty then throw .noMigrationsFound
  migrations.foldlM (fun p m => p.schemaMigrateApply deletesRow m prior target valueClearText) p

end SQLProvider

def newSQLProvider (store : List (EncryptedValue α)) : SQLProvider α :=
  { keys := .hkdf, aad := .row, store }

/-! ## What each stage does -/

section Stages

variable (p : SQLProvider α) (prior before after target : Nat)
open EncryptedValue

theorem migrationSpecialUp24_eq
    (h : ∀ v ∈ p.store, v.column.isWebAuthn = true → v.sealedUnder .legacy .none = true) :
    migrationSpecialUp24 p prior before after target = .ok p := by
  have hstore : p.store.mapM (fun v => if v.column.isWebAuthn then
      changeKeyValue .legacy .none .none .legacy v else .ok v) = .ok p.store := by
    apply List.mapM_eq_ok_of_forall₂
    rw [List.forall₂_same]
    intro v hv
    by_cases hw : v.column.isWebAuthn = true
    · rw [if_pos hw, changeKeyValue_of_sealedUnder (h v hv hw), reseal_of_sealedUnder (h v hv hw)]
    · rw [if_neg hw]
  simp only [migrationSpecialUp24, hstore]
  rfl

theorem migrationSpecialUp25_of_lt (htarget : schemaVersionEncryptionKeyDerivation < target) :
    migrationSpecialUp25 p prior before after target = .ok p := by
  simp [migrationSpecialUp25, htarget]

theorem migrationSpecialUp25_of_fresh (htarget : target ≤ schemaVersionEncryptionKeyDerivation)
    (h : ∀ v ∈ p.store, v.sealedUnder p.keys (decryptFor true .none .column v.column) = true) :
    migrationSpecialUp25 p 0 before after target =
      .ok { p with store := p.store.map (·.reseal .column p.keys) } := by
  have hchange : p.schemaEncryptionChangeKeyAdvanced p.keys true .none .column =
      .ok { p with store := p.store.map (·.reseal .column p.keys) } :=
    SQLProvider.schemaEncryptionChangeKeyAdvanced_eq h
  simp only [migrationSpecialUp25, gt_iff_lt, Nat.not_lt.mpr htarget, if_false, ne_eq,
    not_true_eq_false, beq_self_eq_true, hchange]
  rfl

theorem migrationSpecialUp25_of_legacy (htarget : target ≤ schemaVersionEncryptionKeyDerivation)
    (hprior : prior ≠ 0) (h : SealedStore .legacy .none p.store) :
    migrationSpecialUp25 p prior before after target =
      .ok { p with store := p.store.map (·.reseal .column p.keys) } := by
  have hchange : ({ p with keys := .legacy } : SQLProvider α).schemaEncryptionChangeKeyAdvanced
      p.keys false .none .column =
        .ok { p with keys := .legacy, store := p.store.map (·.reseal .column p.keys) } :=
    SQLProvider.schemaEncryptionChangeKeyAdvanced_eq fun v hv => by simpa using h v hv
  have hinit : (prior == 0) = false := by simpa using hprior
  simp only [migrationSpecialUp25, gt_iff_lt, Nat.not_lt.mpr htarget, if_false, ne_eq, hprior,
    not_false_eq_true, if_true, hinit, hchange]
  rfl

theorem migrationSpecialUp26_of_fresh (h : SealedStore p.keys .row p.store) :
    migrationSpecialUp26 p 0 before after target =
      .ok { p with store := p.store.map (·.reseal .row p.keys) } := by
  have hchange : p.schemaEncryptionChangeKeyAdvanced p.keys true .row .row =
      .ok { p with store := p.store.map (·.reseal .row p.keys) } :=
    SQLProvider.schemaEncryptionChangeKeyAdvanced_eq fun v hv => by
      simpa [decryptFor] using h v hv
  simp only [migrationSpecialUp26, if_true, beq_self_eq_true, hchange]
  rfl

theorem migrationSpecialUp26_of_legacy (hprior : prior ≠ 0)
    (hlt : prior < schemaVersionEncryptionKeyDerivation) (h : SealedStore .legacy .none p.store) :
    migrationSpecialUp26 p prior before after target =
      .ok { p with store := p.store.map (·.reseal .row p.keys) } := by
  have hchange : ({ p with keys := .legacy } : SQLProvider α).schemaEncryptionChangeKeyAdvanced
      p.keys false .none .row =
        .ok { p with keys := .legacy, store := p.store.map (·.reseal .row p.keys) } :=
    SQLProvider.schemaEncryptionChangeKeyAdvanced_eq fun v hv => by simpa using h v hv
  have hinit : (prior == 0) = false := by simpa using hprior
  simp only [migrationSpecialUp26, hprior, if_false, hlt, if_true, hinit, hchange]
  rfl

theorem migrationSpecialUp26_of_column (hge : schemaVersionEncryptionKeyDerivation ≤ prior)
    (h : SealedStore p.keys .column p.store) :
    migrationSpecialUp26 p prior before after target =
      .ok { p with store := p.store.map (·.reseal .row p.keys) } := by
  have hprior : prior ≠ 0 := by unfold schemaVersionEncryptionKeyDerivation at hge; omega
  have hchange : p.schemaEncryptionChangeKeyAdvanced p.keys false .column .row =
      .ok { p with store := p.store.map (·.reseal .row p.keys) } :=
    SQLProvider.schemaEncryptionChangeKeyAdvanced_eq fun v hv => by simpa using h v hv
  have hinit : (prior == 0) = false := by simpa using hprior
  simp only [migrationSpecialUp26, hprior, if_false, Nat.not_lt.mpr hge, hinit, hchange]
  rfl

theorem migrationSpecialDown26_of_legacy (htarget : target ≠ 0)
    (hlt : target < schemaVersionEncryptionKeyDerivation) (h : SealedStore p.keys .row p.store) :
    migrationSpecialDown26 p prior before after target =
      .ok { p with keys := .legacy, store := p.store.map (·.reseal .none .legacy) } := by
  have hchange : p.schemaEncryptionChangeKeyAdvanced .legacy false .row .none =
      .ok { p with store := p.store.map (·.reseal .none .legacy) } :=
    SQLProvider.schemaEncryptionChangeKeyAdvanced_eq fun v hv => by simpa using h v hv
  simp only [migrationSpecialDown26, htarget, if_false, hlt, if_true, hchange]
  rfl

theorem migrationSpecialDown26_of_column (hge : schemaVersionEncryptionKeyDerivation ≤ target)
    (h : SealedStore p.keys .row p.store) :
    migrationSpecialDown26 p prior before after target =
      .ok { p with store := p.store.map (·.reseal .column p.keys) } := by
  have htarget : target ≠ 0 := by unfold schemaVersionEncryptionKeyDerivation at hge; omega
  have hchange : p.schemaEncryptionChangeKeyAdvanced p.keys false .row .column =
      .ok { p with store := p.store.map (·.reseal .column p.keys) } :=
    SQLProvider.schemaEncryptionChangeKeyAdvanced_eq fun v hv => by simpa using h v hv
  simp only [migrationSpecialDown26, htarget, if_false, Nat.not_lt.mpr hge, hchange]
  rfl

theorem migrationSpecialDown25_of_rowScoped (hprior : schemaVersionEncryptionAADRowScoped ≤ prior) :
    migrationSpecialDown25 p prior before after target = .ok p := by
  simp [migrationSpecialDown25, hprior]

theorem migrationSpecialDown25_of_column (hprior : prior < schemaVersionEncryptionAADRowScoped)
    (htarget : target ≠ 0) (h : SealedStore p.keys .column p.store) :
    migrationSpecialDown25 p prior before after target =
      .ok { p with keys := .legacy, store := p.store.map (·.reseal .none .legacy) } := by
  have hchange : p.schemaEncryptionChangeKeyAdvanced .legacy false .column .none =
      .ok { p with store := p.store.map (·.reseal .none .legacy) } :=
    SQLProvider.schemaEncryptionChangeKeyAdvanced_eq fun v hv => by simpa using h v hv
  simp only [migrationSpecialDown25, ge_iff_le, Nat.not_le.mpr hprior, if_false, ne_eq, htarget,
    not_false_eq_true, if_true, hchange]
  rfl

end Stages

/-! ## The SQL and the stages

No stage moves a value, so the filter of a migration's SQL may as well run after the stages: the
SQL of a whole run leaves what one filter by every migration's `keepsPlace` leaves of the result
of the stages alone (`foldlM_schemaMigrateApply_filterStore`). -/

/-- A stage gives, from the values a filter keeps, what the filter keeps of its result. -/
def FilterCommutes (special : fSchemaMigration α) : Prop :=
  ∀ (keep : EncryptedColumn × List Char × List Char → Bool) (p q : SQLProvider α)
    (prior before after target : Nat), special p prior before after target = .ok q →
      special (p.filterStore keep) prior before after target = .ok (q.filterStore keep)

namespace SQLProvider

section Filter

variable (keep : EncryptedColumn × List Char × List Char → Bool) (p : SQLProvider α)

@[simp] theorem filterStore_keys : (p.filterStore keep).keys = p.keys := rfl

theorem filterStore_filterStore (keep' : EncryptedColumn × List Char × List Char → Bool) :
    (p.filterStore keep).filterStore keep' =
      p.filterStore fun place => keep place && keep' place := by
  simp only [filterStore, List.filter_filter, Bool.and_comm]

theorem filterStore_true : p.filterStore (fun _ => true) = p := by
  simp [filterStore]

theorem schemaEncryptionChangeKeyAdvanced_filterStore {key : DerivedKey} {init : Bool}
    {decrypt encrypt : EncryptionAAD} {q : SQLProvider α}
    (h : p.schemaEncryptionChangeKeyAdvanced key init decrypt encrypt = .ok q) :
    (p.filterStore keep).schemaEncryptionChangeKeyAdvanced key init decrypt encrypt =
      .ok (q.filterStore keep) := by
  -- the change-key functions are the passes of one fold, and none moves a value
  have hfs : ∀ s : List (EncryptedValue α),
      ((encChangeFuncs (α := α)).map fun f => f p.keys init decrypt encrypt key).foldlM
        (fun s f => s.mapM f) s = (encChangeFuncs (α := α)).foldlM
        (fun s f => s.mapM (f p.keys init decrypt encrypt key)) s := fun s => List.foldlM_map
  have hplace : ∀ g ∈ (encChangeFuncs (α := α)).map fun f => f p.keys init decrypt encrypt key,
      ∀ v w, g v = .ok w → w.place = v.place := by
    intro g hg v w hvw
    obtain ⟨f, hf, rfl⟩ := List.mem_map.mp hg
    exact place_of_encChangeFuncs hf hvw
  obtain ⟨store, hstore, hq⟩ := Except.bind_eq_ok h
  cases hq
  rw [← hfs] at hstore
  simp only [schemaEncryptionChangeKeyAdvanced, filterStore, ← hfs,
    List.foldlM_mapM_filter_eq_ok keep hplace hstore]
  rfl

theorem schemaEncryptionChangeKeyAdvanced_bind_filterStore {key k : DerivedKey} {init : Bool}
    {decrypt encrypt : EncryptionAAD} {q : SQLProvider α}
    (h : (p.schemaEncryptionChangeKeyAdvanced key init decrypt encrypt >>=
      fun p => pure { p with keys := k }) = .ok q) :
    ((p.filterStore keep).schemaEncryptionChangeKeyAdvanced key init decrypt encrypt >>=
      fun p => pure { p with keys := k }) = .ok (q.filterStore keep) := by
  obtain ⟨p', hp', hq⟩ := Except.bind_eq_ok h
  cases hq
  rw [schemaEncryptionChangeKeyAdvanced_filterStore keep p hp']
  rfl

end Filter

end SQLProvider

open SQLProvider

theorem filterCommutes_migrationSpecialUp24 : FilterCommutes (migrationSpecialUp24 (α := α)) := by
  intro keep p q prior before after target h
  simp only [migrationSpecialUp24] at h ⊢
  obtain ⟨store, hstore, hq⟩ := Except.bind_eq_ok h
  cases hq
  have hplace : ∀ v w : EncryptedValue α, (if v.column.isWebAuthn then
      changeKeyValue .legacy .none .none .legacy v else .ok v) = .ok w → w.place = v.place := by
    intro v w hvw
    split at hvw
    · exact place_of_changeKeyValue hvw
    · cases hvw
      rfl
  simp only [filterStore, List.mapM_filter_eq_ok keep hplace hstore]
  rfl

theorem filterCommutes_migrationSpecialDown25 :
    FilterCommutes (migrationSpecialDown25 (α := α)) := by
  intro keep p q prior before after target h
  simp only [migrationSpecialDown25] at h ⊢
  split_ifs at h ⊢
  · cases h
    rfl
  · exact schemaEncryptionChangeKeyAdvanced_bind_filterStore keep p h
  · cases h
    rfl

theorem filterCommutes_migrationSpecialUp25 : FilterCommutes (migrationSpecialUp25 (α := α)) := by
  intro keep p q prior before after target h
  simp only [migrationSpecialUp25] at h ⊢
  split_ifs at h ⊢
  · cases h
    rfl
  · exact schemaEncryptionChangeKeyAdvanced_bind_filterStore keep { p with keys := .legacy } h
  · exact schemaEncryptionChangeKeyAdvanced_bind_filterStore keep p h

theorem filterCommutes_migrationSpecialUp26 : FilterCommutes (migrationSpecialUp26 (α := α)) := by
  intro keep p q prior before after target h
  simp only [migrationSpecialUp26] at h ⊢
  split_ifs at h ⊢
  · exact schemaEncryptionChangeKeyAdvanced_bind_filterStore keep p h
  · exact schemaEncryptionChangeKeyAdvanced_bind_filterStore keep { p with keys := .legacy } h
  · exact schemaEncryptionChangeKeyAdvanced_bind_filterStore keep p h

theorem filterCommutes_migrationSpecialDown26 :
    FilterCommutes (migrationSpecialDown26 (α := α)) := by
  intro keep p q prior before after target h
  simp only [migrationSpecialDown26] at h ⊢
  split_ifs at h ⊢
  · cases h
    rfl
  · exact schemaEncryptionChangeKeyAdvanced_bind_filterStore keep p h
  · exact schemaEncryptionChangeKeyAdvanced_bind_filterStore keep p h

theorem filterCommutes_of_migrationsSpecial {m : SchemaMigration}
    {specials : List (fSchemaMigration α)}
    (hs : (if m.up then migrationsSpecialUp m.version else migrationsSpecialDown m.version) =
      some specials) :
    ∀ special ∈ specials, FilterCommutes special := by
  obtain ⟨version, up⟩ := m
  cases up
  · simp only [Bool.false_eq_true, if_false] at hs
    unfold migrationsSpecialDown at hs
    split at hs <;> cases hs <;>
      simp [filterCommutes_migrationSpecialDown25, filterCommutes_migrationSpecialDown26]
  · simp only [if_true] at hs
    unfold migrationsSpecialUp at hs
    split at hs <;> cases hs <;>
      simp [filterCommutes_migrationSpecialUp24, filterCommutes_migrationSpecialUp25,
        filterCommutes_migrationSpecialUp26]

namespace SQLProvider

variable (keep : EncryptedColumn × List Char × List Char → Bool) (p : SQLProvider α)
  (prior target : Nat) (valueClearText : α)

theorem foldlM_specials_filterStore {specials : List (fSchemaMigration α)}
    (hs : ∀ special ∈ specials, FilterCommutes special) {before after : Nat} :
    ∀ {p q : SQLProvider α},
      specials.foldlM (fun p special => special p prior before after target) p = .ok q →
      specials.foldlM (fun p special => special p prior before after target) (p.filterStore keep) =
        .ok (q.filterStore keep) := by
  induction specials with
  | nil =>
    intro p q h
    cases h
    rfl
  | cons special specials ih =>
    intro p q h
    rw [List.foldlM_cons] at h ⊢
    obtain ⟨p', hp', hrest⟩ := Except.bind_eq_ok h
    rw [hs special List.mem_cons_self keep p p' _ _ _ _ hp', Except.ok_bind]
    exact ih (fun s hs' => hs s (List.mem_cons_of_mem _ hs')) hrest

theorem schemaMigrateApplySpecial_filterStore {m : SchemaMigration} {q : SQLProvider α}
    (h : p.schemaMigrateApplySpecial m prior target = .ok q) :
    (p.filterStore keep).schemaMigrateApplySpecial m prior target = .ok (q.filterStore keep) := by
  unfold schemaMigrateApplySpecial at h ⊢
  cases hs : (if m.up then migrationsSpecialUp m.version else migrationsSpecialDown m.version :
      Option (List (fSchemaMigration α))) with
  | none =>
    simp only [hs] at h
    cases h
    rfl
  | some specials =>
    simp only [hs] at h
    exact foldlM_specials_filterStore keep prior target (filterCommutes_of_migrationsSpecial hs) h

theorem setNewEncryptionCheckValue_filterStore
    (hcheck : keep (.encryptionValue, encryptionNameCheck, []) = true) (key : DerivedKey)
    (aad : EncryptionAAD) :
    (p.filterStore keep).setNewEncryptionCheckValue key aad valueClearText =
      (p.setNewEncryptionCheckValue key aad valueClearText).filterStore keep := by
  simp only [setNewEncryptionCheckValue, filterStore, List.filter_append, List.filter_filter,
    List.filter_singleton, EncryptedValue.place, hcheck, cond_true]
  congr 2
  exact List.filter_congr fun v _ => Bool.and_comm _ _

theorem schemaMigrateApplyStages_filterStore {m : SchemaMigration} {q : SQLProvider α}
    (hcheck : m.version = 1 ∧ m.up = true →
      keep (.encryptionValue, encryptionNameCheck, []) = true)
    (h : p.schemaMigrateApplyStages m prior target valueClearText = .ok q) :
    (p.filterStore keep).schemaMigrateApplyStages m prior target valueClearText =
      .ok (q.filterStore keep) := by
  have hmapError : ∀ x : Except DecryptError (SQLProvider α),
      x.mapError SchemaError.decrypt = .ok q → x = .ok q := by
    intro x hx
    cases x <;> cases hx
    rfl
  unfold schemaMigrateApplyStages at h ⊢
  simp only [filterStore_keys] at h ⊢
  by_cases hone : m.version = 1 ∧ m.up = true
  · rw [if_pos hone] at h ⊢
    rw [setNewEncryptionCheckValue_filterStore keep p valueClearText (hcheck hone),
      schemaMigrateApplySpecial_filterStore keep _ prior target (hmapError _ h)]
    rfl
  · rw [if_neg hone] at h ⊢
    rw [schemaMigrateApplySpecial_filterStore keep p prior target (hmapError _ h)]
    rfl

theorem foldlM_schemaMigrateApply_filterStore (deletesRow : RowDeletion) :
    ∀ {ms : List SchemaMigration} {p q : SQLProvider α}
      (keep : EncryptedColumn × List Char × List Char → Bool),
      (⟨1, true⟩ ∈ ms → keep (.encryptionValue, encryptionNameCheck, []) = true ∧
        ∀ m ∈ ms, keepsPlace deletesRow m (.encryptionValue, encryptionNameCheck, []) = true) →
      ms.foldlM (fun p m => p.schemaMigrateApplyStages m prior target valueClearText) p = .ok q →
      ms.foldlM (fun p m => p.schemaMigrateApply deletesRow m prior target valueClearText)
          (p.filterStore keep) =
        .ok (q.filterStore fun place => keep place && ms.all fun m => keepsPlace deletesRow m place)
  | [], p, q, keep, _, h => by
    cases h
    simp only [List.all_nil, Bool.and_true]
    rfl
  | m :: ms, p, q, keep, hcheck, h => by
    rw [List.foldlM_cons] at h
    obtain ⟨p₁, hp₁, hrest⟩ := Except.bind_eq_ok h
    -- the SQL of `m` joins the pending filter, which the stages of `m` then carry past
    have hstep : (p.filterStore keep).schemaMigrateApply deletesRow m prior target valueClearText =
        .ok (p₁.filterStore fun place => keep place && keepsPlace deletesRow m place) := by
      rw [schemaMigrateApply, migrationQuery, filterStore_filterStore]
      refine schemaMigrateApplyStages_filterStore _ p prior target valueClearText
        (fun hone => ?_) hp₁
      have hm : m = ⟨1, true⟩ := by
        obtain ⟨version, up⟩ := m
        simp_all
      obtain ⟨hkeep, hall⟩ := hcheck (hm ▸ List.mem_cons_self)
      simp [hkeep, hall m List.mem_cons_self]
    have hcheck' : ⟨1, true⟩ ∈ ms → (keep (.encryptionValue, encryptionNameCheck, []) &&
        keepsPlace deletesRow m (.encryptionValue, encryptionNameCheck, [])) = true ∧
        ∀ m ∈ ms, keepsPlace deletesRow m (.encryptionValue, encryptionNameCheck, []) = true := by
      intro hone
      obtain ⟨hkeep, hall⟩ := hcheck (List.mem_cons_of_mem _ hone)
      exact ⟨by simp [hkeep, hall m List.mem_cons_self],
        fun m' hm' => hall m' (List.mem_cons_of_mem _ hm')⟩
    rw [List.foldlM_cons, hstep, Except.ok_bind,
      foldlM_schemaMigrateApply_filterStore deletesRow _ hcheck' hrest]
    simp only [List.all_cons, Bool.and_assoc]

end SQLProvider

/-! ## The run -/

/-- The migrations that touch encrypted values, in the order of the listing: version 1 up writes
the check value, and the others have special stages. -/
def encryptionStages : List SchemaMigration :=
  [⟨1, true⟩, ⟨24, true⟩, ⟨25, false⟩, ⟨25, true⟩, ⟨26, false⟩, ⟨26, true⟩]

/-- The stages of `encryptionStages` that a run from `prior` to `target` applies, in its order. -/
def stagesOf (prior target : Nat) : List SchemaMigration :=
  let stages := encryptionStages.filter fun m => !skipMigration (decide (prior < target)) target prior m
  if prior < target then stages else stages.reverse

theorem stagesOf_of_lt {prior target : Nat} (h : prior < target) :
    stagesOf prior target = [⟨1, true⟩, ⟨24, true⟩, ⟨25, true⟩, ⟨26, true⟩].filter
      fun m => decide (prior < m.version ∧ m.version ≤ target) := by
  have hup : encryptionStages.filter (·.up) = [⟨1, true⟩, ⟨24, true⟩, ⟨25, true⟩, ⟨26, true⟩] :=
    rfl
  rw [← hup, List.filter_filter]
  simp only [stagesOf, h, decide_true, if_true]
  refine List.filter_congr fun ⟨v, up⟩ _ => ?_
  cases up
  · simp [skipMigration]
  · rw [Bool.eq_iff_iff]
    simp [skipMigration]
    omega

theorem stagesOf_of_gt {prior target : Nat} (h : target < prior) :
    stagesOf prior target = [⟨26, false⟩, ⟨25, false⟩].filter
      fun m => decide (target < m.version ∧ m.version ≤ prior) := by
  have hdown : (encryptionStages.filter (!·.up)).reverse = [⟨26, false⟩, ⟨25, false⟩] := rfl
  rw [← hdown, List.filter_reverse, List.filter_filter]
  simp only [stagesOf, show ¬prior < target by omega, decide_false, if_false]
  congr 1
  refine List.filter_congr fun ⟨v, up⟩ _ => ?_
  cases up
  · rw [Bool.eq_iff_iff]
    simp [skipMigration]
  · simp [skipMigration]

theorem latestMigrationVersion_eq : latestMigrationVersion = 26 := by decide

theorem filter_migrationFiles_encryptionStages (q : SchemaMigration → Bool) :
    (migrationFiles.filter q).filter (· ∈ encryptionStages) = encryptionStages.filter q := by
  have hstages : migrationFiles.filter (· ∈ encryptionStages) = encryptionStages := by decide
  rw [List.filter_filter, ← hstages, List.filter_filter]
  exact List.filter_congr fun m _ => Bool.and_comm _ _

theorem filter_loadMigrations {prior target : Nat} {ms : List SchemaMigration}
    (h : loadMigrations prior target = .ok ms) :
    ms.filter (· ∈ encryptionStages) = stagesOf prior target := by
  unfold loadMigrations at h
  split at h
  · cases h
  · cases h
    by_cases hup : prior < target
    · simp only [stagesOf, hup, decide_true, if_true]
      exact filter_migrationFiles_encryptionStages _
    · simp only [stagesOf, hup, decide_false, if_false, Bool.false_eq_true]
      rw [List.filter_reverse, filter_migrationFiles_encryptionStages]

theorem loadMigrations_ne_nil {prior target : Nat} (hne : prior ≠ target)
    (hprior : prior ≤ latestMigrationVersion)
    (htarget : prior = 0 ∨ target ≤ latestMigrationVersion) :
    ∃ ms, loadMigrations prior target = .ok ms ∧ ms ≠ [] := by
  rw [latestMigrationVersion_eq] at hprior htarget
  unfold loadMigrations
  simp only [hne, if_false]
  refine ⟨_, rfl, ?_⟩
  by_cases hup : prior < target
  · simp only [hup, decide_true, if_true]
    apply List.ne_nil_of_mem (a := (⟨min target 26, true⟩ : SchemaMigration))
    simp only [migrationFiles, List.mem_filter, List.mem_flatMap, List.mem_range'_1,
      List.mem_cons, skipMigration]
    refine ⟨⟨min target 26, ⟨by omega, by omega⟩, by simp⟩, ?_⟩
    simp
    omega
  · simp only [hup, decide_false, if_false, Bool.false_eq_true]
    apply List.ne_nil_of_mem (a := (⟨prior, false⟩ : SchemaMigration))
    simp only [List.mem_reverse, migrationFiles, List.mem_filter, List.mem_flatMap,
      List.mem_range'_1, List.mem_cons, skipMigration]
    refine ⟨⟨prior, ⟨by omega, by omega⟩, by simp⟩, ?_⟩
    simp
    omega

/-! ## Migration paths in any directory

`loadMigrations` reads the entries of the provider's directory; `loadMigrationsIn` takes them as a
list in any order, and sorts what it keeps by version as `sort.Slice` does. Over a directory of
versions `1..L`, an upgrade is the contiguous path of up migrations from `prior` to `min target L`
and a downgrade the path of down migrations from `min prior L` to `target` (`loadMigrationsIn_eq`);
the embedded directory is the case `L = 26` (`loadMigrations_eq_loadMigrationsIn`). -/

/-- `loadMigrations` over the entries of a provider's directory, listed in any order. -/
def loadMigrationsIn (entries : List SchemaMigration) (prior target : Nat) :
    Except SchemaError (List SchemaMigration) :=
  if prior = target then .error .migrateCurrentVersionSameAsTarget
  else
    let up := decide (prior < target)
    let migrations := entries.filter fun m => !skipMigration up target prior m
    .ok (if up then migrations.mergeSort fun a b => decide (a.version ≤ b.version)
      else migrations.mergeSort fun a b => decide (b.version ≤ a.version))

def upPath (prior target L : Nat) : List SchemaMigration :=
  (List.range' (prior + 1) (min target L - prior)).map fun v => ⟨v, true⟩

def downPath (prior target L : Nat) : List SchemaMigration :=
  ((List.range' (target + 1) (min prior L - target)).map fun v => ⟨v, false⟩).reverse

theorem mergeSort_eq_of_perm {β : Type} {le : β → β → Bool}
    (htrans : ∀ a b c, le a b = true → le b c = true → le a c = true)
    (htotal : ∀ a b, (le a b || le b a) = true) {l s : List β} (hperm : l.Perm s)
    (hs : s.Pairwise fun a b => le a b = true)
    (hanti : ∀ a ∈ l, ∀ b ∈ s, le a b = true → le b a = true → a = b) :
    l.mergeSort le = s := by
  have hsorted := List.pairwise_mergeSort htrans htotal l
  have hperm' := (List.mergeSort_perm l le).trans hperm
  refine List.Perm.eq_of_pairwise (fun a b ha hb => ?_) hsorted hs hperm'
  exact hanti a ((List.mergeSort_perm l le).subset ha) b hb

section Paths
variable {prior target L : Nat}

theorem mem_upPath {m : SchemaMigration} :
    m ∈ upPath prior target L ↔ m.up = true ∧ prior < m.version ∧ m.version ≤ min target L := by
  obtain ⟨v, up⟩ := m
  simp only [upPath, List.mem_map, List.mem_range'_1, SchemaMigration.mk.injEq]
  constructor
  · rintro ⟨w, hw, rfl, rfl⟩
    exact ⟨rfl, by omega, by omega⟩
  · rintro ⟨rfl, h₁, h₂⟩
    exact ⟨v, by omega, rfl, rfl⟩

theorem mem_downPath {m : SchemaMigration} :
    m ∈ downPath prior target L ↔ m.up = false ∧ target < m.version ∧ m.version ≤ min prior L := by
  obtain ⟨v, up⟩ := m
  simp only [downPath, List.mem_reverse, List.mem_map, List.mem_range'_1,
    SchemaMigration.mk.injEq]
  constructor
  · rintro ⟨w, hw, rfl, rfl⟩
    exact ⟨rfl, by omega, by omega⟩
  · rintro ⟨rfl, h₁, h₂⟩
    exact ⟨v, by omega, rfl, rfl⟩

theorem nodup_upPath : (upPath prior target L).Nodup :=
  List.Nodup.map (fun _ _ h => (SchemaMigration.mk.inj h).1) List.nodup_range'

theorem nodup_downPath : (downPath prior target L).Nodup :=
  List.nodup_reverse.mpr
    (List.Nodup.map (fun _ _ h => (SchemaMigration.mk.inj h).1) List.nodup_range')

@[simp] theorem length_upPath : (upPath prior target L).length = min target L - prior := by
  simp [upPath]

@[simp] theorem length_downPath : (downPath prior target L).length = min prior L - target := by
  simp [downPath]

theorem getElem_upPath {i : Nat} (hi : i < (upPath prior target L).length) :
    (upPath prior target L)[i] = ⟨prior + 1 + i, true⟩ := by
  simp [upPath]

theorem getElem_downPath {i : Nat} (hi : i < (downPath prior target L).length) :
    (downPath prior target L)[i] = ⟨min prior L - i, false⟩ := by
  simp only [length_downPath] at hi
  simp only [downPath, List.getElem_reverse, List.getElem_map, List.getElem_range',
    List.length_map, List.length_range', SchemaMigration.mk.injEq, and_true]
  omega

end Paths

section Directory
variable {entries : List SchemaMigration} {L : Nat}

theorem mem_filter_skipMigration
    (hentries : ∀ m, m ∈ entries ↔ 1 ≤ m.version ∧ m.version ≤ L) {prior target : Nat}
    (m : SchemaMigration) :
    m ∈ entries.filter (fun m => !skipMigration (decide (prior < target)) target prior m) ↔
      m ∈ (if prior < target then upPath prior target L else downPath prior target L) := by
  rw [List.mem_filter, hentries]
  obtain ⟨v, up⟩ := m
  by_cases hup : prior < target
  · rw [if_pos hup, mem_upPath]
    cases up <;> simp [skipMigration, hup]
    omega
  · rw [if_neg hup, mem_downPath]
    cases up <;> simp [skipMigration, hup]
    omega

theorem loadMigrationsIn_eq (hnodup : entries.Nodup)
    (hentries : ∀ m, m ∈ entries ↔ 1 ≤ m.version ∧ m.version ≤ L) {prior target : Nat}
    (hne : prior ≠ target) :
    loadMigrationsIn entries prior target =
      .ok (if prior < target then upPath prior target L else downPath prior target L) := by
  have hmem : ∀ m, m ∈ entries.filter
      (fun m => !skipMigration (decide (prior < target)) target prior m) ↔
      m ∈ (if prior < target then upPath prior target L else downPath prior target L) :=
    mem_filter_skipMigration hentries
  have hkept := hnodup.filter fun m => !skipMigration (decide (prior < target)) target prior m
  unfold loadMigrationsIn
  rw [if_neg hne]
  by_cases hup : prior < target
  · simp only [hup, decide_true, if_true] at hmem hkept ⊢
    -- the kept migrations are the up path, which is already sorted
    have hperm := (List.perm_ext_iff_of_nodup hkept nodup_upPath).mpr hmem
    refine congrArg Except.ok (mergeSort_eq_of_perm (fun _ _ _ => by simp; omega)
      (fun _ _ => by simp; omega) hperm ?_ fun a ha b hb hab hba => ?_)
    · rw [upPath, List.pairwise_map]
      exact (List.pairwise_le_range' 1).imp fun h => by simpa using h
    · have ha' := mem_upPath.mp ((hmem a).mp ha)
      have hb' := mem_upPath.mp hb
      cases a
      cases b
      simp_all
      omega
  · simp only [hup, decide_false, if_false, Bool.false_eq_true] at hmem hkept ⊢
    have hperm := (List.perm_ext_iff_of_nodup hkept nodup_downPath).mpr hmem
    refine congrArg Except.ok (mergeSort_eq_of_perm (fun _ _ _ => by simp; omega)
      (fun _ _ => by simp; omega) hperm ?_ fun a ha b hb hab hba => ?_)
    · rw [downPath, List.pairwise_reverse, List.pairwise_map]
      exact (List.pairwise_le_range' 1).imp fun h => by simpa using h
    · have ha' := mem_downPath.mp ((hmem a).mp ha)
      have hb' := mem_downPath.mp hb
      cases a
      cases b
      simp_all
      omega

end Directory

theorem up_of_mem_filter_skipMigration {l : List SchemaMigration} {up : Bool} {prior target : Nat}
    {m : SchemaMigration} (h : m ∈ l.filter fun m => !skipMigration up target prior m) :
    m.up = up := by
  have hkeep := (List.mem_filter.mp h).2
  cases up <;> cases hm : m.up <;> simp_all [skipMigration]

theorem loadMigrations_eq_loadMigrationsIn (prior target : Nat) :
    loadMigrations prior target = loadMigrationsIn migrationFiles prior target := by
  have hfiles : migrationFiles.Pairwise fun a b => a.version ≤ b.version := by decide
  unfold loadMigrations loadMigrationsIn
  split
  · rfl
  · -- two kept migrations of one version are the same file
    have hanti : ∀ a ∈ migrationFiles.filter fun m =>
        !skipMigration (decide (prior < target)) target prior m, ∀ b ∈ migrationFiles.filter
          fun m => !skipMigration (decide (prior < target)) target prior m,
        a.version = b.version → a = b := by
      intro a ha b hb hab
      have ha' := up_of_mem_filter_skipMigration ha
      have hb' := up_of_mem_filter_skipMigration hb
      cases a
      cases b
      simp_all
    dsimp only
    split
    · refine congrArg Except.ok (mergeSort_eq_of_perm (fun _ _ _ => by simp; omega)
        (fun _ _ => by simp; omega) (List.Perm.refl _) ?_ fun a ha b hb _ _ => ?_).symm
      · exact (hfiles.filter _).imp fun h => by simpa using h
      · exact hanti a ha b hb (by simp_all; omega)
    · refine congrArg Except.ok (mergeSort_eq_of_perm (fun _ _ _ => by simp; omega)
        (fun _ _ => by simp; omega) (List.reverse_perm _).symm ?_ fun a ha b hb _ _ => ?_).symm
      · rw [List.pairwise_reverse]
        exact (hfiles.filter _).imp fun h => by simpa using h
      · exact hanti a ha b (List.mem_reverse.mp hb) (by simp_all; omega)

theorem mem_migrationFiles (m : SchemaMigration) :
    m ∈ migrationFiles ↔ 1 ≤ m.version ∧ m.version ≤ 26 := by
  obtain ⟨v, up⟩ := m
  cases up <;> simp [migrationFiles, List.mem_flatMap, List.mem_range'_1] <;> omega

/-- Over a directory of versions `1..L`, the migrations of a run form one path: all in the run's
direction, each starting where the one before ended, from `min prior L` to `min target L` going up
and to `target` going down, with no version twice. -/
theorem loadMigrationsIn_contiguous (entries : List SchemaMigration) (L : Nat)
    (hnodup : entries.Nodup) (hentries : ∀ m, m ∈ entries ↔ 1 ≤ m.version ∧ m.version ≤ L)
    (prior target : Nat) (hne : prior ≠ target) :
    ∃ ms, loadMigrationsIn entries prior target = .ok ms ∧
      (ms ≠ [] ↔ min prior target < min (max prior target) L) ∧
      (∀ m ∈ ms, m.up = decide (prior < target)) ∧
      (∀ h : 0 < ms.length, ms[0].before = min prior L) ∧
      (∀ i (h : i + 1 < ms.length), ms[i].after = ms[i + 1].before) ∧
      (∀ h : 0 < ms.length,
        ms[ms.length - 1].after = if prior < target then min target L else target) ∧
      (ms.map (·.version)).Nodup := by
  refine ⟨_, loadMigrationsIn_eq hnodup hentries hne, ?_⟩
  by_cases hup : prior < target
  · rw [if_pos hup]
    refine ⟨?_, fun m hm => ?_, fun h => ?_, fun i h => ?_, fun h => ?_, ?_⟩
    · rw [← List.length_pos_iff, length_upPath]
      omega
    · simp [(mem_upPath.mp hm).1, hup]
    · simp only [length_upPath] at h
      simp [getElem_upPath, SchemaMigration.before]
      omega
    · simp [getElem_upPath, SchemaMigration.before, SchemaMigration.after]
    · simp only [length_upPath] at h
      simp [getElem_upPath, SchemaMigration.after, hup]
      omega
    · simpa [upPath, List.map_map, Function.comp_def] using List.nodup_range'
  · rw [if_neg hup]
    refine ⟨?_, fun m hm => ?_, fun _ => ?_, fun i h => ?_, fun h => ?_, ?_⟩
    · rw [← List.length_pos_iff, length_downPath]
      omega
    · simp [(mem_downPath.mp hm).1, hup]
    · simp [getElem_downPath, SchemaMigration.before]
    · simp only [length_downPath] at h
      simp [getElem_downPath, SchemaMigration.before, SchemaMigration.after]
      omega
    · simp only [length_downPath] at h
      simp [getElem_downPath, SchemaMigration.after, hup]
      omega
    · simpa [downPath, List.map_map, Function.comp_def] using List.nodup_range'

theorem loadMigrationsIn_contiguous_latest :
    ∃ ms, loadMigrationsIn migrationFiles 24 2147483647 = .ok ms ∧ ms ≠ [] ∧
      ∀ h : 0 < ms.length, ms[ms.length - 1].after = 26 := by
  obtain ⟨ms, hms, hne, -, -, -, hlast, -⟩ := loadMigrationsIn_contiguous migrationFiles 26
    (by decide) mem_migrationFiles 24 2147483647 (by decide)
  refine ⟨ms, hms, hne.mpr (by decide), fun h => ?_⟩
  rw [hlast h]
  rfl

theorem loadMigrationsIn_downgrade_from_27 :
    (loadMigrationsIn migrationFiles 27 0).map (fun ms => ms.head?.map SchemaMigration.before) =
      .ok (some 26) := by
  rw [loadMigrationsIn_eq (by decide) mem_migrationFiles (by decide)]
  rfl

namespace SQLProvider

variable (p : SQLProvider α) (prior target : Nat) (valueClearText : α)

theorem schemaMigrateApplyStages_of_not_mem {m : SchemaMigration} (hm : m ∉ encryptionStages) :
    p.schemaMigrateApplyStages m prior target valueClearText = .ok p := by
  obtain ⟨version, up⟩ := m
  have hcheck : ¬(version = 1 ∧ up = true) := by
    rintro ⟨rfl, rfl⟩
    simp [encryptionStages] at hm
  have hspecial : (if up then migrationsSpecialUp version else migrationsSpecialDown version :
      Option (List (fSchemaMigration α))) = none := by
    cases up
    · unfold migrationsSpecialDown
      split <;> simp_all [encryptionStages]
    · unfold migrationsSpecialUp
      split <;> simp_all [encryptionStages]
  simp only [schemaMigrateApplyStages, hcheck, if_false, schemaMigrateApplySpecial, hspecial]
  rfl

theorem foldlM_schemaMigrateApplyStages {ms : List SchemaMigration}
    (hms : loadMigrations prior target = .ok ms) :
    ms.foldlM (fun p m => p.schemaMigrateApplyStages m prior target valueClearText) p =
      (stagesOf prior target).foldlM
        (fun p m => p.schemaMigrateApplyStages m prior target valueClearText) p := by
  rw [← filter_loadMigrations hms, List.foldlM_filter]
  have hskip : (fun (q : SQLProvider α) m => if m ∈ encryptionStages then
      q.schemaMigrateApplyStages m prior target valueClearText else pure q) =
      fun q m => q.schemaMigrateApplyStages m prior target valueClearText := by
    funext q m
    by_cases hm : m ∈ encryptionStages
    · simp [hm]
    · rw [if_neg (by simpa using hm), schemaMigrateApplyStages_of_not_mem _ _ _ _ hm]
      rfl
  simp only [decide_eq_true_eq, hskip]

theorem schemaMigrate_eq (deletesRow : RowDeletion) {ms : List SchemaMigration}
    (hms : loadMigrations prior target = .ok ms) (hnil : ms ≠ []) :
    p.schemaMigrate deletesRow prior target valueClearText =
      ms.foldlM (fun p m => p.schemaMigrateApply deletesRow m prior target valueClearText) p := by
  simp [schemaMigrate, hms, List.isEmpty_iff, hnil]

end SQLProvider

/-! ## Whole runs -/

/-- The key of the scheme a schema version stores its values under: the legacy derivation below
25, HKDF from 25 on. -/
def schemeKey (version : Nat) : DerivedKey :=
  if version < schemaVersionEncryptionKeyDerivation then .legacy else .hkdf

/-- The check value a fresh schema writes for `target`, in the target's scheme. -/
def checkValue (target : Nat) (valueClearText : α) : EncryptedValue α :=
  { column := .encryptionValue, row := encryptionNameCheck,
    value := some (encrypt valueClearText
      ((aadForSchemaVersion target).get tableEncryption columnValue encryptionNameCheck)
      (schemeKey target)) }

theorem sealedUnder_checkValue (target : Nat) (valueClearText : α) :
    (checkValue target valueClearText).sealedUnder (schemeKey target)
      (aadForSchemaVersion target) = true := by
  simp [checkValue, EncryptedValue.sealedUnder, EncryptedColumn.aad, encrypt]

theorem schemeKey_of_lt {version : Nat} (h : version < schemaVersionEncryptionKeyDerivation) :
    schemeKey version = .legacy := if_pos h

theorem schemeKey_of_le {version : Nat} (h : schemaVersionEncryptionKeyDerivation ≤ version) :
    schemeKey version = .hkdf := if_neg (Nat.not_lt.mpr h)

theorem aadForSchemaVersion_of_lt {version : Nat}
    (h : version < schemaVersionEncryptionKeyDerivation) : aadForSchemaVersion version = .none :=
  if_pos h

theorem aadForSchemaVersion_of_rowScoped {version : Nat}
    (h : schemaVersionEncryptionAADRowScoped ≤ version) : aadForSchemaVersion version = .row := by
  unfold schemaVersionEncryptionAADRowScoped at h
  unfold aadForSchemaVersion schemaVersionEncryptionKeyDerivation
    schemaVersionEncryptionAADRowScoped
  rw [if_neg (by omega), if_neg (by omega)]

namespace SQLProvider

variable (p : SQLProvider α) (prior target : Nat) (valueClearText : α)

theorem schemaMigrateApplyStages_of_special {m : SchemaMigration} {special : fSchemaMigration α}
    {q : SQLProvider α} (hm : ¬(m.version = 1 ∧ m.up = true))
    (hspecial : (if m.up then migrationsSpecialUp m.version else migrationsSpecialDown m.version) =
      some [special])
    (h : special p prior m.before m.after target = .ok q) :
    p.schemaMigrateApplyStages m prior target valueClearText = .ok q := by
  simp only [schemaMigrateApplyStages, hm, if_false, schemaMigrateApplySpecial, hspecial,
    List.foldlM_cons, List.foldlM_nil, h]
  rfl

end SQLProvider

open SQLProvider EncryptedValue

section Runs

variable {prior target : Nat} {store : List (EncryptedValue α)} (valueClearText : α)

theorem foldlM_stages_fresh (htarget : target ≠ 0) :
    (stagesOf 0 target).foldlM (fun p m => p.schemaMigrateApplyStages m 0 target valueClearText)
      (newSQLProvider []) = .ok { keys := .hkdf, aad := .row, store := [checkValue target valueClearText] } := by
  let p₁ : SQLProvider α := { keys := .hkdf, aad := .row, store := [checkValue target valueClearText] }
  have hsealed : SealedStore (schemeKey target) (aadForSchemaVersion target) p₁.store := by
    simp [SealedStore, p₁, sealedUnder_checkValue]
  have hone : (newSQLProvider []).schemaMigrateApplyStages ⟨1, true⟩ 0 target valueClearText = .ok p₁ := by
    simp only [schemaMigrateApplyStages, and_self, if_true, setNewEncryptionCheckValue, newSQLProvider,
      List.filter_nil, List.nil_append, schemaMigrateApplySpecial, migrationsSpecialUp]
    rfl
  have hstay : ∀ m ∈ encryptionStages.tail.filter (fun m => !skipMigration true target 0 m),
      p₁.schemaMigrateApplyStages m 0 target valueClearText = .ok p₁ := by
    intro m hm
    obtain ⟨hm, hkeep⟩ := List.mem_filter.mp hm
    have hcheck : ∀ v ∈ p₁.store, v.column = .encryptionValue := by simp [p₁, checkValue]
    simp only [encryptionStages, List.tail_cons, List.mem_cons, List.not_mem_nil, or_false] at hm
    rcases hm with rfl | rfl | rfl | rfl | rfl
    · exact schemaMigrateApplyStages_of_special _ _ _ _ (by decide) rfl
        (migrationSpecialUp24_eq _ _ _ _ _ fun v hv => by simp [hcheck v hv, EncryptedColumn.isWebAuthn])
    · simp [skipMigration] at hkeep
    · by_cases h25 : schemaVersionEncryptionKeyDerivation < target
      · exact schemaMigrateApplyStages_of_special _ _ _ _ (by decide) rfl
          (migrationSpecialUp25_of_lt _ _ _ _ _ h25)
      · have ht : target = 25 := by
          simp [skipMigration] at hkeep
          unfold schemaVersionEncryptionKeyDerivation at h25
          omega
        subst ht
        have hcolumn : SealedStore p₁.keys .column p₁.store := hsealed
        have hstage := migrationSpecialUp25_of_fresh p₁ 24 25 25 le_rfl
          (SealedStore.decryptFor_init hcolumn hcheck)
        rw [SealedStore.map_reseal hcolumn] at hstage
        exact schemaMigrateApplyStages_of_special _ _ _ _ (by decide) rfl hstage
    · simp [skipMigration] at hkeep
    · have ht : 26 ≤ target := by simpa [skipMigration] using hkeep
      rw [aadForSchemaVersion_of_rowScoped ht,
        schemeKey_of_le (by unfold schemaVersionEncryptionKeyDerivation; omega)] at hsealed
      have hstage := migrationSpecialUp26_of_fresh p₁ 25 26 target hsealed
      rw [SealedStore.map_reseal hsealed] at hstage
      exact schemaMigrateApplyStages_of_special _ _ _ _ (by decide) rfl hstage
  have hs : stagesOf 0 target = ⟨1, true⟩ ::
      encryptionStages.tail.filter (fun m => !skipMigration true target 0 m) := by
    have hpos : 0 < target := Nat.pos_of_ne_zero htarget
    simp only [stagesOf, hpos, decide_true, if_true, encryptionStages, List.tail_cons]
    rw [List.filter_cons_of_pos (by simp [skipMigration]; omega)]
  rw [hs, List.foldlM_cons, hone, Except.ok_bind]
  exact List.foldlM_eq_pure_of_forall hstay

theorem foldlM_stages_upgrade (hprior : 1 ≤ prior) (hlt : prior < target) (htarget : target ≤ 26)
    (hsealed : SealedStore (schemeKey prior) (aadForSchemaVersion prior) store) :
    ∃ q, (stagesOf prior target).foldlM
        (fun p m => p.schemaMigrateApplyStages m prior target valueClearText)
        (newSQLProvider store) = .ok q ∧
      SealedStore (schemeKey target) (aadForSchemaVersion target) q.store ∧
      q.store.map clear = store.map clear ∧ q.keys = .hkdf := by
  -- below 25 the prior scheme is the legacy key with no AAD, which version 24 reads under
  have hlegacy : prior < 25 → SealedStore .legacy .none store := fun h => by
    rwa [schemeKey_of_lt h, aadForSchemaVersion_of_lt h] at hsealed
  have h24 : prior < 24 → (newSQLProvider store).schemaMigrateApplyStages ⟨24, true⟩ prior target
      valueClearText = .ok (newSQLProvider store) := fun h =>
    schemaMigrateApplyStages_of_special _ _ _ _ (by decide) rfl
      (migrationSpecialUp24_eq _ _ _ _ _ fun v hv _ => hlegacy (by omega) v hv)
  rcases (by omega : target < 24 ∨ target = 24 ∨ target = 25 ∨ target = 26) with
    ht | rfl | rfl | rfl
  · -- no stage runs, and both schemes are the legacy one
    have hs : stagesOf prior target = [] := by
      rw [stagesOf_of_lt hlt, List.filter_cons_of_neg (by simp; omega),
        List.filter_cons_of_neg (by simp; omega), List.filter_cons_of_neg (by simp; omega),
        List.filter_cons_of_neg (by simp; omega), List.filter_nil]
    have hnone : SealedStore (schemeKey target) (aadForSchemaVersion target) store := by
      rw [schemeKey_of_lt (by unfold schemaVersionEncryptionKeyDerivation; omega),
        aadForSchemaVersion_of_lt (by unfold schemaVersionEncryptionKeyDerivation; omega)]
      exact hlegacy (by omega)
    rw [hs]
    exact ⟨_, rfl, hnone, rfl, rfl⟩
  · -- version 24 only reads the credentials
    have hs : stagesOf prior 24 = [⟨24, true⟩] := by
      rw [stagesOf_of_lt hlt, List.filter_cons_of_neg (by simp; omega),
        List.filter_cons_of_pos (by simp; omega), List.filter_cons_of_neg (by simp),
        List.filter_cons_of_neg (by simp), List.filter_nil]
    rw [hs, List.foldlM_cons, h24 (by omega), Except.ok_bind]
    exact ⟨_, rfl, hlegacy (by omega), rfl, rfl⟩
  · -- version 25 seals the values again under the column scheme
    have h25 := schemaMigrateApplyStages_of_special (newSQLProvider store) prior 25 valueClearText
      (m := ⟨25, true⟩) (by decide) rfl
      (migrationSpecialUp25_of_legacy _ _ _ _ _ le_rfl (by omega) (hlegacy (by omega)))
    have hresult : SealedStore .hkdf .column (store.map (·.reseal .column .hkdf)) :=
      (hlegacy (by omega)).reseal
    rcases (by omega : prior < 24 ∨ prior = 24) with hp | rfl
    · have hs : stagesOf prior 25 = [⟨24, true⟩, ⟨25, true⟩] := by
        rw [stagesOf_of_lt hlt, List.filter_cons_of_neg (by simp; omega),
          List.filter_cons_of_pos (by simp; omega), List.filter_cons_of_pos (by simp; omega),
          List.filter_cons_of_neg (by simp), List.filter_nil]
      rw [hs, List.foldlM_cons, h24 hp, Except.ok_bind, List.foldlM_cons, h25, Except.ok_bind]
      exact ⟨_, rfl, hresult, clear_map_reseal _ _ _, rfl⟩
    · have hs : stagesOf 24 25 = [⟨25, true⟩] := by decide
      rw [hs, List.foldlM_cons, h25, Except.ok_bind]
      exact ⟨_, rfl, hresult, clear_map_reseal _ _ _, rfl⟩
  · -- version 25 leaves the change to version 26, which makes it in one pass
    have h25 : ∀ q : SQLProvider α, q.schemaMigrateApplyStages ⟨25, true⟩ prior 26 valueClearText =
        .ok q := fun q =>
      schemaMigrateApplyStages_of_special _ _ _ _ (by decide) rfl
        (migrationSpecialUp25_of_lt _ _ _ _ _ (by decide))
    have h26 : (newSQLProvider store).schemaMigrateApplyStages ⟨26, true⟩ prior 26 valueClearText =
        .ok { newSQLProvider store with store := store.map (·.reseal .row .hkdf) } := by
      by_cases hp : prior < 25
      · exact schemaMigrateApplyStages_of_special _ _ _ _ (by decide) rfl
          (migrationSpecialUp26_of_legacy _ _ _ _ _ (by omega) hp (hlegacy hp))
      · have hp : prior = 25 := by omega
        subst hp
        exact schemaMigrateApplyStages_of_special _ _ _ _ (by decide) rfl
          (migrationSpecialUp26_of_column _ _ _ _ _ le_rfl hsealed)
    have hresult : SealedStore (schemeKey 26) (aadForSchemaVersion 26)
        (store.map (·.reseal .row .hkdf)) := by
      by_cases hp : prior < 25
      · exact (hlegacy hp).reseal
      · exact hsealed.reseal
    rcases (by omega : prior < 24 ∨ prior = 24 ∨ prior = 25) with hp | rfl | rfl
    · have hs : stagesOf prior 26 = [⟨24, true⟩, ⟨25, true⟩, ⟨26, true⟩] := by
        rw [stagesOf_of_lt hlt, List.filter_cons_of_neg (by simp; omega),
          List.filter_cons_of_pos (by simp; omega), List.filter_cons_of_pos (by simp; omega),
          List.filter_cons_of_pos (by simp; omega), List.filter_nil]
      rw [hs, List.foldlM_cons, h24 hp, Except.ok_bind, List.foldlM_cons, h25, Except.ok_bind,
        List.foldlM_cons, h26, Except.ok_bind]
      exact ⟨_, rfl, hresult, clear_map_reseal _ _ _, rfl⟩
    · have hs : stagesOf 24 26 = [⟨25, true⟩, ⟨26, true⟩] := by decide
      rw [hs, List.foldlM_cons, h25, Except.ok_bind, List.foldlM_cons, h26, Except.ok_bind]
      exact ⟨_, rfl, hresult, clear_map_reseal _ _ _, rfl⟩
    · have hs : stagesOf 25 26 = [⟨26, true⟩] := by decide
      rw [hs, List.foldlM_cons, h26, Except.ok_bind]
      exact ⟨_, rfl, hresult, clear_map_reseal _ _ _, rfl⟩

theorem foldlM_stages_downgrade (htarget : 1 ≤ target) (hlt : target < prior)
    (hprior : prior ≤ 26) (hsealed : SealedStore (schemeKey prior) (aadForSchemaVersion prior) store) :
    ∃ q, (stagesOf prior target).foldlM
        (fun p m => p.schemaMigrateApplyStages m prior target valueClearText)
        (newSQLProvider store) = .ok q ∧
      SealedStore (schemeKey target) (aadForSchemaVersion target) q.store ∧
      q.store.map clear = store.map clear ∧
      q.keys = if schemaVersionEncryptionKeyDerivation ≤ prior then schemeKey target else .hkdf := by
  have hbelow : target < 25 → schemeKey target = .legacy ∧ aadForSchemaVersion target = .none :=
    fun h => ⟨schemeKey_of_lt h, aadForSchemaVersion_of_lt h⟩
  rcases (by omega : prior < 25 ∨ prior = 25 ∨ prior = 26) with hp | rfl | rfl
  · -- no stage runs, and both schemes are the legacy one
    have hs : stagesOf prior target = [] := by
      rw [stagesOf_of_gt hlt, List.filter_cons_of_neg (by simp; omega),
        List.filter_cons_of_neg (by simp; omega), List.filter_nil]
    obtain ⟨hk, ha⟩ := hbelow (by omega)
    have hk' := schemeKey_of_lt (show prior < schemaVersionEncryptionKeyDerivation from hp)
    have ha' := aadForSchemaVersion_of_lt (show prior < schemaVersionEncryptionKeyDerivation from hp)
    rw [hs, hk, ha]
    rw [hk', ha'] at hsealed
    refine ⟨_, rfl, hsealed, rfl, ?_⟩
    rw [if_neg (by unfold schemaVersionEncryptionKeyDerivation; omega)]
    rfl
  · -- version 25 seals the values again under the legacy key and no AAD
    have hs : stagesOf 25 target = [⟨25, false⟩] := by
      rw [stagesOf_of_gt hlt, List.filter_cons_of_neg (by simp),
        List.filter_cons_of_pos (by simp; omega), List.filter_nil]
    obtain ⟨hk, ha⟩ := hbelow (by omega)
    have h25 := schemaMigrateApplyStages_of_special (newSQLProvider store) 25 target valueClearText
      (m := ⟨25, false⟩) (by decide) rfl
      (migrationSpecialDown25_of_column _ _ _ _ _ (by decide) (by omega) hsealed)
    rw [hs, List.foldlM_cons, h25, Except.ok_bind, hk, ha]
    exact ⟨_, rfl, hsealed.reseal, clear_map_reseal _ _ _, by rw [if_pos (by decide)]⟩
  · rcases (by omega : target < 25 ∨ target = 25) with ht | rfl
    · -- version 26 goes straight to the legacy scheme, and version 25 then has nothing to do
      have hs : stagesOf 26 target = [⟨26, false⟩, ⟨25, false⟩] := by
        rw [stagesOf_of_gt hlt, List.filter_cons_of_pos (by simp; omega),
          List.filter_cons_of_pos (by simp; omega), List.filter_nil]
      obtain ⟨hk, ha⟩ := hbelow ht
      have h26 := schemaMigrateApplyStages_of_special (newSQLProvider store) 26 target valueClearText
        (m := ⟨26, false⟩) (by decide) rfl
        (migrationSpecialDown26_of_legacy _ _ _ _ _ (by omega) ht hsealed)
      have h25 : ∀ q : SQLProvider α, q.schemaMigrateApplyStages ⟨25, false⟩ 26 target valueClearText =
          .ok q := fun q =>
        schemaMigrateApplyStages_of_special _ _ _ _ (by decide) rfl
          (migrationSpecialDown25_of_rowScoped _ _ _ _ _ le_rfl)
      rw [hs, List.foldlM_cons, h26, Except.ok_bind, List.foldlM_cons, h25, Except.ok_bind, hk, ha]
      exact ⟨_, rfl, hsealed.reseal, clear_map_reseal _ _ _, by rw [if_pos (by decide)]⟩
    · -- version 26 seals the values under the column scheme
      have hs : stagesOf 26 25 = [⟨26, false⟩] := by decide
      have h26 := schemaMigrateApplyStages_of_special (newSQLProvider store) 26 25 valueClearText
        (m := ⟨26, false⟩) (by decide) rfl
        (migrationSpecialDown26_of_column _ _ _ _ _ le_rfl hsealed)
      rw [hs, List.foldlM_cons, h26, Except.ok_bind]
      exact ⟨_, rfl, hsealed.reseal, clear_map_reseal _ _ _, rfl⟩

theorem foldlM_stages_reseals (hne : prior ≠ target) (hprior : prior ≤ latestMigrationVersion)
    (htarget : prior = 0 ∨ 1 ≤ target ∧ target ≤ latestMigrationVersion)
    (hfresh : prior = 0 → store = [])
    (hsealed : SealedStore (schemeKey prior) (aadForSchemaVersion prior) store) :
    ∃ p, (stagesOf prior target).foldlM
        (fun p m => p.schemaMigrateApplyStages m prior target valueClearText)
        (newSQLProvider store) = .ok p ∧
      SealedStore (schemeKey target) (aadForSchemaVersion target) p.store ∧
      p.store.map clear = (if prior = 0 then
        [(.encryptionValue, encryptionNameCheck, [], some valueClearText)] else store.map clear) ∧
      p.keys = if schemaVersionEncryptionKeyDerivation ≤ max prior target then schemeKey target
        else .hkdf := by
  rw [latestMigrationVersion_eq] at hprior htarget
  rcases Nat.eq_zero_or_pos prior with rfl | hpos
  · -- a fresh schema: the run writes the check value and every later stage keeps it
    obtain rfl := hfresh rfl
    refine ⟨_, foldlM_stages_fresh valueClearText (Ne.symm hne), ?_, ?_, ?_⟩
    · simp [SealedStore, sealedUnder_checkValue]
    · simp [checkValue, clear, encrypt]
    · split_ifs with h
      · exact (schemeKey_of_le (by simpa using h)).symm
      · rfl
  · have hbounds : 1 ≤ target ∧ target ≤ 26 := htarget.resolve_left (by omega)
    rcases Nat.lt_or_gt_of_ne hne with hlt | hgt
    · obtain ⟨q, hrun, hq, hclear, hkey⟩ :=
        foldlM_stages_upgrade valueClearText hpos hlt hbounds.2 hsealed
      refine ⟨q, hrun, hq, by rw [if_neg (by omega)]; exact hclear, ?_⟩
      rw [hkey, max_eq_right hlt.le]
      split_ifs with h
      · exact (schemeKey_of_le h).symm
      · rfl
    · obtain ⟨q, hrun, hq, hclear, hkey⟩ :=
        foldlM_stages_downgrade valueClearText hbounds.1 hgt hprior hsealed
      exact ⟨q, hrun, hq, by rw [if_neg (by omega)]; exact hclear,
        by rw [hkey, max_eq_left hgt.le]⟩

theorem up_of_mem_loadMigrations {ms : List SchemaMigration} {m : SchemaMigration}
    (h : loadMigrations prior target = .ok ms) (hm : m ∈ ms) : m.up = decide (prior < target) := by
  unfold loadMigrations at h
  split at h
  · cases h
  · cases h
    split at hm
    · exact up_of_mem_filter_skipMigration hm
    · exact up_of_mem_filter_skipMigration (List.mem_reverse.mp hm)

theorem droppedColumns_of_up {m : SchemaMigration} (hm : m.up = true) : droppedColumns m = [] := by
  obtain ⟨version, up⟩ := m
  cases hm
  unfold droppedColumns
  split <;> simp_all

theorem encryptionValue_not_mem_rowFilteredColumns (m : SchemaMigration) :
    EncryptedColumn.encryptionValue ∉ rowFilteredColumns m := by
  unfold rowFilteredColumns
  split <;> simp [consentSessionColumns]

theorem keepsPlace_check (deletesRow : RowDeletion) {m : SchemaMigration} (hm : m.up = true) :
    keepsPlace deletesRow m (.encryptionValue, encryptionNameCheck, []) = true := by
  simp [keepsPlace, droppedColumns_of_up hm, encryptionValue_not_mem_rowFilteredColumns]

theorem map_clear_filter_place (keep : EncryptedColumn × List Char × List Char → Bool)
    (l : List (EncryptedValue α)) :
    (l.filter fun v => keep v.place).map clear =
      (l.map clear).filter fun c => keep (c.1, c.2.1, c.2.2.1) := by
  rw [List.filter_map]
  rfl

def legacyStore : List (EncryptedValue (List Char)) :=
  [{ column := .totpSecret, row := "john".toList,
     value := some (encrypt "JBSWY3DPEHPK3PXP".toList [] .legacy) },
   { column := .webAuthnPublicKey, row := "kid".toList, issuer := "login.example.com".toList,
     value := some (encrypt "public key".toList [] .legacy) },
   { column := .webAuthnAttestation, row := "kid".toList, issuer := "login.example.com".toList,
     value := none }]

end Runs

end Authelia.Storage
