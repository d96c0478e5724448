import Authelia.Go.Strings
import Authelia.Go.Replace
import Authelia.Lib.Passes

/-! The alias tables of the file user database (`authentication/file_user_provider_database.go`).
`LoadAliases` fills a table of lower-cased emails when email search is on, and a table of
usernames when case-insensitive search is on, each entry after checks against the other users;
`GetUserDetails` looks a login name up in the email table, then in the alias table, then among
the usernames as given. The email checks look the lower-cased email up among the usernames
exactly, so with only email search on a username with upper-case letters can be another user's
email, and the email table then answers for it. A Go map is a list of pairs with distinct keys,
in the order a `range` visits them; of a user's details only the username and the email are
read. -/

namespace Authelia.Authentication
open Go

theorem mem_of_lookup_eq_some {κ ν : Type} [BEq κ] [LawfulBEq κ] {l : List (κ × ν)} {k : κ}
    {v : ν} (h : l.lookup k = some v) : (k, v) ∈ l := by
  induction l with
  | nil => cases h
  | cons kv l ih =>
    obtain ⟨k', v'⟩ := kv
    rw [List.lookup_cons] at h
    split at h
    · rename_i hk
      cases h
      rw [beq_iff_eq.mp hk]
      exact List.mem_cons_self
    · exact List.mem_cons_of_mem _ (ih h)

theorem lookup_eq_some_of_mem {κ ν : Type} [BEq κ] [LawfulBEq κ] {l : List (κ × ν)} {k : κ}
    {v : ν} (hnodup : (l.map Prod.fst).Nodup) (h : (k, v) ∈ l) : l.lookup k = some v := by
  induction l with
  | nil => cases h
  | cons kv l ih =>
    obtain ⟨k', v'⟩ := kv
    rw [List.map_cons, List.nodup_cons] at hnodup
    rcases List.mem_cons.mp h with heq | hmem
    · cases heq
      simp
    · have hkeys : k ∈ l.map Prod.fst := List.mem_map_of_mem (f := Prod.fst) hmem
      have hne : (k == k') = false := beq_false_of_ne fun hk => hnodup.1 (hk ▸ hkeys)
      rw [List.lookup_cons, hne]
      exact ih hnodup.2 hmem

/-- `m[k] = v` on a Go map. -/
def mapSet {κ ν : Type} [DecidableEq κ] (m : List (κ × ν)) (k : κ) (v : ν) : List (κ × ν) :=
  m.filter (fun kv => kv.1 ≠ k) ++ [(k, v)]

theorem mem_mapSet {κ ν : Type} [DecidableEq κ] {m : List (κ × ν)} {k : κ} {v : ν}
    {kv : κ × ν} (h : kv ∈ mapSet m k v) : kv ∈ m ∨ kv = (k, v) := by
  rcases List.mem_append.mp h with hm | hkv
  · exact Or.inl (List.mem_of_mem_filter hm)
  · exact Or.inr (List.mem_singleton.mp hkv)

structure FileUserDatabaseUserDetails where
  username : List Char
  email : List Char
  deriving DecidableEq, Repr

/-- `ErrUserNotFound` and the errors `LoadAliases` returns, with the values their texts print. -/
inductive FileUserDatabaseError
  | userNotFound
  | usernameNotLowercase (username : List Char)
  | usernameIsEmail (username other : List Char)
  | emailNotUnique (email : List Char) (users : List (List Char))
  | emailIsUsername (email : List Char)
  deriving DecidableEq, Repr

def FileUserDatabaseError.text : FileUserDatabaseError → List Char
  | .userNotFound => "user not found".toList
  | .usernameNotLowercase k =>
    sprintf ("error loading authentication database: username '%s' is not lowercase but this " ++
      "is required when case-insensitive search is enabled").toList [k]
  | .usernameIsEmail u username =>
    sprintf ("error loading authentication database: username '%s' is configured as an email " ++
      "for user with username '%s' which isn't allowed when case-insensitive search is " ++
      "enabled").toList [u, username]
  | .emailNotUnique e users =>
    sprintf ("error loading authentication database: email '%s' is configured for more than " ++
      "one user (users are '%s') which isn't allowed when email search is enabled").toList
      [e, join users "', '".toList]
  | .emailIsUsername e =>
    sprintf ("error loading authentication database: email '%s' is also a username which " ++
      "isn't allowed when email search is enabled").toList [e]

structure FileUserDatabase where
  users : List (List Char × FileUserDatabaseUserDetails)
  users_nodup : (users.map Prod.fst).Nodup
  emails : List (List Char × List Char)
  aliases : List (List Char × List Char)
  searchEmail : Bool
  searchCI : Bool

namespace FileUserDatabase

section Methods
variable (F : CaseFolding) (m : FileUserDatabase)

def loadAlias (k : List Char) : Except FileUserDatabaseError FileUserDatabase :=
  let u := toLower F k
  if u ≠ k then .error (.usernameNotLowercase k)
  else
    match m.users.find? (fun d => d.1 != k && equalFold F u d.2.email) with
    | some (username, _) => .error (.usernameIsEmail u username)
    | none => .ok { m with aliases := mapSet m.aliases u k }

def loadAliasEmail (k : List Char) (user : FileUserDatabaseUserDetails) :
    Except FileUserDatabaseError FileUserDatabase :=
  let e := toLower F user.email
  let duplicates := (m.users.filter fun d => d.1 != k && equalFold F e d.2.email).map Prod.fst
  if duplicates ≠ [] then .error (.emailNotUnique e (duplicates ++ [k]))
  else if (m.users.lookup e).isSome ∧ k ≠ e then .error (.emailIsUsername e)
  else .ok { m with emails := mapSet m.emails e k }

def loadAliasesStep (m : FileUserDatabase) (entry : List Char × FileUserDatabaseUserDetails) :
    Except FileUserDatabaseError FileUserDatabase :=
  (if m.searchEmail && entry.2.email != [] then loadAliasEmail F m entry.1 entry.2 else pure m) >>=
    fun m => if m.searchCI then loadAlias F m entry.1 else pure m

def loadAliases : Except FileUserDatabaseError FileUserDatabase :=
  let m := { m with emails := [], aliases := [] }
  if m.searchEmail || m.searchCI then m.users.foldlM (loadAliasesStep F) m
  else .ok m

def userOf (key : List Char) : Except FileUserDatabaseError FileUserDatabaseUserDetails :=
  match m.users.lookup key with
  | some user => .ok user
  | none => .error .userNotFound

def getUserDetails (username : List Char) : Except FileUserDatabaseError FileUserDatabaseUserDetails :=
  let u := toLower F username
  match (if m.searchEmail then m.emails.lookup u else none) with
  | some key => m.userOf key
  | none =>
    match (if m.searchCI then m.aliases.lookup u else none) with
    | some key => m.userOf key
    | none => m.userOf username

end Methods

/-! ### What a load keeps -/

/-- `m'` has the users and the search flags of `m`; only the tables differ. -/
structure SameUsers (m m' : FileUserDatabase) : Prop where
  users_eq : m'.users = m.users
  searchEmail_eq : m'.searchEmail = m.searchEmail
  searchCI_eq : m'.searchCI = m.searchCI

theorem SameUsers.refl (m : FileUserDatabase) : SameUsers m m := ⟨rfl, rfl, rfl⟩

theorem SameUsers.trans {m₁ m₂ m₃ : FileUserDatabase} (h₁ : SameUsers m₁ m₂)
    (h₂ : SameUsers m₂ m₃) : SameUsers m₁ m₃ :=
  ⟨h₂.users_eq.trans h₁.users_eq, h₂.searchEmail_eq.trans h₁.searchEmail_eq,
    h₂.searchCI_eq.trans h₁.searchCI_eq⟩

section Load
variable {F : CaseFolding}

theorem sameUsers_of_loadAlias {m m' : FileUserDatabase} {k : List Char}
    (h : m.loadAlias F k = .ok m') : SameUsers m m' := by
  unfold loadAlias at h
  dsimp only at h
  split at h
  · cases h
  · split at h
    · cases h
    · cases h
      exact ⟨rfl, rfl, rfl⟩

theorem sameUsers_of_loadAliasEmail {m m' : FileUserDatabase} {k : List Char}
    {user : FileUserDatabaseUserDetails} (h : m.loadAliasEmail F k user = .ok m') :
    SameUsers m m' := by
  unfold loadAliasEmail at h
  dsimp only at h
  split at h
  · cases h
  · split at h
    · cases h
    · cases h
      exact ⟨rfl, rfl, rfl⟩

theorem sameUsers_of_loadAliasesStep {m m' : FileUserDatabase}
    {entry : List Char × FileUserDatabaseUserDetails} (h : loadAliasesStep F m entry = .ok m') :
    SameUsers m m' := by
  unfold loadAliasesStep at h
  obtain ⟨m₁, h₁, h₂⟩ := Except.bind_eq_ok h
  have hm₁ : SameUsers m m₁ := by
    split at h₁
    · exact sameUsers_of_loadAliasEmail h₁
    · cases h₁
      exact SameUsers.refl _
  have hm' : SameUsers m₁ m' := by
    split at h₂
    · exact sameUsers_of_loadAlias h₂
    · cases h₂
      exact SameUsers.refl _
  exact hm₁.trans hm'

theorem sameUsers_of_foldlM_loadAliasesStep (entries : List (List Char × FileUserDatabaseUserDetails)) :
    ∀ {m m' : FileUserDatabase}, entries.foldlM (loadAliasesStep F) m = .ok m' → SameUsers m m' := by
  induction entries with
  | nil =>
    intro m m' h
    cases h
    exact SameUsers.refl m
  | cons entry entries ih =>
    intro m m' h
    obtain ⟨m₁, h₁, h₂⟩ := Except.bind_eq_ok h
    exact (sameUsers_of_loadAliasesStep h₁).trans (ih h₂)

theorem sameUsers_of_loadAliases {m m' : FileUserDatabase} (h : m.loadAliases F = .ok m') :
    SameUsers m m' := by
  unfold loadAliases at h
  dsimp only at h
  split at h
  · exact (⟨rfl, rfl, rfl⟩ : SameUsers m { m with emails := [], aliases := [] }).trans
      (sameUsers_of_foldlM_loadAliasesStep _ h)
  · cases h
    exact ⟨rfl, rfl, rfl⟩

end Load

/-! ### What the tables point at -/

/-- Every entry of the tables names a user that owns its key: the email table maps a lower-cased
email to the user with that email, the alias table maps a username to itself. -/
structure TablesSound (F : CaseFolding) (m : FileUserDatabase) : Prop where
  emails_sound : ∀ e k, (e, k) ∈ m.emails → ∃ user, (k, user) ∈ m.users ∧ toLower F user.email = e
  aliases_sound : ∀ u k, (u, k) ∈ m.aliases → u = k

section Sound
variable {F : CaseFolding}

theorem tablesSound_of_nil (m : FileUserDatabase) :
    TablesSound F { m with emails := [], aliases := [] } :=
  ⟨fun _ _ h => absurd h List.not_mem_nil, fun _ _ h => absurd h List.not_mem_nil⟩

theorem tablesSound_loadAlias {m m' : FileUserDatabase} {k : List Char} (hm : TablesSound F m)
    (h : m.loadAlias F k = .ok m') : TablesSound F m' := by
  unfold loadAlias at h
  dsimp only at h
  split at h
  · cases h
  · rename_i hlower
    split at h
    · cases h
    · cases h
      refine ⟨hm.emails_sound, fun u k' hmem => ?_⟩
      rcases mem_mapSet hmem with hold | hnew
      · exact hm.aliases_sound u k' hold
      · cases hnew
        exact not_not.mp hlower

theorem tablesSound_loadAliasEmail {m m' : FileUserDatabase} {k : List Char}
    {user : FileUserDatabaseUserDetails} (hm : TablesSound F m) (huser : (k, user) ∈ m.users)
    (h : m.loadAliasEmail F k user = .ok m') : TablesSound F m' := by
  unfold loadAliasEmail at h
  dsimp only at h
  split at h
  · cases h
  · split at h
    · cases h
    · cases h
      refine ⟨fun e k' hmem => ?_, hm.aliases_sound⟩
      rcases mem_mapSet hmem with hold | hnew
      · exact hm.emails_sound e k' hold
      · cases hnew
        exact ⟨user, huser, rfl⟩

theorem tablesSound_loadAliasesStep {m m' : FileUserDatabase}
    {entry : List Char × FileUserDatabaseUserDetails} (hm : TablesSound F m)
    (hentry : entry ∈ m.users) (h : loadAliasesStep F m entry = .ok m') : TablesSound F m' := by
  unfold loadAliasesStep at h
  obtain ⟨m₁, h₁, h₂⟩ := Except.bind_eq_ok h
  have hm₁ : TablesSound F m₁ := by
    split at h₁
    · exact tablesSound_loadAliasEmail hm hentry h₁
    · cases h₁
      exact hm
  split at h₂
  · exact tablesSound_loadAlias hm₁ h₂
  · cases h₂
    exact hm₁

theorem tablesSound_foldlM_loadAliasesStep
    (entries : List (List Char × FileUserDatabaseUserDetails)) :
    ∀ {m m' : FileUserDatabase}, (∀ entry ∈ entries, entry ∈ m.users) → TablesSound F m →
      entries.foldlM (loadAliasesStep F) m = .ok m' → TablesSound F m' := by
  induction entries with
  | nil =>
    intro m m' _ hm h
    cases h
    exact hm
  | cons entry entries ih =>
    intro m m' hentries hm h
    obtain ⟨m₁, h₁, h₂⟩ := Except.bind_eq_ok h
    have hsame := sameUsers_of_loadAliasesStep h₁
    have hrest : ∀ e ∈ entries, e ∈ m₁.users := fun e he => by
      rw [hsame.users_eq]
      exact hentries e (List.mem_cons_of_mem _ he)
    exact ih hrest (tablesSound_loadAliasesStep hm (hentries entry List.mem_cons_self) h₁) h₂

theorem tablesSound_of_loadAliases {m m' : FileUserDatabase} (h : m.loadAliases F = .ok m') :
    TablesSound F m' := by
  unfold loadAliases at h
  dsimp only at h
  split at h
  · exact tablesSound_foldlM_loadAliasesStep _ (fun _ he => he) (tablesSound_of_nil m) h
  · cases h
    exact tablesSound_of_nil m

theorem eq_of_userOf {m : FileUserDatabase} {key : List Char} {user user' : FileUserDatabaseUserDetails}
    (h : m.userOf key = .ok user) (hmem : (key, user') ∈ m.users) : user = user' := by
  unfold userOf at h
  rw [lookup_eq_some_of_mem m.users_nodup hmem] at h
  cases h
  rfl

theorem owns_of_getUserDetails {m : FileUserDatabase} {x : List Char}
    {user : FileUserDatabaseUserDetails} (hm : TablesSound F m) (h : m.getUserDetails F x = .ok user) :
    ∃ k, (k, user) ∈ m.users ∧ (k = x ∨ (m.searchCI = true ∧ k = toLower F x) ∨
      (m.searchEmail = true ∧ toLower F user.email = toLower F x)) := by
  have hmem : ∀ key, m.userOf key = .ok user → (key, user) ∈ m.users := fun key hkey => by
    unfold userOf at hkey
    split at hkey
    · rename_i found hfound
      cases hkey
      exact mem_of_lookup_eq_some hfound
    · cases hkey
  unfold getUserDetails at h
  dsimp only at h
  split at h
  · -- the email table answered
    rename_i key hkey
    have hsearch : m.searchEmail = true := by
      by_contra hoff
      rw [if_neg hoff] at hkey
      cases hkey
    rw [if_pos hsearch] at hkey
    obtain ⟨owner, howner, hemail⟩ := hm.emails_sound _ key (mem_of_lookup_eq_some hkey)
    have heq : user = owner := eq_of_userOf h howner
    subst heq
    exact ⟨key, howner, Or.inr (Or.inr ⟨hsearch, hemail⟩)⟩
  · split at h
    · -- the alias table answered
      rename_i key hkey
      have hsearch : m.searchCI = true := by
        by_contra hoff
        rw [if_neg hoff] at hkey
        cases hkey
      rw [if_pos hsearch] at hkey
      have halias := hm.aliases_sound _ key (mem_of_lookup_eq_some hkey)
      exact ⟨key, hmem key h, Or.inr (Or.inl ⟨hsearch, halias.symm⟩)⟩
    · exact ⟨x, hmem x h, Or.inl rfl⟩

/-- After a successful `LoadAliases`, a login name resolves only to one of its owners up to
lower-casing; which owner wins, when there are several, is the order of the lookups. -/
theorem owns_of_loadAliases_getUserDetails {m m' : FileUserDatabase} {x : List Char}
    {user : FileUserDatabaseUserDetails} (hload : m.loadAliases F = .ok m')
    (h : m'.getUserDetails F x = .ok user) :
    ∃ k, (k, user) ∈ m.users ∧ (k = x ∨ (m.searchCI = true ∧ k = toLower F x) ∨
      (m.searchEmail = true ∧ toLower F user.email = toLower F x)) := by
  have hsame := sameUsers_of_loadAliases hload
  rw [← hsame.users_eq, ← hsame.searchCI_eq, ← hsame.searchEmail_eq]
  exact owns_of_getUserDetails (tablesSound_of_loadAliases hload) h

end Sound

def johnDatabase : FileUserDatabase where
  users := [("john".toList, ⟨"john".toList, "john@example.com".toList⟩)]
  users_nodup := by decide
  emails := []
  aliases := []
  searchEmail := false
  searchCI := true

theorem owns_of_loadAliases_getUserDetails_john :
    johnDatabase.loadAliases .ascii = .ok { johnDatabase with aliases := [("john".toList, "john".toList)] } ∧
      ({ johnDatabase with aliases := [("john".toList, "john".toList)] } : FileUserDatabase).getUserDetails
          .ascii "John".toList = .ok ⟨"john".toList, "john@example.com".toList⟩ ∧
      ∃ k, (k, (⟨"john".toList, "john@example.com".toList⟩ : FileUserDatabaseUserDetails)) ∈
          johnDatabase.users ∧
        (k = "John".toList ∨ (johnDatabase.searchCI = true ∧ k = toLower .ascii "John".toList) ∨
          (johnDatabase.searchEmail = true ∧
            toLower .ascii "john@example.com".toList = toLower .ascii "John".toList)) := by
  have hload : johnDatabase.loadAliases .ascii =
      .ok { johnDatabase with aliases := [("john".toList, "john".toList)] } := rfl
  have h : ({ johnDatabase with aliases := [("john".toList, "john".toList)] } :
      FileUserDatabase).getUserDetails .ascii "John".toList =
        .ok ⟨"john".toList, "john@example.com".toList⟩ := rfl
  exact ⟨hload, h, owns_of_loadAliases_getUserDetails hload h⟩

/-! ### Who owns a login name -/

/-- The user of `entry` owns the login name `x`: its username is `x`, or under case-insensitive
search equals `x` ignoring case, or under email search its email equals `x` ignoring case. -/
def ownsLogin (F : CaseFolding) (m : FileUserDatabase) (x : List Char)
    (entry : List Char × FileUserDatabaseUserDetails) : Bool :=
  entry.1 == x || (m.searchCI && equalFold F entry.1 x) ||
    (m.searchEmail && equalFold F entry.2.email x)

def emailShadowsUsername : FileUserDatabase where
  users := [("Bob@x.com".toList, ⟨"Bob@x.com".toList, []⟩),
    ("b".toList, ⟨"b".toList, "bob@x.com".toList⟩)]
  users_nodup := by decide
  emails := []
  aliases := []
  searchEmail := true
  searchCI := false

theorem getUserDetails_username_resolves_to_email_owner (F : CaseFolding) :
    (∃ m', emailShadowsUsername.loadAliases F = .ok m' ∧
      m'.getUserDetails F "Bob@x.com".toList = .ok ⟨"b".toList, "bob@x.com".toList⟩) ∧
    emailShadowsUsername.users.filter (ownsLogin F emailShadowsUsername "Bob@x.com".toList) =
      emailShadowsUsername.users := by
  -- the names are ASCII, so the tables act as the letter case of Char
  have hlowEmail : toLower F "bob@x.com".toList = "bob@x.com".toList :=
    (toLower_of_ascii F (by decide)).trans (by decide)
  have hlowName : toLower F "Bob@x.com".toList = "bob@x.com".toList :=
    (toLower_of_ascii F (by decide)).trans (by decide)
  have hnil : equalFold F "bob@x.com".toList [] = false := by
    rw [equalFold_comm, equalFold_nil_left]
    rfl
  have hfold : equalFold F "bob@x.com".toList "Bob@x.com".toList = true :=
    (equalFold_of_ascii F (by decide) (by decide)).trans (by decide)
  -- simp reads the literals as lists of characters; so must the facts it rewrites with
  simp only [String.reduceToList] at hlowEmail hlowName hnil hfold
  refine ⟨⟨{ emailShadowsUsername with emails := [("bob@x.com".toList, "b".toList)] }, ?_, ?_⟩, ?_⟩
  · simp [loadAliases, emailShadowsUsername, loadAliasesStep, loadAliasEmail, hlowEmail, hnil,
      mapSet]
    rfl
  · simp [getUserDetails, emailShadowsUsername, hlowName, userOf]
    rfl
  · simp [ownsLogin, emailShadowsUsername, hfold]

end FileUserDatabase

end Authelia.Authentication
