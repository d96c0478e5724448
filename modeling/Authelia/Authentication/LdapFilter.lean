import Authelia.Lib.Template
import Authelia.Go.Strings

/-! The search filters of the LDAP user provider (`resolveUsersFilter`, `resolveGroupsFilter` and
the filter part of `parseDynamicUsersConfiguration` and `parseDynamicGroupsConfiguration`). go-ldap's
`EscapeFilter` is not part of the repository: it is a parameter, with what its documentation says of
it as hypotheses. The placeholders are replaced one after another with `strings.ReplaceAll`,
`{input}` first, and `EscapeFilter` leaves braces alone. So the filter is the simultaneous
substitution of the template's placeholders when no inserted value opens a brace, and a login name
that holds a placeholder's text is rewritten by a later step. -/

namespace Authelia.Authentication
open Go Template

/-! ### Placeholders -/

namespace LDAPPlaceholder

def input : Placeholder := ⟨"input".toList, by decide⟩
def distinguishedName : Placeholder := ⟨"dn".toList, by decide⟩
def memberOfDistinguishedName : Placeholder := ⟨"memberof:dn".toList, by decide⟩
def memberOfRelativeDistinguishedName : Placeholder := ⟨"memberof:rdn".toList, by decide⟩
def username : Placeholder := ⟨"username".toList, by decide⟩
def dateTimeGeneralized : Placeholder := ⟨"date-time:generalized".toList, by decide⟩
def dateTimeMicrosoftNTTimeEpoch : Placeholder := ⟨"date-time:microsoft-nt".toList, by decide⟩
def dateTimeUnixEpoch : Placeholder := ⟨"date-time:unix".toList, by decide⟩
def distinguishedNameAttribute : Placeholder := ⟨"distinguished_name_attribute".toList, by decide⟩
def usernameAttribute : Placeholder := ⟨"username_attribute".toList, by decide⟩
def displayNameAttribute : Placeholder := ⟨"display_name_attribute".toList, by decide⟩
def mailAttribute : Placeholder := ⟨"mail_attribute".toList, by decide⟩
def memberOfAttribute : Placeholder := ⟨"member_of_attribute".toList, by decide⟩

end LDAPPlaceholder

def ldapPlaceholderInput : List Char := LDAPPlaceholder.input.text
def ldapPlaceholderDistinguishedName : List Char := LDAPPlaceholder.distinguishedName.text
def ldapPlaceholderMemberOfDistinguishedName : List Char :=
  LDAPPlaceholder.memberOfDistinguishedName.text
def ldapPlaceholderMemberOfRelativeDistinguishedName : List Char :=
  LDAPPlaceholder.memberOfRelativeDistinguishedName.text
def ldapPlaceholderUsername : List Char := LDAPPlaceholder.username.text
def ldapPlaceholderDateTimeGeneralized : List Char := LDAPPlaceholder.dateTimeGeneralized.text
def ldapPlaceholderDateTimeMicrosoftNTTimeEpoch : List Char :=
  LDAPPlaceholder.dateTimeMicrosoftNTTimeEpoch.text
def ldapPlaceholderDateTimeUnixEpoch : List Char := LDAPPlaceholder.dateTimeUnixEpoch.text
def ldapPlaceholderDistinguishedNameAttribute : List Char :=
  LDAPPlaceholder.distinguishedNameAttribute.text
def ldapPlaceholderUsernameAttribute : List Char := LDAPPlaceholder.usernameAttribute.text
def ldapPlaceholderDisplayNameAttribute : List Char := LDAPPlaceholder.displayNameAttribute.text
def ldapPlaceholderMailAttribute : List Char := LDAPPlaceholder.mailAttribute.text
def ldapPlaceholderMemberOfAttribute : List Char := LDAPPlaceholder.memberOfAttribute.text

/-! ### go-ldap -/

/-- What go-ldap documents of `EscapeFilter` (RFC 4515): the special characters `(`, `)`, `*`, `\`
and every byte outside `0 < c < 0x80` are written as a backslash and two hex digits, and every other
character is kept. So a string of kept characters comes back as it is, and an escaped string holds
only characters of the original, backslashes and hex digits. -/
structure EscapeFilterSpec (E : List Char → List Char) : Prop where
  keeps : ∀ s, (∀ c ∈ s, 0 < c.toNat ∧ c.toNat < 0x80 ∧ c ∉ "()*\\".toList) → E s = s
  mem : ∀ s, ∀ c ∈ E s, c ∈ s ∨ c = '\\' ∨ c ∈ "0123456789abcdefABCDEF".toList

/-! ### The provider -/

/-- The attribute names of `schema.AuthenticationBackendLDAPAttributes` the filters read. -/
structure LDAPAttributes where
  distinguishedName : List Char := []
  username : List Char := []
  displayName : List Char := []
  mail : List Char := []
  memberOf : List Char := []
  deriving DecidableEq, Repr

structure LDAPUserProvider where
  usersFilter : List Char := []
  groupsFilter : List Char := []
  attributes : LDAPAttributes := {}
  usersFilterReplacementInput : Bool := false
  usersFilterReplacementDateTimeGeneralized : Bool := false
  usersFilterReplacementDateTimeUnixEpoch : Bool := false
  usersFilterReplacementDateTimeMicrosoftNTTimeEpoch : Bool := false
  groupsFilterReplacementInput : Bool := false
  groupsFilterReplacementUsername : Bool := false
  groupsFilterReplacementDN : Bool := false
  groupsFilterReplacementsMemberOfDN : Bool := false
  groupsFilterReplacementsMemberOfRDN : Bool := false
  deriving DecidableEq, Repr

structure LDAPUserProfile where
  dn : List Char := []
  username : List Char := []
  memberOf : List (List Char) := []
  deriving DecidableEq, Repr

/-- The clock readings, already printed: generalized time, Unix seconds, Microsoft NT epoch. -/
structure LDAPClock where
  generalized : List Char
  unix : List Char
  microsoftNT : List Char

/-- The five attribute placeholders, replaced at start-up in both filters. -/
def replaceAttributePlaceholders (a : LDAPAttributes) (filter : List Char) : List Char :=
  let filter := replaceAll filter ldapPlaceholderDistinguishedNameAttribute a.distinguishedName
  let filter := replaceAll filter ldapPlaceholderUsernameAttribute a.username
  let filter := replaceAll filter ldapPlaceholderDisplayNameAttribute a.displayName
  let filter := replaceAll filter ldapPlaceholderMailAttribute a.mail
  replaceAll filter ldapPlaceholderMemberOfAttribute a.memberOf

/-- The tail of `parseDynamicUsersConfiguration`: a flag is raised for each placeholder left in
the filter. -/
def parseDynamicUsersConfiguration (p : LDAPUserProvider) : LDAPUserProvider :=
  let filter := replaceAttributePlaceholders p.attributes p.usersFilter
  { p with
    usersFilter := filter
    usersFilterReplacementInput :=
      p.usersFilterReplacementInput || contains filter ldapPlaceholderInput
    usersFilterReplacementDateTimeGeneralized :=
      p.usersFilterReplacementDateTimeGeneralized ||
        contains filter ldapPlaceholderDateTimeGeneralized
    usersFilterReplacementDateTimeUnixEpoch :=
      p.usersFilterReplacementDateTimeUnixEpoch || contains filter ldapPlaceholderDateTimeUnixEpoch
    usersFilterReplacementDateTimeMicrosoftNTTimeEpoch :=
      p.usersFilterReplacementDateTimeMicrosoftNTTimeEpoch ||
        contains filter ldapPlaceholderDateTimeMicrosoftNTTimeEpoch }

def parseDynamicGroupsConfiguration (p : LDAPUserProvider) : LDAPUserProvider :=
  let filter := replaceAttributePlaceholders p.attributes p.groupsFilter
  { p with
    groupsFilter := filter
    groupsFilterReplacementInput :=
      p.groupsFilterReplacementInput || contains filter ldapPlaceholderInput
    groupsFilterReplacementUsername :=
      p.groupsFilterReplacementUsername || contains filter ldapPlaceholderUsername
    groupsFilterReplacementDN :=
      p.groupsFilterReplacementDN || contains filter ldapPlaceholderDistinguishedName
    groupsFilterReplacementsMemberOfDN :=
      p.groupsFilterReplacementsMemberOfDN ||
        contains filter ldapPlaceholderMemberOfDistinguishedName
    groupsFilterReplacementsMemberOfRDN :=
      p.groupsFilterReplacementsMemberOfRDN ||
        contains filter ldapPlaceholderMemberOfRelativeDistinguishedName }

section Resolve
variable (E : List Char → List Char)

def resolveUsersFilter (p : LDAPUserProvider) (now : LDAPClock) (input : List Char) :
    List Char :=
  let filter := p.usersFilter
  let filter := if p.usersFilterReplacementInput then
      replaceAll filter ldapPlaceholderInput (E input) else filter
  let filter := if p.usersFilterReplacementDateTimeGeneralized then
      replaceAll filter ldapPlaceholderDateTimeGeneralized now.generalized else filter
  let filter := if p.usersFilterReplacementDateTimeUnixEpoch then
      replaceAll filter ldapPlaceholderDateTimeUnixEpoch now.unix else filter
  if p.usersFilterReplacementDateTimeMicrosoftNTTimeEpoch then
    replaceAll filter ldapPlaceholderDateTimeMicrosoftNTTimeEpoch now.microsoftNT
  else filter

/-- The value of `{memberof:dn}`: one equality test per group, each value escaped. -/
def memberOfDNFilter (attr : List Char) (memberOf : List (List Char)) : List Char :=
  sprintf "(%s=%s)".toList
    [attr, (sprintf ")(%s=".toList [attr]).intercalate (memberOf.map E)]

def memberOfRDN (memberOf : List Char) : List Char := ((splitN memberOf [','] 2).head?).getD []

/-- The value of `{memberof:rdn}`: the first RDN of each group, escaped, in parentheses. -/
def memberOfRDNFilter (memberOf : List (List Char)) : List Char :=
  sprintf "(%s)".toList [")(".toList.intercalate (memberOf.map fun m => E (memberOfRDN m))]

/-- `resolveGroupsFilter`; the member-of placeholders read `profile.MemberOf` without a nil check,
a runtime panic (`none`) without a profile. -/
def resolveGroupsFilter (p : LDAPUserProvider) (input : List Char)
    (profile : Option LDAPUserProfile) : Option (List Char) := do
  let filter := if p.groupsFilterReplacementInput then
      replaceAll p.groupsFilter ldapPlaceholderInput (E input) else p.groupsFilter
  let filter := match profile with
    | some prof =>
      let filter := if p.groupsFilterReplacementUsername then
          replaceAll filter ldapPlaceholderUsername (E prof.username) else filter
      if p.groupsFilterReplacementDN then
        replaceAll filter ldapPlaceholderDistinguishedName (E prof.dn) else filter
    | none => filter
  let filter ← if p.groupsFilterReplacementsMemberOfDN then
      profile.map fun prof => replaceAll filter ldapPlaceholderMemberOfDistinguishedName
        (memberOfDNFilter E p.attributes.distinguishedName prof.memberOf)
    else pure filter
  if p.groupsFilterReplacementsMemberOfRDN then
    profile.map fun prof =>
      replaceAll filter ldapPlaceholderMemberOfRelativeDistinguishedName
        (memberOfRDNFilter E prof.memberOf)
  else pure filter

end Resolve

/-! ### Spec lemmas -/

theorem resolveGroupsFilter_some (E : List Char → List Char) (p : LDAPUserProvider)
    (input : List Char) (prof : LDAPUserProfile) :
    resolveGroupsFilter E p input (some prof) =
      let filter := if p.groupsFilterReplacementInput then
          replaceAll p.groupsFilter ldapPlaceholderInput (E input) else p.groupsFilter
      let filter := if p.groupsFilterReplacementUsername then
          replaceAll filter ldapPlaceholderUsername (E prof.username) else filter
      let filter := if p.groupsFilterReplacementDN then
          replaceAll filter ldapPlaceholderDistinguishedName (E prof.dn) else filter
      let filter := if p.groupsFilterReplacementsMemberOfDN then
          replaceAll filter ldapPlaceholderMemberOfDistinguishedName
            (memberOfDNFilter E p.attributes.distinguishedName prof.memberOf) else filter
      some (if p.groupsFilterReplacementsMemberOfRDN then
          replaceAll filter ldapPlaceholderMemberOfRelativeDistinguishedName
            (memberOfRDNFilter E prof.memberOf) else filter) := by
  unfold resolveGroupsFilter
  cases p.groupsFilterReplacementsMemberOfDN <;> cases p.groupsFilterReplacementsMemberOfRDN <;> rfl

/-! ### Values that open no brace -/

section BraceFree
variable {E : List Char → List Char}

theorem EscapeFilterSpec.not_mem (hE : EscapeFilterSpec E) {s : List Char} (h : '{' ∉ s) :
    '{' ∉ E s := by
  intro hmem
  rcases hE.mem s _ hmem with hs | hbackslash | hhex
  · exact h hs
  · exact absurd hbackslash (by decide)
  · exact absurd hhex (by decide)

theorem not_mem_intercalate {x : Char} {sep : List Char} (hsep : x ∉ sep) :
    ∀ {xs : List (List Char)}, (∀ l ∈ xs, x ∉ l) → x ∉ sep.intercalate xs
  | [], _ => by simp
  | [l], h => by simpa using h l (by simp)
  | l :: l' :: zs, h => by
    rw [List.intercalate_cons_cons]
    simp only [List.mem_append, not_or]
    exact ⟨⟨h l List.mem_cons_self, hsep⟩,
      not_mem_intercalate hsep fun l'' hl'' => h l'' (List.mem_cons_of_mem l hl'')⟩

theorem not_mem_sprintf {x : Char} (hx : x ∉ "%!(MISSING)".toList) (fmt : List Char)
    (args : List (List Char)) (hfmt : x ∉ fmt) (hargs : ∀ a ∈ args, x ∉ a) :
    x ∉ sprintf fmt args := by
  fun_induction sprintf fmt args <;> simp_all

theorem not_mem_memberOfDNFilter (hE : EscapeFilterSpec E) {attr : List Char}
    {memberOf : List (List Char)} (hattr : '{' ∉ attr) (hmemberOf : ∀ m ∈ memberOf, '{' ∉ m) :
    '{' ∉ memberOfDNFilter E attr memberOf := by
  have hsep : '{' ∉ sprintf ")(%s=".toList [attr] :=
    not_mem_sprintf (by decide) _ _ (by decide) (by simpa using hattr)
  have hvalues : ∀ l ∈ memberOf.map E, '{' ∉ l := by
    simp only [List.mem_map, forall_exists_index, and_imp, forall_apply_eq_imp_iff₂]
    exact fun m hm => hE.not_mem (hmemberOf m hm)
  refine not_mem_sprintf (by decide) _ _ (by decide) ?_
  simpa [hattr] using not_mem_intercalate hsep hvalues

theorem not_mem_memberOfRDN {m : List Char} (h : '{' ∉ m) : '{' ∉ memberOfRDN m := by
  have hhead := splitN_two_head (c := ',') m
  rw [memberOfRDN, hhead, Option.getD_some]
  exact fun hmem => h (List.takeWhile_sublist _ |>.subset hmem)

theorem not_mem_memberOfRDNFilter (hE : EscapeFilterSpec E) {memberOf : List (List Char)}
    (hmemberOf : ∀ m ∈ memberOf, '{' ∉ m) : '{' ∉ memberOfRDNFilter E memberOf := by
  have hvalues : ∀ l ∈ memberOf.map fun m => E (memberOfRDN m), '{' ∉ l := by
    simp only [List.mem_map, forall_exists_index, and_imp, forall_apply_eq_imp_iff₂]
    exact fun m hm => hE.not_mem (not_mem_memberOfRDN (hmemberOf m hm))
  refine not_mem_sprintf (by decide) _ _ (by decide) ?_
  simpa using not_mem_intercalate (by decide) hvalues

end BraceFree

/-! ### The filters as templates -/

section Substitution

structure LDAPAttributes.BraceFree (a : LDAPAttributes) : Prop where
  distinguishedName : '{' ∉ a.distinguishedName
  username : '{' ∉ a.username
  displayName : '{' ∉ a.displayName
  mail : '{' ∉ a.mail
  memberOf : '{' ∉ a.memberOf

/-- The template after the start-up replacements of the attribute placeholders. -/
def fillAttributes (t : Template) (a : LDAPAttributes) (ha : a.BraceFree) : Template :=
  ((((t.fill LDAPPlaceholder.distinguishedNameAttribute a.distinguishedName ha.distinguishedName).fill
    LDAPPlaceholder.usernameAttribute a.username ha.username).fill
    LDAPPlaceholder.displayNameAttribute a.displayName ha.displayName).fill
    LDAPPlaceholder.mailAttribute a.mail ha.mail).fill
    LDAPPlaceholder.memberOfAttribute a.memberOf ha.memberOf

section Values
variable (E : List Char → List Char)

def groupsFilterValues (a : LDAPAttributes) (input : List Char) (prof : LDAPUserProfile) :
    Placeholder → Option (List Char) := fun q =>
  if q = LDAPPlaceholder.distinguishedNameAttribute then some a.distinguishedName
  else if q = LDAPPlaceholder.usernameAttribute then some a.username
  else if q = LDAPPlaceholder.displayNameAttribute then some a.displayName
  else if q = LDAPPlaceholder.mailAttribute then some a.mail
  else if q = LDAPPlaceholder.memberOfAttribute then some a.memberOf
  else if q = LDAPPlaceholder.input then some (E input)
  else if q = LDAPPlaceholder.username then some (E prof.username)
  else if q = LDAPPlaceholder.distinguishedName then some (E prof.dn)
  else if q = LDAPPlaceholder.memberOfDistinguishedName then
    some (memberOfDNFilter E a.distinguishedName prof.memberOf)
  else if q = LDAPPlaceholder.memberOfRelativeDistinguishedName then
    some (memberOfRDNFilter E prof.memberOf)
  else none

def usersFilterValues (a : LDAPAttributes) (now : LDAPClock) (input : List Char) :
    Placeholder → Option (List Char) := fun q =>
  if q = LDAPPlaceholder.distinguishedNameAttribute then some a.distinguishedName
  else if q = LDAPPlaceholder.usernameAttribute then some a.username
  else if q = LDAPPlaceholder.displayNameAttribute then some a.displayName
  else if q = LDAPPlaceholder.mailAttribute then some a.mail
  else if q = LDAPPlaceholder.memberOfAttribute then some a.memberOf
  else if q = LDAPPlaceholder.input then some (E input)
  else if q = LDAPPlaceholder.dateTimeGeneralized then some now.generalized
  else if q = LDAPPlaceholder.dateTimeUnixEpoch then some now.unix
  else if q = LDAPPlaceholder.dateTimeMicrosoftNTTimeEpoch then some now.microsoftNT
  else none

end Values

theorem replaceAttributePlaceholders_render (t : Template) (a : LDAPAttributes)
    (ha : a.BraceFree) :
    replaceAttributePlaceholders a t.render = (fillAttributes t a ha).render := by
  unfold replaceAttributePlaceholders ldapPlaceholderDistinguishedNameAttribute
    ldapPlaceholderUsernameAttribute ldapPlaceholderDisplayNameAttribute
    ldapPlaceholderMailAttribute ldapPlaceholderMemberOfAttribute
  dsimp only
  rw [replaceAll_render _ _ t ha.distinguishedName, replaceAll_render _ _ _ ha.username,
    replaceAll_render _ _ _ ha.displayName, replaceAll_render _ _ _ ha.mail,
    replaceAll_render _ _ _ ha.memberOf]
  rfl

theorem escapeFilterSpec_id : EscapeFilterSpec id :=
  ⟨fun _ _ => rfl, fun _ _ hc => Or.inl hc⟩

variable {E : List Char → List Char}

def memberGroupsFilter : Template where
  segments := [.text "(&(cn=".toList, .hole LDAPPlaceholder.input, .text ")(|".toList,
    .hole LDAPPlaceholder.memberOfDistinguishedName, .text "))".toList]
  literal_brace_free := by
    intro s hs
    simp at hs
    rcases hs with rfl | rfl | rfl <;> decide

def memberGroupsProvider : LDAPUserProvider where
  groupsFilter := memberGroupsFilter.render
  attributes := { distinguishedName := "distinguishedName".toList }

def adminProfile : LDAPUserProfile where
  dn := "cn=john,ou=users,dc=example,dc=com".toList
  username := "john".toList
  memberOf := ["cn=admins,ou=groups,dc=example,dc=com".toList]

/-- With attribute names and lookup values that open no brace, the groups filter is the
simultaneous substitution of the configured template. -/
theorem resolveGroupsFilter_eq_substitute (hE : EscapeFilterSpec E) (p : LDAPUserProvider)
    (t : Template) (hfilter : p.groupsFilter = t.render) (ha : p.attributes.BraceFree)
    (input : List Char) (prof : LDAPUserProfile) (hinput : '{' ∉ input)
    (husername : '{' ∉ prof.username) (hdn : '{' ∉ prof.dn)
    (hmemberOf : ∀ m ∈ prof.memberOf, '{' ∉ m) :
    resolveGroupsFilter E (parseDynamicGroupsConfiguration p) input (some prof) =
      some (t.substitute (groupsFilterValues E p.attributes input prof)) := by
  have hstart := replaceAttributePlaceholders_render t p.attributes ha
  set t₀ := fillAttributes t p.attributes ha with ht₀
  -- the five lookup values open no brace
  have h₁ := hE.not_mem hinput
  have h₂ := hE.not_mem husername
  have h₃ := hE.not_mem hdn
  have h₄ := not_mem_memberOfDNFilter hE ha.distinguishedName hmemberOf
  have h₅ := not_mem_memberOfRDNFilter hE hmemberOf
  -- each step only fills holes of the template the flags were computed on
  set t₁ := t₀.fill LDAPPlaceholder.input _ h₁
  set t₂ := t₁.fill LDAPPlaceholder.username _ h₂
  set t₃ := t₂.fill LDAPPlaceholder.distinguishedName _ h₃
  set t₄ := t₃.fill LDAPPlaceholder.memberOfDistinguishedName _ h₄
  have hs₁ : ∀ q, Segment.hole q ∈ t₁.segments → Segment.hole q ∈ t₀.segments :=
    fun _ h => hole_mem_of_mem_fill _ _ h
  have hs₂ : ∀ q, Segment.hole q ∈ t₂.segments → Segment.hole q ∈ t₀.segments :=
    fun q h => hs₁ q (hole_mem_of_mem_fill _ _ h)
  have hs₃ : ∀ q, Segment.hole q ∈ t₃.segments → Segment.hole q ∈ t₀.segments :=
    fun q h => hs₂ q (hole_mem_of_mem_fill _ _ h)
  have hs₄ : ∀ q, Segment.hole q ∈ t₄.segments → Segment.hole q ∈ t₀.segments :=
    fun q h => hs₃ q (hole_mem_of_mem_fill _ _ h)
  rw [resolveGroupsFilter_some]
  simp only [parseDynamicGroupsConfiguration, hfilter, hstart, ldapPlaceholderInput,
    ldapPlaceholderUsername, ldapPlaceholderDistinguishedName,
    ldapPlaceholderMemberOfDistinguishedName, ldapPlaceholderMemberOfRelativeDistinguishedName]
  rw [ite_replaceAll _ _ _ h₁ fun _ h => h, ite_replaceAll _ _ _ h₂ hs₁,
    ite_replaceAll _ _ _ h₃ hs₂, ite_replaceAll _ _ _ h₄ hs₃, ite_replaceAll _ _ _ h₅ hs₄]
  rw [render_eq_substitute, substitute_fill, substitute_fill, substitute_fill, substitute_fill,
    substitute_fill, ht₀]
  unfold fillAttributes
  rw [substitute_fill, substitute_fill, substitute_fill, substitute_fill, substitute_fill]
  rfl

theorem resolveGroupsFilter_eq_substitute_john :
    EscapeFilterSpec id ∧
      resolveGroupsFilter id (parseDynamicGroupsConfiguration memberGroupsProvider) "john".toList
          (some adminProfile) =
        some (memberGroupsFilter.substitute
          (groupsFilterValues id memberGroupsProvider.attributes "john".toList adminProfile)) :=
  ⟨escapeFilterSpec_id, resolveGroupsFilter_eq_substitute escapeFilterSpec_id memberGroupsProvider
    memberGroupsFilter rfl ⟨by decide, by decide, by decide, by decide, by decide⟩ _ _ (by decide)
    (by decide) (by decide) (by decide)⟩

def uidUsersFilter : Template where
  segments := [.text "(&(".toList, .hole LDAPPlaceholder.usernameAttribute, .text "=".toList,
    .hole LDAPPlaceholder.input, .text ")(objectClass=person))".toList]
  literal_brace_free := by
    intro s hs
    simp at hs
    rcases hs with rfl | rfl | rfl <;> decide

def uidUsersProvider : LDAPUserProvider where
  usersFilter := uidUsersFilter.render
  attributes := { username := "uid".toList }

def newYearClock : LDAPClock :=
  ⟨"20240101000000Z".toList, "1704067200".toList, "133485408000000000".toList⟩

/-- With attribute names, login name and clock readings that open no brace, the users filter is
the simultaneous substitution of the configured template. -/
theorem resolveUsersFilter_eq_substitute (hE : EscapeFilterSpec E) (p : LDAPUserProvider)
    (t : Template) (hfilter : p.usersFilter = t.render) (ha : p.attributes.BraceFree)
    (now : LDAPClock) (hgeneralized : '{' ∉ now.generalized) (hunix : '{' ∉ now.unix)
    (hmicrosoftNT : '{' ∉ now.microsoftNT) (input : List Char) (hinput : '{' ∉ input) :
    resolveUsersFilter E (parseDynamicUsersConfiguration p) now input =
      t.substitute (usersFilterValues E p.attributes now input) := by
  have hstart := replaceAttributePlaceholders_render t p.attributes ha
  set t₀ := fillAttributes t p.attributes ha with ht₀
  have h₁ := hE.not_mem hinput
  set t₁ := t₀.fill LDAPPlaceholder.input _ h₁
  set t₂ := t₁.fill LDAPPlaceholder.dateTimeGeneralized _ hgeneralized
  set t₃ := t₂.fill LDAPPlaceholder.dateTimeUnixEpoch _ hunix
  have hs₁ : ∀ q, Segment.hole q ∈ t₁.segments → Segment.hole q ∈ t₀.segments :=
    fun _ h => hole_mem_of_mem_fill _ _ h
  have hs₂ : ∀ q, Segment.hole q ∈ t₂.segments → Segment.hole q ∈ t₀.segments :=
    fun q h => hs₁ q (hole_mem_of_mem_fill _ _ h)
  have hs₃ : ∀ q, Segment.hole q ∈ t₃.segments → Segment.hole q ∈ t₀.segments :=
    fun q h => hs₂ q (hole_mem_of_mem_fill _ _ h)
  simp only [resolveUsersFilter, parseDynamicUsersConfiguration, hfilter, hstart,
    ldapPlaceholderInput, ldapPlaceholderDateTimeGeneralized, ldapPlaceholderDateTimeUnixEpoch,
    ldapPlaceholderDateTimeMicrosoftNTTimeEpoch]
  rw [ite_replaceAll _ _ _ h₁ fun _ h => h, ite_replaceAll _ _ _ hgeneralized hs₁,
    ite_replaceAll _ _ _ hunix hs₂, ite_replaceAll _ _ _ hmicrosoftNT hs₃]
  rw [render_eq_substitute, substitute_fill, substitute_fill, substitute_fill, substitute_fill, ht₀]
  unfold fillAttributes
  rw [substitute_fill, substitute_fill, substitute_fill, substitute_fill, substitute_fill]
  rfl

theorem resolveUsersFilter_eq_substitute_john :
    EscapeFilterSpec id ∧
      resolveUsersFilter id (parseDynamicUsersConfiguration uidUsersProvider) newYearClock
          "john".toList =
        uidUsersFilter.substitute
          (usersFilterValues id uidUsersProvider.attributes newYearClock "john".toList) :=
  ⟨escapeFilterSpec_id, resolveUsersFilter_eq_substitute escapeFilterSpec_id uidUsersProvider
    uidUsersFilter rfl ⟨by decide, by decide, by decide, by decide, by decide⟩ newYearClock
    (by decide) (by decide) (by decide) _ (by decide)⟩

end Substitution

/-! ### A login name that holds a placeholder -/

/-- The values the groups filter escapes: the login name, the username, the DN, and each group and
its first RDN. -/
def groupsFilterEscapes (input : List Char) (prof : LDAPUserProfile) : List (List Char) :=
  input :: prof.username :: prof.dn :: (prof.memberOf ++ prof.memberOf.map memberOfRDN)

section Congr
variable {E E' : List Char → List Char} {input : List Char} {prof : LDAPUserProfile}
  (h : ∀ v ∈ groupsFilterEscapes input prof, E v = E' v)
include h

theorem memberOfDNFilter_congr (attr : List Char) :
    memberOfDNFilter E attr prof.memberOf = memberOfDNFilter E' attr prof.memberOf := by
  have hmemberOf : ∀ m ∈ prof.memberOf, E m = E' m := fun m hm =>
    h m (by simp only [groupsFilterEscapes, List.mem_cons, List.mem_append]; exact .inr (.inr (.inr (.inl hm))))
  rw [memberOfDNFilter, memberOfDNFilter, List.map_congr_left hmemberOf]

theorem memberOfRDNFilter_congr :
    memberOfRDNFilter E prof.memberOf = memberOfRDNFilter E' prof.memberOf := by
  have hrdn : ∀ m ∈ prof.memberOf, E (memberOfRDN m) = E' (memberOfRDN m) := fun m hm =>
    h _ (by
      simp only [groupsFilterEscapes, List.mem_cons, List.mem_append, List.mem_map]
      exact .inr (.inr (.inr (.inr ⟨m, hm, rfl⟩))))
  rw [memberOfRDNFilter, memberOfRDNFilter, List.map_congr_left hrdn]

theorem resolveGroupsFilter_congr (p : LDAPUserProvider) :
    resolveGroupsFilter E p input (some prof) = resolveGroupsFilter E' p input (some prof) := by
  rw [resolveGroupsFilter_some, resolveGroupsFilter_some, h input (by simp [groupsFilterEscapes]),
    h prof.username (by simp [groupsFilterEscapes]), h prof.dn (by simp [groupsFilterEscapes]),
    memberOfDNFilter_congr h, memberOfRDNFilter_congr h]

theorem groupsFilterValues_congr (a : LDAPAttributes) :
    groupsFilterValues E a input prof = groupsFilterValues E' a input prof := by
  funext q
  rw [groupsFilterValues, groupsFilterValues, h input (by simp [groupsFilterEscapes]),
    h prof.username (by simp [groupsFilterEscapes]), h prof.dn (by simp [groupsFilterEscapes]),
    memberOfDNFilter_congr h, memberOfRDNFilter_congr h]

end Congr

def hexDigitValue (c : Char) : Option Nat :=
  if '0' ≤ c ∧ c ≤ '9' then some (c.toNat - '0'.toNat)
  else if 'a' ≤ c ∧ c ≤ 'f' then some (c.toNat - 'a'.toNat + 10)
  else if 'A' ≤ c ∧ c ≤ 'F' then some (c.toNat - 'A'.toNat + 10)
  else none

/-- RFC 4514: the first relative distinguished name of a DN, cut at the first comma that no
backslash escapes, with its escapes decoded (two hex digits of an ASCII byte, or the escaped
character itself). -/
def firstRDN : List Char → List Char
  | [] => []
  | '\\' :: h :: l :: rest =>
    match hexDigitValue h, hexDigitValue l with
    | some x, some y => Char.ofNat (16 * x + y) :: firstRDN rest
    | _, _ => h :: firstRDN (l :: rest)
  | ['\\', c] => [c]
  | ['\\'] => []
  | ',' :: _ => []
  | c :: rest => c :: firstRDN rest

/-- A login name that holds the text of a later placeholder is expanded by that step into filter
structure; and the RDN of a group whose name holds an escaped comma is cut inside the escape. -/
theorem resolveGroupsFilter_expands_placeholder_in_input {E : List Char → List Char}
    (hE : EscapeFilterSpec E) :
    resolveGroupsFilter E (parseDynamicGroupsConfiguration memberGroupsProvider)
        ldapPlaceholderMemberOfDistinguishedName (some adminProfile) =
      some ("(&(cn=(distinguishedName=cn=admins,ou=groups,dc=example,dc=com))" ++
        "(|(distinguishedName=cn=admins,ou=groups,dc=example,dc=com)))").toList ∧
    resolveGroupsFilter E (parseDynamicGroupsConfiguration memberGroupsProvider)
        ldapPlaceholderMemberOfDistinguishedName (some adminProfile) ≠
      some (memberGroupsFilter.substitute (groupsFilterValues E memberGroupsProvider.attributes
        ldapPlaceholderMemberOfDistinguishedName adminProfile)) ∧
    memberOfRDN "cn=Smith\\, J,ou=groups,dc=example,dc=com".toList = "cn=Smith\\".toList ∧
    firstRDN "cn=Smith\\, J,ou=groups,dc=example,dc=com".toList = "cn=Smith, J".toList := by
  -- the login name and the profile hold only characters that `EscapeFilter` keeps
  have hall : ((groupsFilterEscapes ldapPlaceholderMemberOfDistinguishedName adminProfile).all
      fun v => v.all fun c => decide (0 < c.toNat) && decide (c.toNat < 0x80) &&
        !("()*\\".toList.contains c)) = true := by
    decide +kernel
  have hkept : ∀ v ∈ groupsFilterEscapes ldapPlaceholderMemberOfDistinguishedName adminProfile,
      E v = id v := by
    intro v hv
    refine hE.keeps v fun c hc => ?_
    simpa [and_assoc] using List.all_eq_true.mp (List.all_eq_true.mp hall v hv) c hc
  have hcode : resolveGroupsFilter id (parseDynamicGroupsConfiguration memberGroupsProvider)
      ldapPlaceholderMemberOfDistinguishedName (some adminProfile) =
      some ("(&(cn=(distinguishedName=cn=admins,ou=groups,dc=example,dc=com))" ++
        "(|(distinguishedName=cn=admins,ou=groups,dc=example,dc=com)))").toList := by
    decide +kernel
  rw [resolveGroupsFilter_congr hkept, groupsFilterValues_congr hkept, hcode]
  refine ⟨rfl, ?_, by decide, by decide⟩
  decide +kernel

theorem resolveGroupsFilter_expands_placeholder_in_input_id :
    EscapeFilterSpec id ∧
      (resolveGroupsFilter id (parseDynamicGroupsConfiguration memberGroupsProvider)
          ldapPlaceholderMemberOfDistinguishedName (some adminProfile) =
        some ("(&(cn=(distinguishedName=cn=admins,ou=groups,dc=example,dc=com))" ++
          "(|(distinguishedName=cn=admins,ou=groups,dc=example,dc=com)))").toList ∧
      resolveGroupsFilter id (parseDynamicGroupsConfiguration memberGroupsProvider)
          ldapPlaceholderMemberOfDistinguishedName (some adminProfile) ≠
        some (memberGroupsFilter.substitute (groupsFilterValues id memberGroupsProvider.attributes
          ldapPlaceholderMemberOfDistinguishedName adminProfile)) ∧
      memberOfRDN "cn=Smith\\, J,ou=groups,dc=example,dc=com".toList = "cn=Smith\\".toList ∧
      firstRDN "cn=Smith\\, J,ou=groups,dc=example,dc=com".toList = "cn=Smith, J".toList) :=
  ⟨escapeFilterSpec_id, resolveGroupsFilter_expands_placeholder_in_input escapeFilterSpec_id⟩

end Authelia.Authentication
