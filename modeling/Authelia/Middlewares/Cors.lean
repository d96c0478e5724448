import Authelia.Utils.Strings
import Authelia.Go.Replace
import Authelia.Go.Url

/-! The CORS policy middleware (`middlewares/cors.go`). `Build` turns the builder's settings into
header values, and `handleCORS` answers a request that carries an `Origin` with the headers it
sets, in order. The origin decision has three branches on the number of allowed origins; only the
branches for none and for several return when nothing matches, while the branch for one origin
goes on to write the other headers. `url.ParseRequestURI` and fasthttp's header-key normalisation
are parameters: of the first only whether it succeeds and the scheme it finds are read, and no
result depends on the second. -/

namespace Authelia.Middlewares
open Go Utils

def headerVary : List Char := "Vary".toList
def headerAccessControlAllowCredentials : List Char := "Access-Control-Allow-Credentials".toList
def headerAccessControlAllowHeaders : List Char := "Access-Control-Allow-Headers".toList
def headerAccessControlAllowMethods : List Char := "Access-Control-Allow-Methods".toList
def headerAccessControlAllowOrigin : List Char := "Access-Control-Allow-Origin".toList
def headerAccessControlMaxAge : List Char := "Access-Control-Max-Age".toList

def headerValueTrue : List Char := "true".toList
def headerValueMaxAge : List Char := "100".toList
def headerValueVary : List Char := "Accept-Encoding, Origin".toList
def headerValueVaryWildcard : List Char := "Accept-Encoding".toList
def headerValueOriginWildcard : List Char := ['*']
def headerSeparator : List Char := ", ".toList
def strProtoHTTPS : List Char := "https".toList

/-- `JoinAndCanonicalizeHeaders`, with the key `fasthttp.AppendNormalizedHeaderKey` appends as a
parameter. -/
def joinAndCanonicalizeHeaders (normalizeHeaderKey : List Char → List Char) (sep : List Char)
    (headers : List (List Char)) : List Char :=
  join (headers.map normalizeHeaderKey) sep

structure CORSPolicyBuilder where
  enabled : Bool
  varyOnly : Bool
  varySet : Bool
  methods : List (List Char)
  headers : List (List Char)
  origins : List (List Char)
  credentials : Bool
  vary : List (List Char)
  maxAge : Int

def newCORSPolicyBuilder : CORSPolicyBuilder :=
  ⟨true, false, false, [], [], [], false, [], 100⟩

/-- The policy `Build` makes; a byte slice of length zero is the empty list. -/
structure CORSPolicy where
  enabled : Bool
  varyOnly : Bool
  methods : List Char
  headers : List Char
  origins : List (List Char)
  credentials : List Char
  vary : List Char
  maxAge : List Char

namespace CORSPolicyBuilder

section Build
variable (F : CaseFolding) (normalizeHeaderKey : List Char → List Char) (b : CORSPolicyBuilder)

def buildOrigins : List (List Char) :=
  if b.origins ≠ [] then
    if b.origins.length = 1 ∧ b.origins.head? = some ['*'] then [['*']]
    else b.origins
  else []

def buildHeaders : List Char :=
  if b.headers ≠ [] then
    let h := b.headers
    let h := if b.credentials ∧ !isStringInSliceFold F "Cookie".toList h then
      h ++ ["Cookie".toList] else h
    let h := if b.credentials ∧ !isStringInSliceFold F "Authorization".toList h then
      h ++ ["Authorization".toList] else h
    let h := if b.credentials ∧ !isStringInSliceFold F "Proxy-Authorization".toList h then
      h ++ ["Proxy-Authorization".toList] else h
    joinAndCanonicalizeHeaders normalizeHeaderKey headerSeparator h
  else []

def buildVary : List Char :=
  if b.varySet then
    if b.vary ≠ [] then joinAndCanonicalizeHeaders normalizeHeaderKey headerSeparator b.vary else []
  else if b.origins.length = 1 ∧ b.origins.head? = some ['*'] then headerValueVaryWildcard
  else headerValueVary

def formatBool : Bool → List Char
  | true => "true".toList
  | false => "false".toList

def build : CORSPolicy where
  enabled := b.enabled
  varyOnly := b.varyOnly
  credentials := formatBool b.credentials
  origins := b.buildOrigins
  headers := b.buildHeaders F normalizeHeaderKey
  vary := b.buildVary normalizeHeaderKey
  methods := if b.methods ≠ [] then join b.methods headerSeparator else []
  maxAge := if b.maxAge ≤ 0 then headerValueMaxAge else (toString b.maxAge).toList

end Build

end CORSPolicyBuilder

/-- The request headers the policy reads: `Origin` (empty when absent), the two
`Access-Control-Request-*` headers (`none` when `PeekBytes` returns nil) and whether the method
is `OPTIONS`. -/
structure CORSRequest where
  origin : List Char
  requestMethod : Option (List Char)
  requestHeaders : Option (List Char)
  isOptions : Bool

namespace CORSPolicy

section Handle
variable (F : CaseFolding) (parseRequestURI : List Char → Option URL) (p : CORSPolicy)
  (req : CORSRequest)

def handleAllowedMethods : List (List Char × List Char) :=
  if p.methods = [] then
    match req.requestMethod with
    | some requestMethods => [(headerAccessControlAllowMethods, requestMethods)]
    | none => []
  else [(headerAccessControlAllowMethods, p.methods)]

/-- Whether `handleAllowedHeaders` echoes a requested header: not the wildcard, and a credential
header only when credentials are allowed. -/
def allowsRequestedHeader (headerTrimmed : List Char) : Bool :=
  headerTrimmed != ['*'] &&
    (p.credentials == headerValueTrue ||
      (!equalFold F "Cookie".toList headerTrimmed && !equalFold F "Authorization".toList headerTrimmed &&
        !equalFold F "Proxy-Authorization".toList headerTrimmed))

def handleAllowedHeaders : List (List Char × List Char) :=
  if p.headers = [] then
    match req.requestHeaders with
    | some headers =>
      let allowHeaders := ((headers.splitOn ',').map fun h => trim h [' ']).filter
        (allowsRequestedHeader F p)
      if allowHeaders = [] then [] else [(headerAccessControlAllowHeaders, join allowHeaders headerSeparator)]
    | none => []
  else [(headerAccessControlAllowHeaders, p.headers)]

/-- The origin the policy allows for `origin`, empty for none: every origin when none is
configured, else the first configured entry that is the wildcard or the origin itself. -/
def allowedOrigin (origin : List Char) : List Char :=
  match p.origins with
  | [] => origin
  | [o] => if o = headerValueOriginWildcard then headerValueOriginWildcard
    else if o = origin then origin else []
  | os =>
    match os.find? fun o => o == headerValueOriginWildcard || o == origin with
    | some o => if o = headerValueOriginWildcard then headerValueOriginWildcard else origin
    | none => []

/-- The headers `handleCORS` writes after the origin: credentials, max age, then the allowed
headers and methods. -/
def accessControlHeaders : List (List Char × List Char) :=
  (if p.credentials ≠ [] then [(headerAccessControlAllowCredentials, p.credentials)] else []) ++
    (if p.maxAge ≠ [] then [(headerAccessControlMaxAge, p.maxAge)] else []) ++
    p.handleAllowedHeaders F req ++ p.handleAllowedMethods req

def handleCORS : List (List Char × List Char) :=
  if req.origin = [] ∨ ((req.requestMethod.getD []) = [] ∧ req.isOptions = true) then []
  else
    match parseRequestURI req.origin with
    | none => []
    | some originURL =>
      if originURL.scheme ≠ strProtoHTTPS ∧ p.origins = [] then []
      else
        let allowedOrigin := p.allowedOrigin req.origin
        if p.origins.length ≥ 2 ∧ allowedOrigin = [] then []
        else
          (if allowedOrigin ≠ [] then [(headerAccessControlAllowOrigin, allowedOrigin)] else []) ++
            p.accessControlHeaders F req

def handleVary : List (List Char × List Char) :=
  if p.vary ≠ [] then [(headerVary, p.vary)] else []

def handle : List (List Char × List Char) :=
  if p.enabled then p.handleVary ++ (if p.varyOnly then [] else p.handleCORS F parseRequestURI req)
  else []

end Handle

end CORSPolicy

/-! ### Policies and requests of the examples -/

def singleOriginBuilder : CORSPolicyBuilder :=
  { newCORSPolicyBuilder with origins := ["https://a.example.com".toList] }

def doubledOriginBuilder : CORSPolicyBuilder :=
  { newCORSPolicyBuilder with
    origins := ["https://a.example.com".toList, "https://a.example.com".toList] }

def crossOriginRequest : CORSRequest := ⟨"https://b.example.com".toList, none, none, false⟩

def sameOriginRequest : CORSRequest := ⟨"https://a.example.com".toList, none, none, false⟩

/-- A parser under which every origin parses, with scheme https. -/
def httpsOriginParser (_ : List Char) : Option URL :=
  some { scheme := "https".toList, host := "b.example.com".toList }

namespace CORSPolicy

/-! ### Which headers are written with which -/

section Written
variable {F : CaseFolding} {parseRequestURI : List Char → Option URL} {p : CORSPolicy}
  {req : CORSRequest}

theorem fst_of_mem_handleAllowedHeaders {kv : List Char × List Char}
    (h : kv ∈ p.handleAllowedHeaders F req) : kv.1 = headerAccessControlAllowHeaders := by
  unfold handleAllowedHeaders at h
  split at h
  · split at h
    · dsimp only at h
      split at h
      · cases h
      · rw [List.mem_singleton] at h
        rw [h]
    · cases h
  · rw [List.mem_singleton] at h
    rw [h]

theorem fst_of_mem_handleAllowedMethods {kv : List Char × List Char}
    (h : kv ∈ p.handleAllowedMethods req) : kv.1 = headerAccessControlAllowMethods := by
  unfold handleAllowedMethods at h
  split at h
  · split at h
    · rw [List.mem_singleton] at h
      rw [h]
    · cases h
  · rw [List.mem_singleton] at h
    rw [h]

theorem allowedOrigin_eq (origin : List Char) :
    p.allowedOrigin origin =
      if p.origins = [] then origin
      else (p.origins.find? fun o => o == headerValueOriginWildcard || o == origin).getD [] := by
  unfold allowedOrigin
  split
  · rename_i h
    rw [if_pos h]
  · rename_i o h
    rw [if_neg (show ¬p.origins = [] by simp [h]), h]
    by_cases hw : o = headerValueOriginWildcard
    · simp [hw]
    · have hw' : (o == headerValueOriginWildcard) = false := by simpa using hw
      by_cases ho : o = origin
      · subst ho
        simp [hw, hw']
      · have ho' : (o == origin) = false := by simpa using ho
        simp [hw, ho, hw', ho']
  · rename_i os h₀ h₁
    rw [if_neg h₀]
    split
    · rename_i o hfind
      have hpred := List.find?_some hfind
      simp only [Bool.or_eq_true, beq_iff_eq] at hpred
      rw [hfind, Option.getD_some]
      split
      · rename_i hw
        exact hw.symm
      · rename_i hw
        exact (hpred.resolve_left hw).symm
    · rename_i hfind
      rw [hfind, Option.getD_none]

theorem ne_nil_of_find?_eq_some {origins : List (List Char)} {origin v : List Char}
    (horigin : origin ≠ [])
    (h : origins.find? (fun o => o == headerValueOriginWildcard || o == origin) = some v) :
    v ≠ [] := by
  have hpred := List.find?_some h
  simp only [Bool.or_eq_true, beq_iff_eq] at hpred
  rcases hpred with rfl | rfl
  · simp [headerValueOriginWildcard]
  · exact horigin

theorem allowOrigin_mem_writes_iff {a v : List Char} (rest : List (List Char × List Char))
    (hrest : ∀ kv ∈ rest, kv.1 ≠ headerAccessControlAllowOrigin) :
    (headerAccessControlAllowOrigin, v) ∈
        (if a ≠ [] then [(headerAccessControlAllowOrigin, a)] else []) ++ rest ↔
      a ≠ [] ∧ v = a := by
  constructor
  · intro h
    rcases List.mem_append.mp h with h | h
    · split at h
      · rename_i ha
        exact ⟨ha, (Prod.mk.inj (List.mem_singleton.mp h)).2⟩
      · cases h
    · exact absurd rfl (hrest _ h)
  · rintro ⟨ha, rfl⟩
    exact List.mem_append_left _ (by simp [ha])

theorem fst_ne_of_mem_accessControlHeaders {kv : List Char × List Char}
    (h : kv ∈ p.accessControlHeaders F req) : kv.1 ≠ headerAccessControlAllowOrigin := by
  simp only [accessControlHeaders, List.mem_append] at h
  rcases h with ((h | h) | h) | h
  · split at h
    · rw [List.mem_singleton] at h
      rw [h]
      exact (by decide : headerAccessControlAllowCredentials ≠ headerAccessControlAllowOrigin)
    · cases h
  · split at h
    · rw [List.mem_singleton] at h
      rw [h]
      exact (by decide : headerAccessControlMaxAge ≠ headerAccessControlAllowOrigin)
    · cases h
  · rw [fst_of_mem_handleAllowedHeaders h]
    decide
  · rw [fst_of_mem_handleAllowedMethods h]
    decide

/-! The checks of `handleCORS`, one lemma each: a request it skips, an origin that does not parse,
a scheme other than https with no origins configured, and no match among several origins. -/

theorem handleCORS_of_skip (h : req.origin = [] ∨ ((req.requestMethod.getD []) = [] ∧ req.isOptions = true)) :
    p.handleCORS F parseRequestURI req = [] := by
  rw [handleCORS, if_pos h]

section Passed
variable (horigin : req.origin ≠ [])
  (hpre : ¬((req.requestMethod.getD []) = [] ∧ req.isOptions = true))
include horigin hpre

theorem handleCORS_of_parse_none (hparse : parseRequestURI req.origin = none) :
    p.handleCORS F parseRequestURI req = [] := by
  rw [handleCORS, if_neg (not_or.mpr ⟨horigin, hpre⟩), hparse]

theorem handleCORS_of_scheme {u : URL} (hparse : parseRequestURI req.origin = some u)
    (hscheme : u.scheme ≠ strProtoHTTPS ∧ p.origins = []) :
    p.handleCORS F parseRequestURI req = [] := by
  rw [handleCORS, if_neg (not_or.mpr ⟨horigin, hpre⟩), hparse]
  exact if_pos hscheme

theorem handleCORS_of_no_match {u : URL} (hparse : parseRequestURI req.origin = some u)
    (hscheme : ¬(u.scheme ≠ strProtoHTTPS ∧ p.origins = []))
    (hmulti : p.origins.length ≥ 2 ∧ p.allowedOrigin req.origin = []) :
    p.handleCORS F parseRequestURI req = [] := by
  rw [handleCORS, if_neg (not_or.mpr ⟨horigin, hpre⟩), hparse]
  simp only [if_neg hscheme]
  exact if_pos hmulti

theorem handleCORS_of_pass {u : URL} (hparse : parseRequestURI req.origin = some u)
    (hscheme : ¬(u.scheme ≠ strProtoHTTPS ∧ p.origins = []))
    (hmulti : ¬(p.origins.length ≥ 2 ∧ p.allowedOrigin req.origin = [])) :
    p.handleCORS F parseRequestURI req =
      (if p.allowedOrigin req.origin ≠ [] then
        [(headerAccessControlAllowOrigin, p.allowedOrigin req.origin)] else []) ++
        p.accessControlHeaders F req := by
  rw [handleCORS, if_neg (not_or.mpr ⟨horigin, hpre⟩), hparse]
  simp only [if_neg hscheme]
  exact if_neg hmulti

end Passed

theorem exists_of_handleCORS_ne_nil (h : p.handleCORS F parseRequestURI req ≠ []) :
    req.origin ≠ [] ∧ ¬((req.requestMethod.getD []) = [] ∧ req.isOptions = true) ∧
      ∃ u, parseRequestURI req.origin = some u ∧ ¬(u.scheme ≠ strProtoHTTPS ∧ p.origins = []) ∧
        ¬(p.origins.length ≥ 2 ∧ p.allowedOrigin req.origin = []) := by
  by_cases hskip : req.origin = [] ∨ ((req.requestMethod.getD []) = [] ∧ req.isOptions = true)
  · exact absurd (handleCORS_of_skip hskip) h
  obtain ⟨horigin, hpre⟩ := not_or.mp hskip
  refine ⟨horigin, hpre, ?_⟩
  cases hparse : parseRequestURI req.origin with
  | none => exact absurd (handleCORS_of_parse_none horigin hpre hparse) h
  | some u =>
    by_cases hscheme : u.scheme ≠ strProtoHTTPS ∧ p.origins = []
    · exact absurd (handleCORS_of_scheme horigin hpre hparse hscheme) h
    by_cases hmulti : p.origins.length ≥ 2 ∧ p.allowedOrigin req.origin = []
    · exact absurd (handleCORS_of_no_match horigin hpre hparse hscheme hmulti) h
    exact ⟨u, rfl, hscheme, hmulti⟩

theorem eq_some_of_getD_ne_nil {o : Option (List Char)} (h : o.getD [] ≠ []) :
    o = some (o.getD []) := by
  cases o with
  | none => exact absurd rfl h
  | some w => rfl

/-- The origin `handleCORS` allows for a request it does not skip: the origin itself when no
origin is configured and the scheme is https, else the first configured entry that is the
wildcard or the origin; in both cases only for an origin that parses. -/
theorem allowOrigin_mem_handleCORS_iff (horigin : req.origin ≠ [])
    (hpre : ¬((req.requestMethod.getD []) = [] ∧ req.isOptions = true)) (v : List Char) :
    (headerAccessControlAllowOrigin, v) ∈ p.handleCORS F parseRequestURI req ↔
      ∃ u, parseRequestURI req.origin = some u ∧
        ((p.origins = [] ∧ u.scheme = strProtoHTTPS ∧ v = req.origin) ∨
          p.origins.find? (fun o => o == headerValueOriginWildcard || o == req.origin) = some v) := by
  have hrest : ∀ kv ∈ p.accessControlHeaders F req, kv.1 ≠ headerAccessControlAllowOrigin :=
    fun _ => fst_ne_of_mem_accessControlHeaders
  constructor
  · intro hmem
    obtain ⟨-, -, u, hparse, hscheme, hmulti⟩ := exists_of_handleCORS_ne_nil (List.ne_nil_of_mem hmem)
    rw [handleCORS_of_pass horigin hpre hparse hscheme hmulti, allowOrigin_mem_writes_iff _ hrest,
      allowedOrigin_eq] at hmem
    refine ⟨u, hparse, ?_⟩
    by_cases hempty : p.origins = []
    · rw [if_pos hempty] at hmem
      have hhttps : u.scheme = strProtoHTTPS := by
        by_contra hne
        exact hscheme ⟨hne, hempty⟩
      exact Or.inl ⟨hempty, hhttps, hmem.2⟩
    · rw [if_neg hempty] at hmem
      obtain ⟨hne, rfl⟩ := hmem
      exact Or.inr (eq_some_of_getD_ne_nil hne)
  · rintro ⟨u, hparse, ⟨hempty, hhttps, rfl⟩ | hfind⟩
    -- No origin configured: the https check passes and the origin is echoed.
    · have hscheme : ¬(u.scheme ≠ strProtoHTTPS ∧ p.origins = []) := fun h => h.1 hhttps
      have hmulti : ¬(p.origins.length ≥ 2 ∧ p.allowedOrigin req.origin = []) := by
        rw [hempty]
        simp
      rw [handleCORS_of_pass horigin hpre hparse hscheme hmulti, allowOrigin_mem_writes_iff _ hrest,
        allowedOrigin_eq, if_pos hempty]
      exact ⟨horigin, rfl⟩
    -- A configured entry matches: it is what the policy allows.
    · have hv := ne_nil_of_find?_eq_some horigin hfind
      have hne : p.origins ≠ [] := by
        intro hempty
        rw [hempty, List.find?_nil] at hfind
        cases hfind
      have hallowed : p.allowedOrigin req.origin = v := by
        rw [allowedOrigin_eq, if_neg hne, hfind, Option.getD_some]
      have hscheme : ¬(u.scheme ≠ strProtoHTTPS ∧ p.origins = []) := fun h => hne h.2
      have hmulti : ¬(p.origins.length ≥ 2 ∧ p.allowedOrigin req.origin = []) := by
        rw [hallowed]
        exact fun h => hv h.2
      rw [handleCORS_of_pass horigin hpre hparse hscheme hmulti, allowOrigin_mem_writes_iff _ hrest,
        hallowed]
      exact ⟨hv, rfl⟩

theorem allowOrigin_mem_handleCORS_iff_anyOrigin :
    crossOriginRequest.origin ≠ [] ∧
      ¬((crossOriginRequest.requestMethod.getD []) = [] ∧ crossOriginRequest.isOptions = true) ∧
      ((headerAccessControlAllowOrigin, crossOriginRequest.origin) ∈
          (newCORSPolicyBuilder.build CaseFolding.ascii id).handleCORS CaseFolding.ascii
            httpsOriginParser crossOriginRequest ↔
        ∃ u, httpsOriginParser crossOriginRequest.origin = some u ∧
          (((newCORSPolicyBuilder.build CaseFolding.ascii id).origins = [] ∧
              u.scheme = strProtoHTTPS ∧ crossOriginRequest.origin = crossOriginRequest.origin) ∨
            (newCORSPolicyBuilder.build CaseFolding.ascii id).origins.find?
                (fun o => o == headerValueOriginWildcard || o == crossOriginRequest.origin) =
              some crossOriginRequest.origin)) :=
  ⟨by decide, by decide, allowOrigin_mem_handleCORS_iff (by decide) (by decide) _⟩

/-- With no origin or with several configured, whatever `handleCORS` writes includes an
Allow-Origin header: the branches for these lengths return before the other writes when nothing
is allowed. -/
theorem allowOrigin_mem_handleCORS_of_ne_nil (hlen : p.origins.length ≠ 1)
    (h : p.handleCORS F parseRequestURI req ≠ []) :
    ∃ v, (headerAccessControlAllowOrigin, v) ∈ p.handleCORS F parseRequestURI req := by
  obtain ⟨horigin, hpre, u, hparse, hscheme, hmulti⟩ := exists_of_handleCORS_ne_nil h
  have hallowed : p.allowedOrigin req.origin ≠ [] := by
    by_cases hempty : p.origins = []
    · rw [allowedOrigin_eq, if_pos hempty]
      exact horigin
    · have hpos := List.length_pos_iff.mpr hempty
      exact fun hnil => hmulti ⟨by omega, hnil⟩
  refine ⟨p.allowedOrigin req.origin, ?_⟩
  rw [handleCORS_of_pass horigin hpre hparse hscheme hmulti,
    allowOrigin_mem_writes_iff _ fun _ => fst_ne_of_mem_accessControlHeaders]
  exact ⟨hallowed, rfl⟩

theorem allowOrigin_mem_handleCORS_of_ne_nil_doubled :
    (doubledOriginBuilder.build CaseFolding.ascii id).origins.length ≠ 1 ∧
      (doubledOriginBuilder.build CaseFolding.ascii id).handleCORS CaseFolding.ascii
          httpsOriginParser sameOriginRequest ≠ [] ∧
      ∃ v, (headerAccessControlAllowOrigin, v) ∈
        (doubledOriginBuilder.build CaseFolding.ascii id).handleCORS CaseFolding.ascii
          httpsOriginParser sameOriginRequest := by
  have hlen : (doubledOriginBuilder.build CaseFolding.ascii id).origins.length ≠ 1 := by decide
  have hwrites : (doubledOriginBuilder.build CaseFolding.ascii id).handleCORS CaseFolding.ascii
      httpsOriginParser sameOriginRequest ≠ [] := by
    decide
  exact ⟨hlen, hwrites, allowOrigin_mem_handleCORS_of_ne_nil hlen hwrites⟩

end Written

end CORSPolicy

/-- With one origin configured, a request from another origin gets credentials and max age but no
Allow-Origin; with the same origin configured twice it gets nothing. -/
theorem handleCORS_single_origin_writes_without_allow_origin (F : CaseFolding)
    (normalizeHeaderKey : List Char → List Char) (parseRequestURI : List Char → Option URL) (u : URL)
    (hparse : parseRequestURI crossOriginRequest.origin = some u) :
    (singleOriginBuilder.build F normalizeHeaderKey).handleCORS F parseRequestURI
        crossOriginRequest =
        [(headerAccessControlAllowCredentials, "false".toList),
          (headerAccessControlMaxAge, "100".toList)] ∧
      (doubledOriginBuilder.build F normalizeHeaderKey).handleCORS F parseRequestURI
        crossOriginRequest = [] := by
  have hsingle : (singleOriginBuilder.build F normalizeHeaderKey).origins =
      ["https://a.example.com".toList] := rfl
  have hdoubled : (doubledOriginBuilder.build F normalizeHeaderKey).origins =
      ["https://a.example.com".toList, "https://a.example.com".toList] := rfl
  constructor
  -- One origin: no Allow-Origin, but the branch falls through to the other writes.
  · have hscheme : ¬(u.scheme ≠ strProtoHTTPS ∧ (singleOriginBuilder.build F normalizeHeaderKey).origins = []) := by
      rw [hsingle]
      simp
    have hmulti : ¬((singleOriginBuilder.build F normalizeHeaderKey).origins.length ≥ 2 ∧
        (singleOriginBuilder.build F normalizeHeaderKey).allowedOrigin crossOriginRequest.origin = []) := by
      rw [hsingle]
      simp
    have hallowed : (singleOriginBuilder.build F normalizeHeaderKey).allowedOrigin crossOriginRequest.origin = [] := by
      rw [CORSPolicy.allowedOrigin_eq, hsingle]
      decide
    rw [CORSPolicy.handleCORS_of_pass (by decide) (by decide) hparse hscheme hmulti, hallowed]
    rfl
  -- The same origin twice: the loop finds no match and returns before any write.
  · have hscheme : ¬(u.scheme ≠ strProtoHTTPS ∧ (doubledOriginBuilder.build F normalizeHeaderKey).origins = []) := by
      rw [hdoubled]
      simp
    have hallowed : (doubledOriginBuilder.build F normalizeHeaderKey).allowedOrigin crossOriginRequest.origin = [] := by
      rw [CORSPolicy.allowedOrigin_eq, hdoubled]
      decide
    exact CORSPolicy.handleCORS_of_no_match (by decide) (by decide) hparse hscheme
      ⟨by rw [hdoubled]; decide, hallowed⟩

theorem handleCORS_single_origin_writes_without_allow_origin_ascii :
    (singleOriginBuilder.build CaseFolding.ascii id).handleCORS CaseFolding.ascii httpsOriginParser
        crossOriginRequest =
        [(headerAccessControlAllowCredentials, "false".toList),
          (headerAccessControlMaxAge, "100".toList)] ∧
      (doubledOriginBuilder.build CaseFolding.ascii id).handleCORS CaseFolding.ascii
        httpsOriginParser crossOriginRequest = [] :=
  handleCORS_single_origin_writes_without_allow_origin CaseFolding.ascii id _ _ rfl

end Authelia.Middlewares
