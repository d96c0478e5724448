import Mathlib.Data.List.Basic

/-! `url.URL` with the fields the configuration code reads. `Host` keeps its port, as the standard
library stores it; `Hostname` strips a valid port and the brackets of an IPv6 literal. -/

namespace Go

structure URL where
  scheme : List Char := []
  host : List Char := []
  path : List Char := []
  rawQuery : List Char := []
  fragment : List Char := []
  deriving DecidableEq, Repr

namespace URL

/-- `validOptionalPort`: empty, or a colon followed by digits only. -/
def validOptionalPort (port : List Char) : Bool :=
  match port with
  | [] => true
  | ':' :: digits => digits.all Char.isDigit
  | _ => false

/-- `splitHostPort`: cut at the last colon when what follows is a port, then drop the brackets. -/
def splitHostPort (hostPort : List Char) : List Char × List Char :=
  let (host, port) :=
    match hostPort.reverse.findIdx? (· == ':') with
    | some k =>
      let colon := hostPort.length - 1 - k
      if validOptionalPort (hostPort.drop colon) then
        (hostPort.take colon, hostPort.drop (colon + 1))
      else (hostPort, [])
    | none => (hostPort, [])
  if host.head? = some '[' ∧ host.getLast? = some ']' then ((host.drop 1).dropLast, port)
  else (host, port)

def hostname (u : URL) : List Char := (splitHostPort u.host).1

def isAbs (u : URL) : Bool := !u.scheme.isEmpty

/-- `String`, for the URLs the model builds: no user information, no opaque part, nothing to
escape. -/
def string (u : URL) : List Char :=
  (if u.scheme.isEmpty then [] else u.scheme ++ [':']) ++
    (if u.scheme.isEmpty && u.host.isEmpty then [] else "//".toList ++ u.host) ++ u.path ++
    (if u.rawQuery.isEmpty then [] else '?' :: u.rawQuery) ++
    (if u.fragment.isEmpty then [] else '#' :: u.fragment)

theorem hostname_of_no_colon {u : URL} (h : ':' ∉ u.host)
    (hbracket : u.host.head? ≠ some '[') : u.hostname = u.host := by
  have hnone : u.host.reverse.findIdx? (· == ':') = none := by
    rw [List.findIdx?_eq_none_iff]
    intro x hx
    simp only [beq_eq_false_iff_ne]
    rintro rfl
    exact h (List.mem_reverse.mp hx)
  simp [hostname, splitHostPort, hnone, hbracket]

end URL

end Go
