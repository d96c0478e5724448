import Mathlib.Data.List.Basic

/-! `net.IP` and `net.IPNet` as byte slices, with `Contains` as the standard library computes it:
both sides are reduced to their 4-byte form when they have one, and a network whose address and
mask lengths do not fit together has Go's `nil` network number and mask. -/

namespace Go

/-- `net.IP.To4`: the 4-byte form of an IPv4 or IPv4-mapped IPv6 address. -/
def to4 (ip : List UInt8) : Option (List UInt8) :=
  if ip.length = 4 then some ip
  else if ip.length = 16 ∧ (ip.take 10).all (· == 0) ∧ ip[10]? = some 0xff ∧ ip[11]? = some 0xff
  then some (ip.drop 12)
  else none

structure IPNet where
  ip : List UInt8
  mask : List UInt8
  deriving DecidableEq, Repr

namespace IPNet

/-- `networkNumberAndMask`; `none` is Go's `nil, nil`. -/
def networkNumberAndMask (n : IPNet) : Option (List UInt8 × List UInt8) := do
  let ip ← match to4 n.ip with
    | some ip => some ip
    | none => if n.ip.length = 16 then some n.ip else none
  if n.mask.length = 4 then
    if ip.length = 4 then some (ip, n.mask) else none
  else if n.mask.length = 16 then
    some (ip, if ip.length = 4 then n.mask.drop 12 else n.mask)
  else none

/-- `(*IPNet).Contains`. A nil network number has length 0, so it contains exactly the empty
address. -/
def contains (n : IPNet) (ip : List UInt8) : Bool :=
  let (nn, m) := n.networkNumberAndMask.getD ([], [])
  let ip := (to4 ip).getD ip
  ip.length == nn.length && ((nn.zip m).zip ip).all fun ((a, k), b) => a &&& k == b &&& k

end IPNet

end Go
