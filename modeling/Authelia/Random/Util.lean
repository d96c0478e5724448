import Authelia.Lib.Words

/-! The charset sampler of `random/util.go`. `bytesCharsetErr` fills `n` bytes from a charset of
`t` entries: it reads words of `width` bytes, keeps the low `nbits` bits of each, and rejects a
value past the end of the charset. Each round asks `io.ReadFull` for one word per byte still to
fill, so the last word it reads is the one that fills the last byte. The reader is the list of
bytes it yields before it ends, and `io.ReadFull` fails when fewer remain than it asks for. -/

namespace Authelia.Random
open Words

inductive ReadFullError
  | eof
  | unexpectedEOF
  deriving DecidableEq, Repr

/-- `io.ReadFull` of `k` bytes: the bytes, and what the reader holds after them. -/
def readFull (reader : List UInt8) (k : Nat) : Except ReadFullError (List UInt8 × List UInt8) :=
  if k ≤ reader.length then .ok (reader.take k, reader.drop k)
  else if reader = [] then .error .eof
  else .error .unexpectedEOF

theorem readFull_eq_ok {reader chunk rest : List UInt8} {k : Nat}
    (h : readFull reader k = .ok (chunk, rest)) :
    k ≤ reader.length ∧ chunk = reader.take k ∧ rest = reader.drop k := by
  unfold readFull at h
  split at h
  · rename_i hk
    cases h
    exact ⟨hk, rfl, rfl⟩
  · split at h <;> cases h

theorem length_lt_of_readFull {reader chunk rest : List UInt8} {k : Nat} (hk : 0 < k)
    (h : readFull reader k = .ok (chunk, rest)) : rest.length < reader.length := by
  obtain ⟨hle, -, rfl⟩ := readFull_eq_ok h
  rw [List.length_drop]
  omega

theorem length_lt_of_readFull_eq_error {reader : List UInt8} {k : Nat} {e : ReadFullError}
    (h : readFull reader k = .error e) : reader.length < k := by
  unfold readFull at h
  split at h
  · cases h
  · omega

def len64 (x : UInt64) : Nat := if x = 0 then 0 else x.toNat.log2 + 1

def charsetSize (charset : List UInt8) : UInt64 := UInt64.ofNat charset.length

def nbits (t : UInt64) : Nat := len64 (t - 1)

def width (t : UInt64) : Nat := (nbits t + 7) / 8

def mask (t : UInt64) : Nat := 2 ^ nbits t - 1

theorem width_pos {t : UInt64} (ht : t ≠ 1) : 0 < width t := by
  have hne : t - 1 ≠ 0 := by
    intro h
    apply ht
    rw [← UInt64.sub_add_cancel t 1, h]
    rfl
  simp only [width, nbits, len64, if_neg hne]
  omega

def wordValue (word : List UInt8) : Nat := word.foldl (fun value b => value <<< 8 ||| b.toNat) 0

/-- The inner loop over one chunk: each of its words in turn, while fewer than `n` bytes are
filled. -/
def fillChunk (charset : List UInt8) (t mask width n : Nat) (chunk data : List UInt8) :
    List UInt8 :=
  (words width chunk).foldl (fun data word =>
    if data.length < n then
      let value := wordValue word &&& mask
      if value < t then data ++ [charset.getD value 0] else data
    else data) data

/-- The outer loop: a round reads one word for each byte still to fill. -/
def fillLoop (charset : List UInt8) (t mask width n : Nat) (hwidth : 0 < width)
    (reader data : List UInt8) : Except ReadFullError (List UInt8) :=
  if _hi : data.length < n then
    match _hr : readFull reader ((n - data.length) * width) with
    | .error e => .error e
    | .ok (chunk, rest) =>
      fillLoop charset t mask width n hwidth rest (fillChunk charset t mask width n chunk data)
  else .ok data
termination_by reader.length
decreasing_by exact length_lt_of_readFull (Nat.mul_pos (by omega) hwidth) _hr

def bytesCharsetErr (reader : List UInt8) (n : Nat) (charset : List UInt8) :
    Except ReadFullError (List UInt8) :=
  if ht : charsetSize charset = 1 then .ok (List.replicate n (charset.getD 0 0))
  else
    fillLoop charset (charsetSize charset).toNat (mask (charsetSize charset))
      (width (charsetSize charset)) n (width_pos ht) reader []

/-! ### The values the sampler accepts -/

/-- The values the sampler accepts from a stream, in order: the big-endian value of each word of
`width` bytes with the bits outside `mask` cleared, when it is below `t`. -/
def acceptedValues (t mask width : Nat) (stream : List UInt8) : List Nat :=
  ((words width stream).map fun w => bigEndian w &&& mask).filter (· < t)

theorem wordValue_eq_bigEndian (word : List UInt8) : wordValue word = bigEndian word := by
  induction word using List.reverseRecOn with
  | nil => rfl
  | append_singleton bs b ih =>
    have hb : b.toNat < 2 ^ 8 := UInt8.toNat_lt b
    simp only [wordValue, List.foldl_append, List.foldl_cons, List.foldl_nil] at ih ⊢
    rw [ih, ← Nat.shiftLeft_add_eq_or_of_lt hb, Nat.shiftLeft_eq, bigEndian_append_singleton]

theorem length_acceptedValues_le (t mask width : Nat) (stream : List UInt8) :
    (acceptedValues t mask width stream).length ≤ stream.length / width := by
  calc (acceptedValues t mask width stream).length
      ≤ ((words width stream).map fun w => bigEndian w &&& mask).length :=
        List.length_filter_le _ _
    _ = stream.length / width := by rw [List.length_map, length_words]

theorem acceptedValues_take_append_drop (t mask width k : Nat) (stream : List UInt8) :
    acceptedValues t mask width (stream.take (k * width)) ++
        acceptedValues t mask width (stream.drop (k * width)) =
      acceptedValues t mask width stream := by
  simp only [acceptedValues, words_take, words_drop, ← List.filter_append, ← List.map_append,
    List.take_append_drop]

section Loop
variable (charset : List UInt8) (t mask width n : Nat)

theorem fillChunk_eq (chunk data : List UInt8)
    (hroom : data.length + (words width chunk).length ≤ n) :
    fillChunk charset t mask width n chunk data =
      data ++ (acceptedValues t mask width chunk).map fun v => charset.getD v 0 := by
  unfold fillChunk acceptedValues
  simp only [wordValue_eq_bigEndian]
  generalize words width chunk = ws at hroom ⊢
  induction ws generalizing data with
  | nil => simp
  | cons w ws ih =>
    rw [List.length_cons] at hroom
    rw [List.foldl_cons, if_pos (by omega)]
    by_cases hv : bigEndian w &&& mask < t
    · have hroom' : (data ++ [charset.getD (bigEndian w &&& mask) 0]).length + ws.length ≤ n := by
        rw [List.length_append, List.length_singleton]
        omega
      rw [if_pos hv, ih _ hroom']
      simp [hv]
    · rw [if_neg hv, ih _ (by omega)]
      simp [hv]

theorem fillLoop_eq (hwidth : 0 < width) (reader data : List UInt8) (hdata : data.length ≤ n) :
    (n - data.length ≤ (acceptedValues t mask width reader).length →
      fillLoop charset t mask width n hwidth reader data =
        .ok (data ++ ((acceptedValues t mask width reader).take (n - data.length)).map
          fun v => charset.getD v 0)) ∧
    ((acceptedValues t mask width reader).length < n - data.length →
      ∃ e, fillLoop charset t mask width n hwidth reader data = .error e) := by
  rw [fillLoop]
  split
  · rename_i hi
    split
    · -- `io.ReadFull` fails: fewer words remain than bytes are missing.
      rename_i e hr
      have hshort := length_lt_of_readFull_eq_error hr
      have hwords : reader.length / width < n - data.length := by
        by_contra hge
        have := (Nat.le_div_iff_mul_le hwidth).mp (Nat.le_of_not_lt hge)
        omega
      have hacc := length_acceptedValues_le t mask width reader
      exact ⟨fun h => absurd h (by omega), fun _ => ⟨e, rfl⟩⟩
    · -- A full round: the chunk holds exactly one word per missing byte.
      rename_i chunk rest hr
      have hlt := length_lt_of_readFull (Nat.mul_pos (by omega) hwidth) hr
      obtain ⟨hle, rfl, rfl⟩ := readFull_eq_ok hr
      have hk : n - data.length ≤ (words width reader).length :=
        (mul_le_length_iff hwidth _ reader).mp hle
      have hchunk : (words width (reader.take ((n - data.length) * width))).length =
          n - data.length := by
        rw [words_take, List.length_take]
        omega
      have ha := length_acceptedValues_le t mask width (reader.take ((n - data.length) * width))
      rw [← length_words, hchunk] at ha
      have hsplit := acceptedValues_take_append_drop t mask width (n - data.length) reader
      rw [fillChunk_eq charset t mask width n _ data (by omega)]
      obtain ⟨ih₁, ih₂⟩ := fillLoop_eq hwidth (reader.drop ((n - data.length) * width))
        (data ++ (acceptedValues t mask width (reader.take ((n - data.length) * width))).map
          fun v => charset.getD v 0) (by simp; omega)
      simp only [List.length_append, List.length_map] at ih₁ ih₂
      rw [← hsplit, List.length_append]
      refine ⟨fun henough => ?_, fun hshort => ih₂ (by omega)⟩
      rw [ih₁ (by omega)]
      -- The first values come from this round's chunk, the rest from the later rounds.
      set a := acceptedValues t mask width (reader.take ((n - data.length) * width))
      set b := acceptedValues t mask width (reader.drop ((n - data.length) * width))
      have htake : (a ++ b).take (n - data.length) = a ++ b.take (n - (data.length + a.length)) := by
        rw [show n - data.length = a.length + (n - (data.length + a.length)) by omega,
          List.take_length_add_append]
      rw [htake]
      simp
  · -- Every byte is filled.
    rename_i hi
    have hfull : data.length = n := by omega
    refine ⟨fun _ => ?_, fun h => absurd h (by omega)⟩
    simp [hfull]
termination_by reader.length

end Loop

/-! ### The sizes the sampler derives from the charset -/

theorem mask_add_one (t : UInt64) : mask t + 1 = 2 ^ nbits t := by
  have := Nat.one_le_two_pow (n := nbits t)
  rw [mask]
  omega

theorem nbits_le_width (t : UInt64) : nbits t ≤ 8 * width t := by
  rw [width]
  omega

section Sizes
variable {t : UInt64} (ht : 2 ≤ t.toNat)
include ht

theorem two_pow_nbits_bounds : t.toNat ≤ 2 ^ nbits t ∧ 2 ^ nbits t < 2 * t.toNat := by
  have hle : (1 : UInt64) ≤ t := by
    rw [UInt64.le_iff_toNat_le]
    simp only [UInt64.toNat_one]
    omega
  have hsub : (t - 1).toNat = t.toNat - 1 := by
    rw [UInt64.toNat_sub_of_le t 1 hle, UInt64.toNat_one]
  have hne : t - 1 ≠ 0 := by
    intro h
    have := congrArg UInt64.toNat h
    rw [hsub, UInt64.toNat_zero] at this
    omega
  have hlow := Nat.log2_self_le (n := (t - 1).toNat) (by rw [hsub]; omega)
  have hhigh := Nat.lt_log2_self (n := (t - 1).toNat)
  rw [hsub] at hlow hhigh
  simp only [nbits, len64, if_neg hne, hsub, Nat.pow_succ]
  omega

theorem card_filter_masked_eq {v : Nat} (hv : v < t.toNat) :
    ((Finset.range (2 ^ (8 * width t))).filter fun w => w &&& mask t = v).card =
      2 ^ (8 * width t - nbits t) := by
  obtain ⟨a, ha⟩ : ∃ a, 8 * width t = a + nbits t :=
    ⟨8 * width t - nbits t, by have := nbits_le_width t; omega⟩
  have hbound := (two_pow_nbits_bounds ht).1
  simp only [mask, Nat.and_two_pow_sub_one_eq_mod]
  rw [ha, Nat.add_sub_cancel]
  exact card_filter_mod_two_pow a (nbits t) v (by omega)

end Sizes

/-- For a charset of two entries or more, `bytesCharsetErr` picks its bytes with the values the
stream's words give, in order, and fails when the stream runs out first; each index is the
masked value of the same number of words, and more than half of all words are accepted. -/
theorem bytesCharsetErr_rejection_sampling (reader : List UInt8) (n : Nat) (charset : List UInt8)
    (ht : 2 ≤ (charsetSize charset).toNat) :
    (n ≤ (acceptedValues (charsetSize charset).toNat (mask (charsetSize charset))
        (width (charsetSize charset)) reader).length →
      bytesCharsetErr reader n charset =
        .ok (((acceptedValues (charsetSize charset).toNat (mask (charsetSize charset))
          (width (charsetSize charset)) reader).take n).map fun v => charset.getD v 0)) ∧
    ((acceptedValues (charsetSize charset).toNat (mask (charsetSize charset))
        (width (charsetSize charset)) reader).length < n →
      ∃ e, bytesCharsetErr reader n charset = .error e) ∧
    (∀ v < (charsetSize charset).toNat,
      ((Finset.range (2 ^ (8 * width (charsetSize charset)))).filter
        fun w => w &&& mask (charsetSize charset) = v).card =
        2 ^ (8 * width (charsetSize charset) - nbits (charsetSize charset))) ∧
    mask (charsetSize charset) + 1 < 2 * (charsetSize charset).toNat ∧
    (charsetSize charset).toNat ≤ mask (charsetSize charset) + 1 := by
  have hne : charsetSize charset ≠ 1 := by
    intro h
    rw [h, UInt64.toNat_one] at ht
    omega
  have hloop := fillLoop_eq charset (charsetSize charset).toNat (mask (charsetSize charset))
    (width (charsetSize charset)) n (width_pos hne) reader [] (by simp)
  simp only [List.length_nil, Nat.sub_zero, List.nil_append] at hloop
  have hbounds := two_pow_nbits_bounds ht
  rw [bytesCharsetErr, dif_neg hne]
  refine ⟨hloop.1, hloop.2, fun v hv => card_filter_masked_eq ht hv, ?_, ?_⟩
  · rw [mask_add_one]
    exact hbounds.2
  · rw [mask_add_one]
    exact hbounds.1

def charSetNumeric : List UInt8 := "0123456789".toList.map Char.toUInt8

theorem bytesCharsetErr_rejection_sampling_numeric :
    2 ≤ (charsetSize charSetNumeric).toNat ∧
      acceptedValues (charsetSize charSetNumeric).toNat (mask (charsetSize charSetNumeric))
          (width (charsetSize charSetNumeric)) [3, 12, 7] = [3, 7] ∧
      bytesCharsetErr [3, 12, 7] 2 charSetNumeric = .ok ['3'.toUInt8, '7'.toUInt8] := by
  have ht : 2 ≤ (charsetSize charSetNumeric).toNat := by decide
  have haccepted : acceptedValues (charsetSize charSetNumeric).toNat
      (mask (charsetSize charSetNumeric)) (width (charsetSize charSetNumeric)) [3, 12, 7] =
      [3, 7] := by
    decide +kernel
  have hok := (bytesCharsetErr_rejection_sampling [3, 12, 7] 2 charSetNumeric ht).1
    (by rw [haccepted]; decide)
  rw [haccepted] at hok
  refine ⟨ht, haccepted, hok.trans ?_⟩
  decide

end Authelia.Random
