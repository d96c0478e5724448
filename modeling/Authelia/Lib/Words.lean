import Mathlib.Data.Nat.Digits.Defs
import Mathlib.Data.Finset.Card
import Mathlib.Algebra.Order.Group.Nat

/-! Fixed-width words of a stream: the consecutive blocks of `width` items that a reader takes one
after the other, a partial block at the end left out. Taking or dropping a whole number of words'
worth of the stream takes or drops that many words, so a loop that reads the stream in rounds sees
the words of the whole stream in order. Beside them, the big-endian value of a block of bytes and
how many values below `2^(a+b)` leave a given remainder modulo `2^b`. -/

namespace Words

variable {α : Type}

/-- The blocks of `width` items at offsets `0, width, 2*width, …` that fit in `xs`. -/
def words (width : Nat) (xs : List α) : List (List α) :=
  (List.range (xs.length / width)).map fun j => (xs.drop (j * width)).take width

@[simp] theorem length_words (width : Nat) (xs : List α) :
    (words width xs).length = xs.length / width := by
  simp [words]

theorem getElem_words (width : Nat) (xs : List α) (j : Nat) (h : j < (words width xs).length) :
    (words width xs)[j] = (xs.drop (j * width)).take width := by
  simp [words]

theorem min_mul_div (k width L : Nat) : min (k * width) L / width = min k (L / width) := by
  rcases Nat.eq_zero_or_pos width with rfl | hw
  · simp
  by_cases hk : k * width ≤ L
  · have hle : k ≤ L / width := (Nat.le_div_iff_mul_le hw).mpr hk
    rw [Nat.min_eq_left hk, Nat.min_eq_left hle, Nat.mul_div_cancel k hw]
  · have hlt : L / width < k := (Nat.div_lt_iff_lt_mul hw).mpr (by omega)
    rw [Nat.min_eq_right (by omega), Nat.min_eq_right (by omega)]

theorem words_take (width k : Nat) (xs : List α) :
    words width (xs.take (k * width)) = (words width xs).take k := by
  apply List.ext_getElem
  · simp [List.length_take, min_mul_div]
  · intro j h₁ h₂
    have hj : j < k := by simp at h₂; omega
    have hw : width ≤ k * width - j * width := by
      rw [← Nat.sub_mul]
      exact Nat.le_mul_of_pos_left width (by omega)
    rw [getElem_words, List.getElem_take, getElem_words, List.drop_take, List.take_take,
      Nat.min_eq_left hw]

theorem words_drop (width k : Nat) (xs : List α) :
    words width (xs.drop (k * width)) = (words width xs).drop k := by
  apply List.ext_getElem
  · rw [length_words, List.length_drop, List.length_drop, length_words, Nat.mul_comm,
      Nat.sub_mul_div]
  · intro j h₁ h₂
    rw [getElem_words, List.getElem_drop, getElem_words, List.drop_drop, Nat.add_mul]

theorem mul_le_length_iff {width : Nat} (hw : 0 < width) (k : Nat) (xs : List α) :
    k * width ≤ xs.length ↔ k ≤ (words width xs).length := by
  rw [length_words, Nat.le_div_iff_mul_le hw]

def bigEndian (bs : List UInt8) : Nat := Nat.ofDigits 256 (bs.map UInt8.toNat).reverse

theorem bigEndian_append_singleton (bs : List UInt8) (b : UInt8) :
    bigEndian (bs ++ [b]) = bigEndian bs * 256 + b.toNat := by
  simp only [bigEndian, List.map_append, List.map_cons, List.map_nil, List.reverse_append,
    List.reverse_cons, List.reverse_nil, List.nil_append, List.singleton_append, Nat.ofDigits_cons]
  ring

theorem card_filter_mod_two_pow (a b v : Nat) (hv : v < 2 ^ b) :
    ((Finset.range (2 ^ (a + b))).filter fun w => w % 2 ^ b = v).card = 2 ^ a := by
  have hpos : 0 < 2 ^ b := Nat.two_pow_pos b
  have himage : ((Finset.range (2 ^ (a + b))).filter fun w => w % 2 ^ b = v) =
      (Finset.range (2 ^ a)).image fun q => q * 2 ^ b + v := by
    ext w
    simp only [Finset.mem_filter, Finset.mem_range, Finset.mem_image, Nat.pow_add]
    constructor
    · rintro ⟨hw, hmod⟩
      refine ⟨w / 2 ^ b, (Nat.div_lt_iff_lt_mul hpos).mpr hw, ?_⟩
      rw [← hmod, Nat.mul_comm, Nat.div_add_mod]
    · rintro ⟨q, hq, rfl⟩
      refine ⟨?_, by rw [Nat.mul_add_mod_of_lt hv]⟩
      calc q * 2 ^ b + v < q * 2 ^ b + 2 ^ b := by omega
        _ = (q + 1) * 2 ^ b := by rw [Nat.succ_mul]
        _ ≤ 2 ^ a * 2 ^ b := Nat.mul_le_mul_right _ hq
  rw [himage, Finset.card_image_of_injective _ fun q₁ q₂ h => by
    simpa [hpos.ne'] using h]
  exact Finset.card_range _

end Words
