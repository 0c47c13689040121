import Catalog.Text.Utf8
import Mathlib

/-!
# Texts are ordered by their UTF-8 bytes

Texts are compared character by character, by code point.  UTF-8 is laid out so that this is
also the order of their bytes: a character's first byte tells how many bytes follow and holds
the high bits of its code point, and each byte after it holds six more bits, most significant
first.  So comparing two encodings byte by byte compares the code points, and no character's
encoding is a prefix of another's.

* `utf8EncodeChar_eq`: a character's encoding is its first byte (`leadByte`) and then its
  continuation bytes (`continuationBytes`).
* `utf8EncodeChar_append_lt`: a smaller character's bytes come first, whatever follows them.
* `lt_iff_bytes_lt`: the order of texts is the order of their bytes (`Utf8.bytes`).
-/

namespace Catalog.Utf8

/-! ### The bytes of one character -/

/-- The last `k` bytes of the encoding of code point `v`: six bits each, most significant
first, tagged `0x80`. -/
def continuationBytes : Nat → Nat → List UInt8
  | 0, _ => []
  | k + 1, v => UInt8.ofNat (v / 64 ^ k % 64 + 0x80) :: continuationBytes k v

/-- The tag of a first byte followed by `k` continuation bytes. -/
def leadTag : Nat → Nat
  | 0 => 0
  | 1 => 0xc0
  | 2 => 0xe0
  | _ => 0xf0

/-- The first byte of a character's encoding: its length's tag and its code point's high bits. -/
def leadByte (c : Char) : Nat := leadTag (c.utf8Size - 1) + c.toNat / 64 ^ (c.utf8Size - 1)

/-- The four lengths of an encoding and the code points each one covers. -/
theorem utf8Size_cases (c : Char) :
    (c.utf8Size = 1 ∧ c.toNat < 0x80) ∨
      (c.utf8Size = 2 ∧ 0x80 ≤ c.toNat ∧ c.toNat < 0x800) ∨
      (c.utf8Size = 3 ∧ 0x800 ≤ c.toNat ∧ c.toNat < 0x10000) ∨
      (c.utf8Size = 4 ∧ 0x10000 ≤ c.toNat ∧ c.toNat < 0x110000) := by
  have hmax : c.toNat ≤ 0x10ffff := Char.toNat_le_max c
  rw [← Char.toNat_val] at hmax ⊢
  dsimp only [Char.utf8Size]
  split_ifs <;>
    simp only [UInt32.le_iff_toNat_le, UInt32.toNat_ofNatLT, not_le, true_and] at * <;> omega

theorem utf8EncodeChar_eq (c : Char) :
    String.utf8EncodeChar c =
      UInt8.ofNat (leadByte c) :: continuationBytes (c.utf8Size - 1) c.toNat := by
  unfold leadByte
  -- per length, the encoder's branch for it; the other branches contradict the range
  rcases utf8Size_cases c with ⟨hs, hc⟩ | ⟨hs, hc⟩ | ⟨hs, hc⟩ | ⟨hs, hc⟩ <;>
    simp only [hs, String.utf8EncodeChar, Nat.reduceSub, continuationBytes, leadTag, Char.toNat_val,
      Nat.reducePow, Nat.div_one] <;>
    split_ifs <;> first | omega | grind

theorem leadByte_lt (c : Char) : leadByte c < UInt8.size := by
  unfold leadByte
  rcases utf8Size_cases c with ⟨hs, hc⟩ | ⟨hs, hc⟩ | ⟨hs, hc⟩ | ⟨hs, hc⟩ <;>
    simp only [hs, Nat.reduceSub, leadTag, Nat.reducePow, Nat.div_one, UInt8.size] <;> omega

theorem utf8Size_le_of_le {c d : Char} (h : c.toNat ≤ d.toNat) : c.utf8Size ≤ d.utf8Size := by
  rcases utf8Size_cases c with ⟨hs, hc⟩ | ⟨hs, hc⟩ | ⟨hs, hc⟩ | ⟨hs, hc⟩ <;>
  rcases utf8Size_cases d with ⟨hs', hd⟩ | ⟨hs', hd⟩ | ⟨hs', hd⟩ | ⟨hs', hd⟩ <;> omega

/-- A longer encoding starts with a larger byte. -/
theorem leadByte_lt_of_utf8Size_lt {c d : Char} (h : c.utf8Size < d.utf8Size) :
    leadByte c < leadByte d := by
  unfold leadByte
  rcases utf8Size_cases c with ⟨hs, hc⟩ | ⟨hs, hc⟩ | ⟨hs, hc⟩ | ⟨hs, hc⟩ <;>
  rcases utf8Size_cases d with ⟨hs', hd⟩ | ⟨hs', hd⟩ | ⟨hs', hd⟩ | ⟨hs', hd⟩ <;>
    simp only [hs, hs', Nat.reduceSub, leadTag, Nat.reducePow, Nat.div_one] at h ⊢ <;> omega

/-- Continuation bytes compare as the low bits they carry. -/
theorem continuationBytes_append_lt {v w : Nat} (k : Nat) (h : v % 64 ^ k < w % 64 ^ k)
    (s t : List UInt8) : continuationBytes k v ++ s < continuationBytes k w ++ t := by
  induction k with
  | zero =>
    rw [pow_zero, Nat.mod_one, Nat.mod_one] at h
    exact absurd h (Nat.lt_irrefl 0)
  | succ k ih =>
    -- the low `6 (k + 1)` bits are the next six, above the low `6 k`
    rw [pow_succ, Nat.mod_mul, Nat.mod_mul] at h
    have hv := Nat.mod_lt v (Nat.pow_pos (by norm_num) : 0 < 64 ^ k)
    have hw := Nat.mod_lt w (Nat.pow_pos (by norm_num) : 0 < 64 ^ k)
    simp only [continuationBytes, List.cons_append]
    rcases lt_trichotomy (v / 64 ^ k % 64) (w / 64 ^ k % 64) with hd | hd | hd
    · exact List.Lex.rel ((UInt8.ofNat_lt_iff_lt (by simp [UInt8.size]; omega)
        (by simp [UInt8.size]; omega)).mpr (by omega))
    · rw [hd]
      refine List.Lex.cons (ih ?_)
      rw [hd] at h
      omega
    · -- the next six bits are larger for `v`, so its low bits are too
      have hmul := Nat.mul_le_mul_left (64 ^ k) hd
      rw [Nat.mul_succ] at hmul
      omega

/-- **A smaller character's bytes come first**, whatever follows them. -/
theorem utf8EncodeChar_append_lt {c d : Char} (h : c < d) (s t : List UInt8) :
    String.utf8EncodeChar c ++ s < String.utf8EncodeChar d ++ t := by
  have hcd : c.toNat < d.toNat := h
  have hc := leadByte_lt c
  have hd := leadByte_lt d
  rw [utf8EncodeChar_eq c, utf8EncodeChar_eq d, List.cons_append, List.cons_append]
  rcases (utf8Size_le_of_le hcd.le).lt_or_eq with hsize | hsize
  · exact List.Lex.rel ((UInt8.ofNat_lt_iff_lt hc hd).mpr (leadByte_lt_of_utf8Size_lt hsize))
  · -- as long an encoding: the first bytes compare the high bits, the rest the low ones
    unfold leadByte at hc hd ⊢
    rw [hsize] at hc ⊢
    generalize d.utf8Size - 1 = k at hc hd ⊢
    rcases lt_trichotomy (c.toNat / 64 ^ k) (d.toNat / 64 ^ k) with hq | hq | hq
    · exact List.Lex.rel ((UInt8.ofNat_lt_iff_lt hc hd).mpr (by omega))
    · rw [hq]
      refine List.Lex.cons (continuationBytes_append_lt k ?_ s t)
      have hcq := Nat.div_add_mod c.toNat (64 ^ k)
      have hdq := Nat.div_add_mod d.toNat (64 ^ k)
      rw [hq] at hcq
      omega
    · exact absurd (Nat.div_le_div_right hcd.le) (not_le.mpr hq)

/-! ### The bytes of a text -/

theorem flatMap_utf8EncodeChar_lt {a b : List Char} (h : a < b) :
    a.flatMap String.utf8EncodeChar < b.flatMap String.utf8EncodeChar := by
  induction h with
  | nil =>
    -- a proper prefix: no encoding is empty
    rw [List.flatMap_cons]
    obtain ⟨x, xs, hx⟩ := List.exists_cons_of_ne_nil String.utf8EncodeChar_ne_nil
    rw [hx, List.cons_append]
    exact List.Lex.nil
  | cons _ ih =>
    rw [List.flatMap_cons, List.flatMap_cons]
    exact List.append_left_lt ih
  | rel h =>
    rw [List.flatMap_cons, List.flatMap_cons]
    exact utf8EncodeChar_append_lt h _ _

theorem toList_toByteArray (s : String) :
    s.toByteArray.data.toList = s.toList.flatMap String.utf8EncodeChar := by
  rw [← String.utf8Encode_toList, List.utf8Encode, List.toList_data_toByteArray]

theorem toList_loop (bs : ByteArray) (i : Nat) (r : List UInt8) :
    ByteArray.toList.loop bs i r = r.reverse ++ bs.data.toList.drop i := by
  fun_induction ByteArray.toList.loop bs i r with
  | case1 i r hi ih =>
    rw [ih, List.reverse_cons, List.append_assoc, List.singleton_append]
    congr 1
    obtain ⟨data⟩ := bs
    have hi' : i < data.toList.length := by
      rw [Array.length_toList, ByteArray.size_data]
      exact hi
    rw [List.drop_eq_getElem_cons hi', ByteArray.get!, getElem!_pos data i (by simpa using hi')]
    rfl
  | case2 i r hi =>
    have hi' : bs.data.toList.length ≤ i := by
      rw [Array.length_toList, ByteArray.size_data]
      omega
    rw [List.drop_eq_nil_of_le hi', List.append_nil]

theorem toList_eq_data_toList (bs : ByteArray) : bs.toList = bs.data.toList := by
  rw [ByteArray.toList, toList_loop, List.reverse_nil, List.nil_append, List.drop_zero]

/-- The bytes of a text are the encodings of its characters, one after another. -/
theorem bytes_eq (s : String) :
    bytes s = (s.toList.flatMap String.utf8EncodeChar).map UInt8.toNat := by
  rw [bytes, String.toUTF8_eq_toByteArray, toList_eq_data_toList, toList_toByteArray]

/-- **Texts are ordered by their UTF-8 bytes.** -/
theorem lt_iff_bytes_lt (a b : String) : a < b ↔ bytes a < bytes b := by
  have hmono : ∀ {a b : String}, a < b → bytes a < bytes b := by
    intro a b h
    rw [bytes_eq, bytes_eq]
    exact List.map_lt (fun x y hxy => UInt8.lt_iff_toNat_lt.mp hxy) (flatMap_utf8EncodeChar_lt h)
  constructor
  · exact hmono
  · -- texts are ordered totally, and bytes in order are not also out of order
    intro h
    rcases lt_trichotomy a b with hab | rfl | hba
    · exact hab
    · exact absurd h (List.lt_irrefl _)
    · exact absurd h (List.lt_asymm (hmono hba))

end Catalog.Utf8
