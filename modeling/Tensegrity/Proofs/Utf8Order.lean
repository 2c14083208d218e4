import Mathlib

/-!
# Byte order is character order

Words are kept in the order of strings, which compares them character by character, by code
point. Stored and compared as bytes, the same words are in the lexicographic order of their
UTF-8 encodings. The two orders are one (`Text.lt_iff_utf8_lt`).

UTF-8 writes a character as a lead byte, which grows with the number of bytes, followed by
base-64 digits of the code point. So of two characters the smaller has a smaller lead byte, or as
many bytes with a smaller value (`Text.utf8EncodeChar_lt`); either way its encoding comes first
whatever follows it, and never is a proper prefix of the other's.
-/

namespace Tensegrity

namespace Text

/-- **The UTF-8 bytes of a string.** -/
def utf8 (s : String) : List UInt8 := s.toByteArray.data.toList

/-- The bytes of a string are the encodings of its characters, one after another. -/
theorem utf8_eq (s : String) : utf8 s = s.toList.flatMap String.utf8EncodeChar := by
  rw [utf8, ← String.utf8Encode_toList, List.utf8Encode, List.toList_data_toByteArray]

/-! ## Lists of bytes -/

/-- The big-endian value of a list of bytes. -/
def bytesValue : List UInt8 → Nat
  | [] => 0
  | b :: bs => b.toNat * 256 ^ bs.length + bytesValue bs

theorem bytesValue_lt : ∀ bs : List UInt8, bytesValue bs < 256 ^ bs.length
  | [] => Nat.one_pos
  | b :: bs => by
    have hb : b.toNat < 256 := b.toNat_lt
    have ih := bytesValue_lt bs
    calc b.toNat * 256 ^ bs.length + bytesValue bs < (b.toNat + 1) * 256 ^ bs.length := by
          rw [Nat.succ_mul]; omega
      _ ≤ 256 * 256 ^ bs.length := Nat.mul_le_mul_right _ hb
      _ = 256 ^ (b :: bs).length := by rw [List.length_cons, Nat.pow_succ, Nat.mul_comm]

/-- **Byte lists of one length compare as their values**, whatever follows them. -/
theorem append_lt_of_bytesValue_lt : ∀ {as bs : List UInt8}, as.length = bs.length →
    bytesValue as < bytesValue bs → ∀ u v : List UInt8, as ++ u < bs ++ v
  | [], [], _, h, _, _ => absurd h (Nat.lt_irrefl 0)
  | a :: as, b :: bs, hlen, h, u, v => by
    have hl : as.length = bs.length := Nat.succ.inj hlen
    simp only [bytesValue, hl] at h
    rcases Nat.lt_trichotomy a.toNat b.toNat with hab | hab | hab
    · exact List.cons_lt_cons_iff.2 (.inl (UInt8.lt_iff_toNat_lt.2 hab))
    · refine List.cons_lt_cons_iff.2 (.inr ⟨UInt8.toNat_inj.1 hab, ?_⟩)
      exact append_lt_of_bytesValue_lt hl (by rw [hab] at h; omega) u v
    · -- a larger first byte outweighs whatever follows it
      have hle : (b.toNat + 1) * 256 ^ bs.length ≤ a.toNat * 256 ^ bs.length :=
        Nat.mul_le_mul_right _ hab
      have := bytesValue_lt bs
      rw [Nat.succ_mul] at hle
      omega

/-- A byte list with a smaller first byte comes first, whatever follows. -/
theorem append_lt_of_headD_lt {as bs : List UInt8} (ha : as ≠ []) (hb : bs ≠ [])
    (h : as.headD 0 < bs.headD 0) (u v : List UInt8) : as ++ u < bs ++ v := by
  obtain ⟨a, as, rfl⟩ := List.exists_cons_of_ne_nil ha
  obtain ⟨b, bs, rfl⟩ := List.exists_cons_of_ne_nil hb
  exact List.cons_lt_cons_iff.2 (.inl h)

/-! ## Characters -/

theorem byte_toNat {n : Nat} (h : n < 256) : (UInt8.ofNat n).toNat = n := UInt8.toNat_ofNat_of_lt' h

/-- **Of two characters, the smaller is encoded with a smaller lead byte**, or with as many bytes
and a smaller value. -/
theorem utf8EncodeChar_lt {c d : Char} (h : c < d) :
    (String.utf8EncodeChar c).headD 0 < (String.utf8EncodeChar d).headD 0 ∨
      ((String.utf8EncodeChar c).length = (String.utf8EncodeChar d).length ∧
        bytesValue (String.utf8EncodeChar c) < bytesValue (String.utf8EncodeChar d)) := by
  have hcd : c.val.toNat < d.val.toNat := UInt32.lt_iff_toNat_lt.1 h
  have hd : d.val.toNat < 0x110000 := by rcases d.valid with hd | ⟨-, hd⟩ <;> omega
  simp only [String.utf8EncodeChar]
  generalize c.val.toNat = x at *
  generalize d.val.toNat = y at *
  -- the lead byte of four has three bits of the code point, all of them
  have hx : x / 262144 % 8 = x / 262144 := Nat.mod_eq_of_lt (by omega)
  have hy : y / 262144 % 8 = y / 262144 := Nat.mod_eq_of_lt (by omega)
  -- one case for each length of each encoding
  split_ifs <;>
    simp (disch := omega) only [bytesValue, byte_toNat, List.headD_cons, List.length_cons,
      List.length_nil, UInt8.lt_iff_toNat_lt, Nat.reduceAdd, Nat.reducePow, Nat.add_zero,
      Nat.mul_one, true_and, hx, hy] <;>
    omega

/-- **UTF-8 keeps the order of characters**, whatever follows each encoding. -/
theorem utf8EncodeChar_append_lt {c d : Char} (h : c < d) (u v : List UInt8) :
    String.utf8EncodeChar c ++ u < String.utf8EncodeChar d ++ v := by
  rcases utf8EncodeChar_lt h with hlead | ⟨hlen, hval⟩
  · exact append_lt_of_headD_lt String.utf8EncodeChar_ne_nil String.utf8EncodeChar_ne_nil hlead u v
  · exact append_lt_of_bytesValue_lt hlen hval u v

/-! ## Strings -/

/-- Encoding character by character keeps the order of character lists. -/
theorem flatMap_utf8EncodeChar_lt : ∀ {s t : List Char}, s < t →
    s.flatMap String.utf8EncodeChar < t.flatMap String.utf8EncodeChar
  | [], d :: t, .nil => by
    obtain ⟨b, bs, hd⟩ := List.exists_cons_of_ne_nil (String.utf8EncodeChar_ne_nil (c := d))
    rw [List.flatMap_nil, List.flatMap_cons, hd]
    exact List.Lex.nil
  | c :: s, d :: t, .rel h => by
    rw [List.flatMap_cons, List.flatMap_cons]
    exact utf8EncodeChar_append_lt h _ _
  | c :: s, _ :: t, .cons h => by
    rw [List.flatMap_cons, List.flatMap_cons]
    exact List.append_left_lt (flatMap_utf8EncodeChar_lt h)

/-- **Strings compare as their UTF-8 bytes.** -/
theorem lt_iff_utf8_lt (a b : String) : a < b ↔ utf8 a < utf8 b := by
  rw [utf8_eq, utf8_eq]
  constructor
  · exact flatMap_utf8EncodeChar_lt
  · -- the encoding is strictly monotone, so it reflects the order as well
    intro h
    rcases lt_trichotomy a b with hab | rfl | hab
    · exact hab
    · exact absurd h (List.lt_irrefl _)
    · exact absurd h (List.lt_asymm (flatMap_utf8EncodeChar_lt hab))

end Text

end Tensegrity
