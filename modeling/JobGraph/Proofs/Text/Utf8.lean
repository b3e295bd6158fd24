import Mathlib.Data.List.Basic
import Mathlib.Tactic.Common
import JobGraph.Text.Utf8

/-!
# Decoding what was encoded

Bytes are decoded one after another, whether they are a text or not.  The bytes of a text are
decoded as the text: every character is begun by its first byte, which says how many are to come,
and ended by its last one.

The main result is `Utf8.decodeLossy_toUTF8`.
-/

namespace JobGraph

/-- The bytes of a text are those of its characters. -/
lemma Text.toList_toUTF8 (s : String) :
    s.toUTF8.data.toList = s.toList.flatMap String.utf8EncodeChar := by
  have hbytes : ∀ cs : List Char,
      cs.utf8Encode.data.toList = cs.flatMap String.utf8EncodeChar := by
    intro cs
    induction cs with
    | nil => rfl
    | cons c cs ih =>
      rw [List.utf8Encode_cons, List.utf8Encode_singleton, ByteArray.data_append,
        List.data_toByteArray, Array.toList_append, ih, List.flatMap_cons]
  rw [← hbytes, ← String.toByteArray_ofList, String.ofList_toList, String.toUTF8_eq_toByteArray]

namespace Utf8

/-! ### Bytes -/

/-- Going through an array of bytes is going through the list of them. -/
lemma foldl_eq {β : Type} (f : β → UInt8 → β) (init : β) (bytes : ByteArray) :
    bytes.foldl f init = bytes.data.toList.foldl f init := by
  have hsize : bytes.data.toList.length = bytes.size := Array.length_toList
  have hloop : ∀ i j (b : β), i + j = bytes.size →
      (ByteArray.foldlM.loop (fun x y => (pure (f x y) : Id β)) bytes bytes.size (Nat.le_refl _)
        i j b).run = (bytes.data.toList.drop j).foldl f b := by
    intro i
    induction i with
    | zero =>
      intro j b hj
      rw [ByteArray.foldlM.loop, dif_neg (by omega), List.drop_of_length_le (by omega)]
      rfl
    | succ i ih =>
      intro j b hj
      have hlt : j < bytes.size := by omega
      rw [ByteArray.foldlM.loop, dif_pos hlt, List.drop_eq_getElem_cons (by omega), List.foldl_cons]
      exact ih (j + 1) _ (by omega)
  have h := hloop bytes.size 0 init rfl
  rw [List.drop_zero] at h
  rw [← h, ByteArray.foldl, ByteArray.foldlM, dif_pos (Nat.le_refl _)]
  rfl

lemma toNat_ofNat {n : ℕ} (h : n < 256) : (UInt8.ofNat n).toNat = n := by
  rw [UInt8.toNat_ofNat']
  omega

/-! ### Characters -/

lemma start_of_lt {b : ℕ} (h : b < 0x80) : start b = .inl (Char.ofNat b) := by
  rw [start, if_pos h]

/-- The first of two bytes. -/
lemma start_two {b : ℕ} (hlow : 0xc2 ≤ b) (hhigh : b ≤ 0xdf) :
    start b = .inr ⟨b - 0xc0, 1, 0x80, 0xbf⟩ := by
  rw [start, if_neg (by omega), if_pos (by simp [hlow, hhigh])]

/-- The first of three bytes leaves out codes that have two bytes, and half surrogate pairs. -/
lemma start_three {b : ℕ} (hlow : 0xe0 ≤ b) (hhigh : b ≤ 0xef) : start b =
    .inr ⟨b - 0xe0, 2, if b = 0xe0 then 0xa0 else 0x80, if b = 0xed then 0x9f else 0xbf⟩ := by
  rw [start, if_neg (by omega), if_neg (by simp; omega)]
  by_cases hfirst : b = 0xe0
  · subst hfirst
    rfl
  · by_cases hsurrogate : b = 0xed
    · subst hsurrogate
      rfl
    · rw [if_neg hfirst, if_neg hsurrogate, if_pos (by simp; omega), if_neg hfirst, if_neg hsurrogate]

/-- The first of four bytes leaves out codes that have three bytes, and those that are too large. -/
lemma start_four {b : ℕ} (hlow : 0xf0 ≤ b) (hhigh : b ≤ 0xf4) : start b =
    .inr ⟨b - 0xf0, 3, if b = 0xf0 then 0x90 else 0x80, if b = 0xf4 then 0x8f else 0xbf⟩ := by
  obtain rfl | rfl | rfl | rfl | rfl : b = 0xf0 ∨ b = 0xf1 ∨ b = 0xf2 ∨ b = 0xf3 ∨ b = 0xf4 := by
    omega
  all_goals rfl

variable {done : List Char} {p : Pending} {n value low high missing : ℕ}

lemma step_first (hn : n < 256) (h : start n = .inr p) :
    step (done, none) (UInt8.ofNat n) = (done, some p) := by
  rw [step, begin, toNat_ofNat hn, h]

lemma step_inner (hn : n < 256) (hlow : low ≤ n) (hhigh : n ≤ high) :
    step (done, some ⟨value, missing + 2, low, high⟩) (UInt8.ofNat n) =
      (done, some ⟨value * 64 + (n - 0x80), missing + 1, 0x80, 0xbf⟩) := by
  simp [step, toNat_ofNat hn, hlow, hhigh]

lemma step_last (hn : n < 256) (hlow : low ≤ n) (hhigh : n ≤ high) :
    step (done, some ⟨value, 1, low, high⟩) (UInt8.ofNat n) =
      (Char.ofNat (value * 64 + (n - 0x80)) :: done, none) := by
  simp [step, toNat_ofNat hn, hlow, hhigh]

/-- **One character.**  The bytes of a character are decoded as the character. -/
lemma foldl_step_utf8EncodeChar (done : List Char) (c : Char) :
    (String.utf8EncodeChar c).foldl step (done, none) = (c :: done, none) := by
  obtain ⟨n, hn⟩ : ∃ n, n = c.val.toNat := ⟨_, rfl⟩
  have hvalid : n < 0xd800 ∨ (0xdfff < n ∧ n < 0x110000) := hn ▸ c.valid
  have hc : Char.ofNat n = c := hn ▸ Char.ofNat_toNat c
  rw [String.utf8EncodeChar]
  simp only [← hn]
  -- the last byte has the lowest six bits, and so on up to the first one
  obtain ⟨d, hd⟩ : ∃ d, d = n % 64 + 128 := ⟨_, rfl⟩
  split
  · rw [List.foldl_cons, List.foldl_nil, step, begin, toNat_ofNat (by omega),
      start_of_lt (by omega), hc]
  split
  · obtain ⟨a, ha⟩ : ∃ a, a = n / 64 % 32 + 192 := ⟨_, rfl⟩
    have hvalue : (a - 0xc0) * 64 + (d - 0x80) = n := by omega
    rw [← ha, ← hd, List.foldl_cons, List.foldl_cons, List.foldl_nil,
      step_first (show a < 256 by omega) (start_two (by omega) (by omega)),
      step_last (show d < 256 by omega) (by omega) (by omega), hvalue, hc]
  obtain ⟨b, hb⟩ : ∃ b, b = n / 64 % 64 + 128 := ⟨_, rfl⟩
  split
  · obtain ⟨a, ha⟩ : ∃ a, a = n / 4096 % 16 + 224 := ⟨_, rfl⟩
    have hvalue : ((a - 0xe0) * 64 + (b - 0x80)) * 64 + (d - 0x80) = n := by omega
    rw [← ha, ← hb, ← hd, List.foldl_cons, List.foldl_cons, List.foldl_cons, List.foldl_nil,
      step_first (show a < 256 by omega) (start_three (by omega) (by omega)),
      step_inner (show b < 256 by omega) (by split <;> omega) (by split <;> omega),
      step_last (show d < 256 by omega) (by omega) (by omega), hvalue, hc]
  · obtain ⟨a, ha⟩ : ∃ a, a = n / 262144 % 8 + 240 := ⟨_, rfl⟩
    obtain ⟨e, he⟩ : ∃ e, e = n / 4096 % 64 + 128 := ⟨_, rfl⟩
    have hvalue : (((a - 0xf0) * 64 + (e - 0x80)) * 64 + (b - 0x80)) * 64 + (d - 0x80) = n := by
      omega
    rw [← ha, ← he, ← hb, ← hd, List.foldl_cons, List.foldl_cons, List.foldl_cons, List.foldl_cons,
      List.foldl_nil, step_first (show a < 256 by omega) (start_four (by omega) (by omega)),
      step_inner (show e < 256 by omega) (by split <;> omega) (by split <;> omega),
      step_inner (show b < 256 by omega) (by omega) (by omega),
      step_last (show d < 256 by omega) (by omega) (by omega), hvalue, hc]

/-- The bytes of characters are decoded one character after another. -/
lemma foldl_step_flatMap (done cs : List Char) :
    (cs.flatMap String.utf8EncodeChar).foldl step (done, none) = (cs.reverse ++ done, none) := by
  induction cs generalizing done with
  | nil => rfl
  | cons c cs ih =>
    rw [List.flatMap_cons, List.foldl_append, foldl_step_utf8EncodeChar, ih, List.reverse_cons,
      List.append_assoc, List.singleton_append]

/-- **Texts are decoded as they are.** -/
theorem decodeLossy_toUTF8 (s : String) : decodeLossy s.toUTF8 = s := by
  have hfold : s.toUTF8.foldl step ([], none) = (s.toList.reverse, none) := by
    rw [foldl_eq, Text.toList_toUTF8, foldl_step_flatMap, List.append_nil]
  rw [decodeLossy, hfold]
  exact congrArg String.ofList (List.reverse_reverse _) |>.trans String.ofList_toList

end Utf8

end JobGraph
