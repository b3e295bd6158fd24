import Mathlib.Tactic.Common
import JobGraph.FailureNotice

/-!
# Encoded reasons

Bytes that are written in base 64 are read back as they were.  Three bytes stand in four digits, and
a group of digits is told from the padded groups at the end by its last character, as no digit is
written as the padding.  A text is read back from its bytes, so a failure notice holds its reason
whatever the reason says; this is `FailureNotice.reason?_ofReason`.
-/

namespace JobGraph

namespace Base64

lemma ofNat_eq_of_mod {n : ℕ} {b : UInt8} (h : n % 256 = b.toNat) : UInt8.ofNat n = b := by
  rw [← UInt8.toNat_inj, UInt8.toNat_ofNat', ← h]

/-! ### Groups of digits -/

/-- A group of four digits in front stands for three bytes. -/
lemma decode?_digits {i j k l : ℕ} (hi : i < 64) (hj : j < 64) (hk : k < 64) (hl : l < 64)
    (rest : List Char) :
    decode? (digit i :: digit j :: digit k :: digit l :: rest) =
      (decode? rest).map fun bytes =>
        let n := ((i * 64 + j) * 64 + k) * 64 + l
        UInt8.ofNat (n / 65536) :: UInt8.ofNat (n / 256) :: UInt8.ofNat n :: bytes := by
  have hpad := digit_ne_padding l hl
  rw [decode?]
  · rw [value?_digit i hi, value?_digit j hj, value?_digit k hk, value?_digit l hl]
    cases decode? rest <;> rfl
  · -- the group is not a padded one, as it does not end in the padding
    rintro - h -
    exact hpad h
  · rintro h -
    exact hpad h

/-- Three digits and the padding stand for two bytes. -/
lemma decode?_three {i j k : ℕ} (hi : i < 64) (hj : j < 64) (hk : k < 64)
    (hzero : ((i * 64 + j) * 64 + k) % 4 = 0) :
    decode? [digit i, digit j, digit k, '='] =
      some [UInt8.ofNat (((i * 64 + j) * 64 + k) / 1024),
        UInt8.ofNat (((i * 64 + j) * 64 + k) / 4)] := by
  rw [decode?]
  · rw [value?_digit i hi, value?_digit j hj, value?_digit k hk]
    exact if_pos hzero
  · exact digit_ne_padding k hk

/-- Two digits and the padding stand for one byte. -/
lemma decode?_two {i j : ℕ} (hi : i < 64) (hj : j < 64) (hzero : (i * 64 + j) % 16 = 0) :
    decode? [digit i, digit j, '=', '='] = some [UInt8.ofNat ((i * 64 + j) / 16)] := by
  rw [decode?, value?_digit i hi, value?_digit j hj]
  exact if_pos hzero

/-- **Nothing is lost by encoding.** -/
theorem decode?_encode (bytes : List UInt8) : decode? (encode bytes) = some bytes := by
  induction bytes using encode.induct with
  | case1 a b c rest ih =>
    have ha := a.toNat_lt
    have hb := b.toNat_lt
    have hc := c.toNat_lt
    rw [encode, decode?_digits (by omega) (by omega) (by omega) (by omega), ih, Option.map_some]
    refine congrArg some ?_
    dsimp only
    rw [ofNat_eq_of_mod (b := a) (by omega), ofNat_eq_of_mod (b := b) (by omega),
      ofNat_eq_of_mod (b := c) (by omega)]
  | case2 a b =>
    have ha := a.toNat_lt
    have hb := b.toNat_lt
    rw [encode, decode?_three (by omega) (by omega) (by omega) (by omega),
      ofNat_eq_of_mod (b := a) (by omega), ofNat_eq_of_mod (b := b) (by omega)]
  | case3 a =>
    have ha := a.toNat_lt
    rw [encode, decode?_two (by omega) (by omega) (by omega), ofNat_eq_of_mod (b := a) (by omega)]
  | case4 => rfl

end Base64

/-- A text is read back from its bytes. -/
lemma Text.fromUTF8?_toUTF8 (s : String) : String.fromUTF8? s.toUTF8 = some s := by
  rw [String.fromUTF8?]
  exact dif_pos s.isValidUTF8

/-- Bytes that are read as a text are those of the text. -/
lemma Text.toUTF8_of_fromUTF8? {b : ByteArray} {s : String} (h : String.fromUTF8? b = some s) :
    s.toUTF8 = b := by
  rw [String.fromUTF8?] at h
  split at h
  · cases h
    rfl
  · cases h

namespace FailureNotice

/-- **A notice holds its reason.** -/
theorem reason?_ofReason (taskName submitter reason : String) :
    (ofReason taskName submitter reason).reason? = some reason := by
  rw [reason?, decodeReason?, ofReason, String.toList_ofList, Base64.decode?_encode]
  exact Text.fromUTF8?_toUTF8 reason

end FailureNotice

end JobGraph
