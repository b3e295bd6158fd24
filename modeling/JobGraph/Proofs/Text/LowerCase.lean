import Mathlib.Data.List.Basic
import Mathlib.Tactic.Common
import JobGraph.Unicode.Lowercase

/-!
# Words in lower case

A word is compared without regard to case by its lower-case form, which is defined for characters
of all scripts.  One character beyond ASCII has a lower-case form that is a letter of ASCII: the
kelvin sign, which becomes a `k`.  So a text whose lower-case form is a word of ASCII without a `k`
is this word, letter by letter, in upper or lower case.

The main result is `Unicode.lower_eq_iff`.
-/

namespace JobGraph.Unicode

/-- The character is the lower-case form of characters of ASCII alone, or of none. -/
def FromAscii (c : Char) : Prop :=
  c.toNat < 128 ∧ c ≠ 'k'

instance (c : Char) : Decidable (FromAscii c) :=
  inferInstanceAs (Decidable (_ ∧ _))

/-! ### Characters -/

/-- The runs lead to characters beyond ASCII, apart from that of the kelvin sign. -/
lemma beyond_of_mem_lowercaseRuns : ∀ r ∈ lowercaseRuns,
    (r.first = 0x212a ∧ r.last = 0x212a) ∨
      (128 ≤ r.first + r.offset ∧ (r.last + r.offset < 0xd800 ∨
        (0xdfff < r.first + r.offset ∧ r.last + r.offset < 0x110000))) := by
  decide +kernel

lemma not_fromAscii_kelvin : ¬ FromAscii (Run.apply lowercaseRuns (Char.ofNat 0x212a)) := by
  decide +kernel

lemma not_fromAscii_apply {c : Char} (hc : 128 ≤ c.toNat) :
    ¬ FromAscii (Run.apply lowercaseRuns c) := by
  by_cases hkelvin : c = Char.ofNat 0x212a
  · rw [hkelvin]
    exact not_fromAscii_kelvin
  · rw [Run.apply]
    split
    · next r hr =>
      have hcovers := List.find?_some hr
      simp only [Run.covers, Bool.and_eq_true, decide_eq_true_eq] at hcovers
      rcases beyond_of_mem_lowercaseRuns r (List.mem_of_find?_eq_some hr) with hfirst | hbeyond
      · -- the run of the kelvin sign holds no other character
        refine absurd ?_ hkelvin
        rw [← Char.toNat_inj]
        exact (show c.toNat = 0x212a by omega)
      · obtain ⟨n, hn, hint⟩ : ∃ n, (Int.ofNat c.toNat + r.offset).toNat = n ∧
            (n : Int) = c.toNat + r.offset := by
          refine ⟨_, rfl, ?_⟩
          rw [Int.ofNat_eq_natCast]
          omega
        have hvalid : n.isValidChar := by
          rw [Nat.isValidChar]
          omega
        have hnat : (Char.ofNat n).toNat = n := by
          rw [Char.ofNat, dif_pos hvalid]
          rfl
        rw [hn, FromAscii, hnat]
        omega
    · rw [FromAscii]
      omega

lemma toLower_eq_self {c : Char} (h : ¬ (65 ≤ c.toNat ∧ c.toNat ≤ 90)) : c.toLower = c :=
  dif_neg h

/-! ### Texts -/

/-- What the first character of a text becomes shows that it is beyond ASCII. -/
lemma exists_mem_lowerAfter {c : Char} (hc : 128 ≤ c.toNat) (before s : List Char) :
    ∃ d ∈ lowerAfter before (c :: s), ¬ FromAscii d := by
  rw [lowerAfter]
  split
  · -- a sigma, at the end of a word or not
    split
    · exact ⟨Char.ofNat 0x3c2, by simp, by decide⟩
    · exact ⟨Char.ofNat 0x3c3, by simp, by decide⟩
  · rw [lowerChar, if_neg (by omega)]
    split
    · exact ⟨Char.ofNat 0x307, by simp, by decide⟩
    · exact ⟨Run.apply lowercaseRuns c, by simp, not_fromAscii_apply hc⟩

lemma lowerAfter_eq_iff {w : List Char} (hw : ∀ c ∈ w, FromAscii c) (before s : List Char) :
    lowerAfter before s = w ↔ s.map Char.toLower = w := by
  induction s generalizing before w with
  | nil => rfl
  | cons c s ih =>
    rcases Nat.lt_or_ge c.toNat 128 with hc | hc
    · rw [lowerAfter, if_neg (by omega), lowerChar, if_pos hc, List.singleton_append, List.map_cons]
      cases w with
      | nil => simp
      | cons d w =>
        rw [List.forall_mem_cons] at hw
        rw [List.cons.injEq, List.cons.injEq, ih hw.2]
    · -- neither side holds, as the word has no character that comes from beyond ASCII
      obtain ⟨d, hd, hnot⟩ := exists_mem_lowerAfter hc before s
      constructor
      · intro h
        rw [h] at hd
        exact absurd (hw d hd) hnot
      · intro h
        have hmem : c ∈ w := by
          rw [← h, List.map_cons, toLower_eq_self (by omega)]
          exact List.mem_cons_self
        have := (hw c hmem).1
        omega

/-- **Comparing without regard to case.**  The lower-case form of a text is a word of ASCII without
a `k` exactly if the text is this word in letters of any case. -/
theorem lower_eq_iff {s w : String} (hw : ∀ c ∈ w.toList, FromAscii c) :
    lower s = w ↔ s.toList.map Char.toLower = w.toList := by
  rw [lower, ← String.toList_inj, String.toList_ofList, lowerAfter_eq_iff hw]

/-- The kelvin sign is the reason why words with a `k` are left out. -/
example : lower (String.ofList [Char.ofNat 0x212a]) = "k" := by decide +kernel

end JobGraph.Unicode
