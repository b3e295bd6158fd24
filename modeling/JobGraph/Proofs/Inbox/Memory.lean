import JobGraph.Inbox.Filter
import JobGraph.Proofs.Document.Entries

/-!
# The memory of an inbox filter

For each path, a filter has the hash of what it last admitted.  Admitting contents and forgetting a
path change what it has for that path and for no other, and whether contents are new is seen from
what it has for their path.
-/

namespace JobGraph.Inbox.Filter

/-- The hash that the filter has for a path. -/
def remembered? (f : Inbox.Filter) (p : Path) : Option String :=
  f.seen.lookup p.components

variable {f : Inbox.Filter} {p : Path} {contents : ByteArray}

/-- A new filter has nothing for any path. -/
lemma remembered?_ofPattern {pattern : String} (hf : ofPattern pattern = .ok f) (p : Path) :
    f.remembered? p = none := by
  rw [ofPattern] at hf
  split at hf
  · cases hf
    rfl
  · cases hf

@[simp]
lemma remembered?_forget (f : Inbox.Filter) (p q : Path) :
    (f.forget p).remembered? q = if q.components = p.components then none else f.remembered? q :=
  lookup_filter_bne _ _ _

@[simp]
lemma remembered?_accept (f : Inbox.Filter) (p q : Path) (contents : ByteArray) :
    (f.accept p contents).2.remembered? q =
      if q.components = p.components then some (Blake3.hash contents) else f.remembered? q := by
  rw [accept]
  split
  · next h =>
    split
    · next hq => rw [remembered?, hq, h]
    · rfl
  · rw [remembered?, lookup_cons]
    split
    · rfl
    · next hq =>
      have hother := remembered?_forget f p q
      rwa [if_neg hq] at hother

/-- Contents are new unless they are what the filter has for their path. -/
lemma fst_accept : (f.accept p contents).1 = true ↔
    f.remembered? p ≠ some (Blake3.hash contents) := by
  rw [accept, remembered?]
  split
  · next h => simp [h]
  · next h => simp [h]

/-- Contents that are not new leave the filter as it is. -/
lemma snd_accept (h : (f.accept p contents).1 = false) : (f.accept p contents).2 = f := by
  rw [accept] at h ⊢
  split at h
  · next hsame => rw [if_pos hsame]
  · cases h

@[simp]
lemma selects_forget (f : Inbox.Filter) (p q : Path) : (f.forget p).selects q = f.selects q := rfl

@[simp]
lemma selects_accept (f : Inbox.Filter) (p q : Path) (contents : ByteArray) :
    (f.accept p contents).2.selects q = f.selects q := by
  rw [accept]
  split
  · rfl
  · rfl

end JobGraph.Inbox.Filter
