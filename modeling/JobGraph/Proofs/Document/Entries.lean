import Mathlib.Tactic.Common
import JobGraph.Document

/-!
# Looking up entries

Which value a list of entries has for a key, after an entry has been set or all entries of a key
have been dropped.

Entries are sorted if every key comes before those behind it; then no key is repeated.  Setting an
entry keeps entries sorted, and sorted entries stay as they are when they are sorted again.
-/

namespace JobGraph

section Lookup

variable {α β : Type} [BEq α] [LawfulBEq α] [DecidableEq α]

lemma lookup_cons (k key : α) (b : β) (entries : List (α × β)) :
    ((k, b) :: entries).lookup key = if key = k then some b else entries.lookup key := by
  rw [List.lookup_cons]
  by_cases hkey : key = k
  · simp [hkey]
  · rw [beq_eq_false_iff_ne.2 hkey, if_neg hkey]

lemma lookup_filter_bne (k key : α) (entries : List (α × β)) :
    (entries.filter fun e => e.1 != k).lookup key =
      if key = k then none else entries.lookup key := by
  induction entries with
  | nil => simp
  | cons e entries ih =>
    obtain ⟨a, b⟩ := e
    by_cases ha : a = k
    · subst ha
      rw [List.filter_cons_of_neg (by simp), ih, lookup_cons]
      split
      · rfl
      · rfl
    · rw [List.filter_cons_of_pos (by simpa using ha), lookup_cons, lookup_cons, ih]
      split
      · next hkey => rw [if_neg (hkey ▸ ha)]
      · rfl

end Lookup

lemma lookup_insertEntry {α : Type} (k key : String) (value : α) (entries : List (String × α)) :
    (Document.insertEntry k value entries).lookup key =
      if key = k then some value else entries.lookup key := by
  induction entries with
  | nil => rw [Document.insertEntry, lookup_cons]
  | cons e entries ih =>
    obtain ⟨a, b⟩ := e
    rw [Document.insertEntry]
    split
    · rw [lookup_cons]
    · split
      · next hka =>
        rw [lookup_cons, lookup_cons, hka]
        split
        · rfl
        · rfl
      · next hka =>
        rw [lookup_cons, lookup_cons, ih]
        split
        · next hkey => rw [if_neg fun h => hka (h.symm.trans hkey)]
        · rfl

/-! ### Sorted entries -/

section Sorted

variable {α : Type} {key : String} {value : α} {entries : List (String × α)} {e : String × α}

/-- Every key comes before the keys behind it. -/
def KeysRise (entries : List (String × α)) : Prop :=
  entries.Pairwise fun a b => a.1 < b.1

lemma mem_insertEntry (h : e ∈ Document.insertEntry key value entries) :
    e = (key, value) ∨ e ∈ entries := by
  induction entries with
  | nil => exact Or.inl (List.mem_singleton.1 h)
  | cons a entries ih =>
    rw [Document.insertEntry] at h
    split at h
    · exact List.mem_cons.1 h
    · split at h
      · exact (List.mem_cons.1 h).imp_right (List.mem_cons_of_mem a)
      · rcases List.mem_cons.1 h with rfl | h
        · exact Or.inr List.mem_cons_self
        · exact (ih h).imp_right (List.mem_cons_of_mem a)

lemma KeysRise.insertEntry (h : KeysRise entries) :
    KeysRise (Document.insertEntry key value entries) := by
  induction entries with
  | nil => exact List.pairwise_singleton _ _
  | cons a entries ih =>
    obtain ⟨hfirst, hrest⟩ := List.pairwise_cons.1 h
    rw [Document.insertEntry]
    split
    · next hlt =>
      refine List.pairwise_cons.2 ⟨fun e he => ?_, h⟩
      rcases List.mem_cons.1 he with rfl | he
      · exact hlt
      · exact String.lt_trans hlt (hfirst e he)
    · next hlt =>
      split
      · next heq => exact List.pairwise_cons.2 ⟨fun e he => heq ▸ hfirst e he, hrest⟩
      · next hne =>
        refine List.pairwise_cons.2 ⟨fun e he => ?_, ih hrest⟩
        rcases mem_insertEntry he with rfl | he
        · exact Std.lt_of_le_of_ne (String.not_lt.1 hlt) (Ne.symm hne)
        · exact hfirst e he

/-- An entry behind all others is put at the end. -/
lemma insertEntry_of_forall_lt (h : ∀ e ∈ entries, e.1 < key) :
    Document.insertEntry key value entries = entries ++ [(key, value)] := by
  induction entries with
  | nil => rfl
  | cons a entries ih =>
    rw [List.forall_mem_cons] at h
    have hne : key ≠ a.1 := by
      intro heq
      exact String.lt_irrefl _ (heq ▸ h.1)
    rw [Document.insertEntry, if_neg (String.lt_asymm h.1), if_neg hne, ih h.2]
    rfl

/-- What is sorted stays as it is. -/
lemma sortEntries_eq_self (h : KeysRise entries) : Document.sortEntries entries = entries := by
  have hfold : ∀ front, KeysRise (front ++ entries) →
      entries.foldl (fun acc e => Document.insertEntry e.1 e.2 acc) front = front ++ entries := by
    clear h
    induction entries with
    | nil => simp
    | cons a entries ih =>
      intro front hfront
      have hlast : ∀ e ∈ front, e.1 < a.1 := fun e he =>
        (List.pairwise_append.1 hfront).2.2 e he a List.mem_cons_self
      rw [List.append_cons] at hfront
      rw [List.foldl_cons, insertEntry_of_forall_lt hlast, ih _ hfront, ← List.append_cons]
  exact hfold [] h

lemma keysRise_sortEntries (entries : List (String × α)) :
    KeysRise (Document.sortEntries entries) := by
  have hfold : ∀ front : List (String × α), KeysRise front →
      KeysRise (entries.foldl (fun acc e => Document.insertEntry e.1 e.2 acc) front) := by
    induction entries with
    | nil => exact fun _ h => h
    | cons a entries ih => exact fun _ h => ih _ h.insertEntry
  exact hfold [] List.Pairwise.nil

lemma mem_of_mem_sortEntries (h : e ∈ Document.sortEntries entries) : e ∈ entries := by
  have hfold : ∀ front : List (String × α),
      e ∈ entries.foldl (fun acc e => Document.insertEntry e.1 e.2 acc) front →
        e ∈ front ∨ e ∈ entries := by
    clear h
    induction entries with
    | nil => exact fun _ h => Or.inl h
    | cons a entries ih =>
      intro front h
      rcases ih _ h with h | h
      · rcases mem_insertEntry h with rfl | h
        · exact Or.inr List.mem_cons_self
        · exact Or.inl h
      · exact Or.inr (List.mem_cons_of_mem a h)
  exact (hfold [] h).resolve_left List.not_mem_nil

end Sorted

end JobGraph
