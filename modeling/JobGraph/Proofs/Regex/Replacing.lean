import Mathlib.Tactic.Common
import JobGraph.Regex.Template

/-!
# What replacing brings in

A match is a part of its text, and so is what its groups matched: from cursors that hold characters
of a text and no others, an expression leads to such cursors alone.  A template adds its own
characters, and nothing else comes in; this is `Regex.Pattern.mem_replaceFirst`.
-/

namespace JobGraph.Regex

variable {P : Cursor → Prop} {step next : Cursor → List Cursor} {text : List Char}

/-! ### Steps that keep a property -/

/-- From a cursor that has the property, the step leads to such cursors alone. -/
def Keeps (P : Cursor → Prop) (step : Cursor → List Cursor) : Prop :=
  ∀ c, P c → ∀ d ∈ step c, P d

lemma firstOfEach_subset (cs : List Cursor) : firstOfEach cs ⊆ cs := by
  induction cs with
  | nil => exact List.Subset.refl []
  | cons c cs ih =>
    rw [firstOfEach]
    exact List.cons_subset_cons c (List.Subset.trans List.filter_sublist.subset ih)

lemma keeps_stay : Keeps P fun c => [c] := by
  intro c hc d hd
  rwa [List.mem_singleton.1 hd]

lemma Keeps.firstOfEach (h : Keeps P step) : Keeps P fun c => firstOfEach (step c) :=
  fun c hc d hd => h c hc d (firstOfEach_subset _ hd)

lemma Keeps.andThen (h : Keeps P step) (h' : Keeps P next) :
    Keeps P fun c => (step c).flatMap next := by
  intro c hc d hd
  obtain ⟨e, he, hd⟩ := List.mem_flatMap.1 hd
  exact h' e (h c hc e he) d hd

lemma Keeps.append (h : Keeps P step) (h' : Keeps P next) : Keeps P fun c => step c ++ next c := by
  intro c hc d hd
  rcases List.mem_append.1 hd with hd | hd
  · exact h c hc d hd
  · exact h' c hc d hd

/-- Going on or staying, whichever is preferred. -/
lemma Keeps.orStay (h : Keeps P step) (greedy : Bool) :
    Keeps P fun c => if greedy then step c ++ [c] else c :: step c := by
  cases greedy with
  | true => exact h.append keeps_stay
  | false => exact keeps_stay.append h

lemma Keeps.exactly (h : Keeps P step) (n : ℕ) : Keeps P (exactly step n) := by
  induction n with
  | zero => exact keeps_stay
  | succ n ih => exact (h.andThen ih).firstOfEach

lemma Keeps.atMost (h : Keeps P step) (greedy : Bool) (n : ℕ) :
    Keeps P (atMost step greedy n) := by
  induction n with
  | zero => exact keeps_stay
  | succ n ih => exact ((h.andThen ih).orStay greedy).firstOfEach

/-- Cursors are collected one after another, while the positions that were seen are handed on. -/
lemma forall_mem_foldl {visit : List ℕ → Cursor → List Cursor × List ℕ}
    (h : ∀ seen c, P c → ∀ d ∈ (visit seen c).1, P d) {cs : List Cursor} (hcs : ∀ c ∈ cs, P c)
    {found : List Cursor} (hfound : ∀ d ∈ found, P d) (seen : List ℕ) :
    ∀ d ∈ (cs.foldl
      (fun (found, seen) c =>
        let (more, seen) := visit seen c
        (found ++ more, seen))
      (found, seen)).1, P d := by
  induction cs generalizing found seen with
  | nil => exact hfound
  | cons c cs ih =>
    rw [List.forall_mem_cons] at hcs
    refine ih hcs.2 ?_ _
    exact List.forall_mem_append.2 ⟨hfound, h seen c hcs.1⟩

lemma Keeps.arrive (h : Keeps P step) (greedy : Bool) (entry fuel : ℕ) :
    ∀ seen c, P c → ∀ d ∈ (arrive step greedy entry fuel seen c).1, P d := by
  induction fuel with
  | zero => simp [Regex.arrive]
  | succ fuel ih =>
    intro seen c hc
    rw [Regex.arrive]
    split
    · simp
    · have hfrom : ∀ d ∈ (if c.pos = entry then [] else step c), P d := by
        split
        · simp
        · exact h c hc
      have hnone : ∀ d ∈ ([] : List Cursor), P d := by simp
      have hmore := forall_mem_foldl ih hfrom hnone (c.pos :: seen)
      dsimp only
      split
      · exact List.forall_mem_append.2 ⟨hmore, by simpa using hc⟩
      · exact List.forall_mem_cons.2 ⟨hc, hmore⟩

lemma Keeps.plus (h : Keeps P step) (greedy : Bool) : Keeps P (plus step greedy) := by
  intro c hc
  exact forall_mem_foldl (h.arrive greedy c.pos (c.after.length + 2)) (h c hc) (by simp) []

/-! ### Cursors within a text -/

/-- What is ahead of the cursor and what its groups matched are characters of the text. -/
structure Cursor.Within (text : List Char) (c : Cursor) : Prop where
  after : c.after ⊆ text
  group : ∀ g ∈ c.groups, g.2 ⊆ text

lemma keeps_stepOver (s : CharSet) : Keeps (Cursor.Within text) (stepOver s) := by
  intro c hc d hd
  rw [stepOver] at hd
  split at hd
  · cases hd
  · next x rest hafter =>
    split at hd
    · rw [List.mem_singleton] at hd
      subst hd
      have hrest : rest ⊆ c.after := by
        rw [hafter]
        exact List.subset_cons_self x rest
      exact ⟨List.Subset.trans hrest hc.after, hc.group⟩
    · cases hd

/-- An expression leads from cursors within a text to cursors within the text. -/
theorem keeps_run (r : Regex) : Keeps (Cursor.Within text) (run r) := by
  induction r with
  | empty => exact keeps_stay
  | set s => exact keeps_stepOver s
  | look l =>
    intro c hc d hd
    rw [run] at hd
    split at hd
    · exact keeps_stay c hc d hd
    · cases hd
  | group n r ih =>
    intro c hc d hd
    rw [run] at hd
    obtain ⟨e, he, rfl⟩ := List.mem_map.1 hd
    have hwithin := ih c hc e he
    exact ⟨hwithin.after, List.forall_mem_cons.2
      ⟨List.Subset.trans (List.take_subset _ _) hc.after, hwithin.group⟩⟩
  | cat r s ihr ihs => exact (ihr.andThen ihs).firstOfEach
  | alt r s ihr ihs => exact (ihr.append ihs).firstOfEach
  | rep r least most greedy ih =>
    cases most with
    | some most => exact ((ih.exactly least).andThen (ih.atMost greedy _)).firstOfEach
    | none =>
      cases least with
      | zero => exact ((ih.plus greedy).orStay greedy).firstOfEach
      | succ n => exact ((ih.exactly n).andThen (ih.plus greedy)).firstOfEach

/-! ### Matches -/

/-- What matched, what is around it and what the groups matched are characters of the text. -/
structure Match.Within (text : List Char) (m : Match) : Prop where
  before : m.before ⊆ text
  matched : m.matched ⊆ text
  after : m.after ⊆ text
  group : ∀ g ∈ m.groups, g.2 ⊆ text

/-- Where a run from the text ahead ends, the match is a part of the text. -/
lemma within_of_mem_run {r : Regex} {passed s : List Char} {d : Cursor} (hpassed : passed ⊆ text)
    (hs : s ⊆ text) (hd : d ∈ run r ⟨passed.length, passed.head?, s, []⟩) (n : ℕ) :
    Match.Within text ⟨passed.reverse, s.take n, d.after, d.groups⟩ := by
  have hwithin : d.Within text := keeps_run r _ ⟨hs, by simp⟩ d hd
  exact ⟨List.reverse_subset.2 hpassed, List.Subset.trans (List.take_subset _ _) hs,
    hwithin.after, hwithin.group⟩

lemma within_searchFrom {r : Regex} {passed s : List Char} {m : Match} (hpassed : passed ⊆ text)
    (hs : s ⊆ text) (h : searchFrom r passed s = some m) : m.Within text := by
  induction s generalizing passed with
  | nil =>
    rw [searchFrom] at h
    split at h
    · next d ds hrun =>
      cases h
      exact within_of_mem_run hpassed hs (hrun ▸ List.mem_cons_self) _
    · cases h
  | cons c s ih =>
    rw [searchFrom] at h
    split at h
    · next d ds hrun =>
      cases h
      exact within_of_mem_run hpassed hs (hrun ▸ List.mem_cons_self) _
    · rw [List.cons_subset] at hs
      exact ih (List.cons_subset.2 ⟨hs.1, hpassed⟩) hs.2 h

/-- A match is a part of its text. -/
lemma within_search {r : Regex} {s : String} {m : Match} (h : search r s = some m) :
    m.Within s.toList :=
  within_searchFrom (List.nil_subset _) (List.Subset.refl _) h

lemma Match.Within.group_subset {m : Match} (h : m.Within text) (n : ℕ) : m.group n ⊆ text := by
  rw [Match.group]
  split
  · exact h.matched
  · cases hn : m.groups.lookup n with
    | none => exact List.nil_subset text
    | some t =>
      obtain ⟨front, back, hgroups, -⟩ := List.lookup_eq_some_iff.1 hn
      exact h.group (n, t) (by simp [hgroups])

/-! ### Templates -/

/-- A character that a part of a template stands for stands in the template. -/
lemma mem_of_mem_templateParts {fuel : ℕ} {s : List Char} {c : Char}
    (h : .char c ∈ templateParts fuel s) : c ∈ s := by
  induction fuel generalizing s with
  | zero => simp [templateParts] at h
  | succ fuel ih =>
    cases s with
    | nil => simp [templateParts] at h
    | cons d s =>
      -- a part is one character or a group, and the parts behind it are those of a shorter text
      have hchar : ∀ e ∈ d :: s, ∀ t ⊆ d :: s,
          .char c ∈ .char e :: templateParts fuel t → c ∈ d :: s := by
        intro e he t ht h
        rcases List.mem_cons.1 h with h | h
        · cases h
          exact he
        · exact ht (ih h)
      have hgroup : ∀ name, ∀ t ⊆ d :: s,
          .char c ∈ .group name :: templateParts fuel t → c ∈ d :: s := by
        intro name t ht h
        rcases List.mem_cons.1 h with h | h
        · cases h
        · exact ht (ih h)
      have htail : s ⊆ d :: s := List.subset_cons_self d s
      rw [templateParts.eq_def] at h
      dsimp only at h
      split at h
      · exact hchar d List.mem_cons_self s htail h
      · next hd =>
        have hdollar : '$' ∈ d :: s := by simp [not_not.1 hd]
        split at h
        · exact hchar '$' hdollar _ (List.Subset.trans (List.subset_cons_self _ _) htail) h
        · split at h
          · exact hgroup _ _ (List.Subset.trans
              (List.subset_cons_of_subset _ (List.drop_subset _ _)) htail) h
          · exact hchar '$' hdollar _ htail h
        · split at h
          · exact hchar '$' hdollar s htail h
          · exact hgroup _ _ (List.Subset.trans (List.drop_subset _ _) htail) h

/-- A template adds to a match no characters but its own. -/
lemma mem_expand {p : Pattern} {m : Match} (hm : m.Within text) {template : String} {c : Char}
    (hc : c ∈ expand p m template) : c ∈ text ∨ c ∈ template.toList := by
  obtain ⟨part, hpart, hc⟩ := List.mem_flatMap.1 hc
  cases part with
  | char d =>
    rw [TemplatePart.expand, List.mem_singleton] at hc
    subst hc
    exact Or.inr (mem_of_mem_templateParts hpart)
  | group name =>
    refine Or.inl ?_
    rw [TemplatePart.expand] at hc
    split at hc
    · exact hm.group_subset _ hc
    · split at hc
      · exact hm.group_subset _ hc
      · cases hc

/-- **Replacing.**  A character of a replaced text stands in the text or in the template. -/
theorem Pattern.mem_replaceFirst {p : Pattern} {template s : String} {c : Char}
    (hc : c ∈ (p.replaceFirst template s).toList) : c ∈ s.toList ∨ c ∈ template.toList := by
  rw [replaceFirst] at hc
  split at hc
  · next m hm =>
    have hwithin : m.Within s.toList := within_search hm
    rw [String.toList_ofList, List.mem_append, List.mem_append] at hc
    rcases hc with (hc | hc) | hc
    · exact Or.inl (hwithin.before hc)
    · exact mem_expand hwithin hc
    · exact Or.inl (hwithin.after hc)
  · exact Or.inl hc

end JobGraph.Regex
