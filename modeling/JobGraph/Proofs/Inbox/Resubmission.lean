import JobGraph.Proofs.Inbox.Convergence
import JobGraph.Proofs.Inbox.EventLoop

/-!
# Requests that come back

A file leaves its path in an inbox and later there is a file at this path again.  If the filter has
forgotten the path, what the file holds is compiled, whatever was compiled for the path before.  But
the filter forgets a path only when a file was removed from it, not when the file was renamed; so a
text that has the hash of what was compiled last is passed over when its file was moved away and
comes back.

`Loop.resubmitted_iff` says for any events before and between when the text is compiled.
-/

namespace JobGraph.Inbox

open Watched (digest)

variable {σ : Type} {w : World σ} {store : σ → FileStore} {c : Compiler} {f : Inbox.Filter}
  {p : Path} {text : String} {s s' : Loop σ} {st : σ}

/-- The event makes the loop forget a path. -/
def Occurrence.Forgets (p : Path) (o : Occurrence σ) : Prop :=
  o.event.isRemoval = true ∧ o.event.path.components = p.components

instance (p : Path) (o : Occurrence σ) : Decidable (o.Forgets p) :=
  inferInstanceAs (Decidable (_ ∧ _))

namespace Loop

/-- Whenever an event makes the loop look at the path, there is no file. -/
def Away (w : World σ) (store : σ → FileStore) (c : Compiler) (p : Path) :
    Loop σ → List (Occurrence σ) → Prop
  | _, [] => True
  | s, o :: os =>
    (o.event.looks = true → o.event.path.components = p.components →
        (store (o.others s.state)).contents? p = none) ∧
      Away w store c p (s.step w c o) os

lemma brings?_ne_some {o : Occurrence σ} (hpath : o.event.path.components = p.components)
    (hgone : (store (o.others s.state)).contents? p = none) (text : String) :
    s.brings? store o ≠ some text := by
  rw [brings?, brought?]
  split
  · rw [sought?_eq_none (textAt?_eq_none ((FileStore.contents?_congr hpath _).trans hgone))]
    exact (Option.some_ne_none text).symm
  · exact (Option.some_ne_none text).symm

/-- As long as there is no file, what is remembered for a path changes only by forgetting it. -/
lemma remembered?_step {o : Occurrence σ} (hw : w.Filed store)
    (haway : o.event.looks = true → o.event.path.components = p.components →
      (store (o.others s.state)).contents? p = none) :
    (s.step w c o).filter.remembered? p =
      if o.Forgets p then none else s.filter.remembered? p := by
  rw [filter_step hw]
  cases hbrings : s.brings? store o with
  | some text =>
    -- the text is not one for this path
    have hlooks : o.event.looks = true := by
      by_contra hlooks
      rw [brings?, brought?, if_neg hlooks] at hbrings
      cases hbrings
    have hpath : ¬ o.event.path.components = p.components := fun hpath =>
      brings?_ne_some hpath (haway hlooks hpath) text hbrings
    rw [filterAfter, Inbox.Filter.remembered?_accept, if_neg (Ne.symm hpath),
      if_neg fun h => hpath h.2]
  | none =>
    rw [filterAfter]
    cases hremoval : o.event.isRemoval with
    | true =>
      rw [if_pos rfl, Inbox.Filter.remembered?_forget]
      exact if_congr ⟨fun h => ⟨hremoval, h.symm⟩, fun h => h.2.symm⟩ rfl rfl
    | false =>
      rw [if_neg (by decide), if_neg fun h => by rw [h.1] at hremoval; cases hremoval]

lemma remembered?_run {os : List (Occurrence σ)} (hw : w.Filed store)
    (haway : Away w store c p s os) :
    (s.run w c os).filter.remembered? p =
      if ∃ o ∈ os, o.Forgets p then none else s.filter.remembered? p := by
  induction os generalizing s with
  | nil => simp [run]
  | cons o os ih =>
    have hrun : s.run w c (o :: os) = (s.step w c o).run w c os := rfl
    rw [hrun, ih haway.2, remembered?_step hw haway.1]
    by_cases hrest : ∃ o' ∈ os, o'.Forgets p
    · rw [if_pos hrest, if_pos (List.exists_mem_cons_of_exists hrest)]
    · rw [if_neg hrest]
      refine if_congr ?_ rfl rfl
      rw [List.exists_mem_cons_iff, or_iff_left hrest]

/-- What an event brings that finds a file at a path of requests. -/
lemma log_step_of_contents {o : Occurrence σ} (hw : w.Filed store)
    (hselects : s.filter.selects p = true) (hlooks : o.event.looks = true)
    (hpath : o.event.path = p)
    (htext : (store (o.others s.state)).contents? p = some text.toUTF8) :
    (s.step w c o).log =
      if s.filter.remembered? p ≠ some (digest text) then s.log ++ [.compiled p text]
      else s.log := by
  rw [log_step hw]
  have hsought : s.brings? store o = some text ↔ s.filter.remembered? p ≠ some (digest text) := by
    rw [brings?, brought?, if_pos hlooks, sought?_eq_some_iff, hpath,
      textAt?_of_contents htext]
    simp [hselects]
  split
  · next hnew => rw [hsought.2 hnew, deeds, hpath]
  · next hsame =>
    have hnone : s.brings? store o = none := by
      rw [Option.eq_none_iff_forall_ne_some]
      intro text' hbrings
      have hfound := hbrings
      rw [brings?, brought?, if_pos hlooks, sought?_eq_some_iff, hpath,
        textAt?_of_contents htext] at hfound
      cases hfound.2.1
      exact hsame (hsought.1 hbrings)
    rw [hnone, deeds, Event.isRemoval_of_looks hlooks, if_neg (by decide), List.append_nil]

/-- **Resubmission.**  Let events be handled by a loop that has started with a new filter, and then
the event that a file has left its path, which is a path of requests.  Of the events that follow,
consider the first one that makes the loop look at the path when there is a file.  Its text is
compiled if and only if the first file was removed and not renamed, or the loop has been told of a
removal since, or what was compiled last for the path, and not forgotten since, had another hash. -/
theorem resubmitted_iff {pattern : String} {before between : List (Occurrence σ)}
    {leaving arriving : Occurrence σ} (hw : w.Filed store)
    (hf : Inbox.Filter.ofPattern pattern = .ok f) (hselects : f.selects p = true)
    (hs : (start f st).run w c before = s)
    (hleaving : leaving.event.isLeaving = true ∧ leaving.event.path.components = p.components)
    (hgone : (store (leaving.others s.state)).contents? p = none)
    (hs' : (s.step w c leaving).run w c between = s')
    (haway : Away w store c p (s.step w c leaving) between)
    (harriving : arriving.event.looks = true ∧ arriving.event.path = p)
    (htext : (store (arriving.others s'.state)).contents? p = some text.toUTF8) :
    ((s'.step w c arriving).log = s'.log ++ [.compiled p text] ↔
        leaving.event.isRemoval = true ∨ (∃ o ∈ between, o.Forgets p) ∨
          (last? p s.log).map digest ≠ some (digest text)) ∧
      ((s'.step w c arriving).log = s'.log ++ [.compiled p text] ∨
        (s'.step w c arriving).log = s'.log) := by
  have hselected : s'.filter.selects p = true := by
    rw [← hs', selects_run hw, selects_step hw, ← hs, selects_run hw]
    exact hselects
  have hlast : s.filter.remembered? p = (last? p s.log).map digest := by
    rw [← hs]
    exact remembers_run hw (remembers_start hf st) p
  have hleft : (s.step w c leaving).filter.remembered? p =
      if leaving.Forgets p then none else (last? p s.log).map digest := by
    rw [remembered?_step hw fun _ _ => hgone, hlast]
  have hforgets : leaving.Forgets p ↔ leaving.event.isRemoval = true :=
    ⟨fun h => h.1, fun h => ⟨h, hleaving.2⟩⟩
  have hremembered : s'.filter.remembered? p ≠ some (digest text) ↔
      leaving.event.isRemoval = true ∨ (∃ o ∈ between, o.Forgets p) ∨
        (last? p s.log).map digest ≠ some (digest text) := by
    rw [← hs', remembered?_run hw haway, hleft]
    by_cases hbetween : ∃ o ∈ between, o.Forgets p
    · simp [hbetween]
    · by_cases hremoval : leaving.event.isRemoval = true
      · simp [hforgets.2 hremoval, hremoval]
      · rw [if_neg hbetween, if_neg fun h => hremoval (hforgets.1 h)]
        simp [hbetween, hremoval]
  have hlog := log_step_of_contents (c := c) hw hselected harriving.1 harriving.2 htext
  rw [← hremembered, hlog]
  split
  · next hnew => simp [hnew]
  · next hsame => simp [hsame]

/-- The text of a request. -/
def requestText : String := "\x7b\"task\": \x7b\x7d\x7d"

/-- The request comes to a path, and the loop is told of it. -/
def arrival : Occurrence FileStore :=
  ⟨fun files => files.put requestFile requestText.toUTF8, .renamedTo requestFile, "token"⟩

/-- The file of the request goes away, and the loop is told of it by an event. -/
def departure (e : Event) : Occurrence FileStore :=
  ⟨fun files => files.erase requestFile, e, "token"⟩

/-- The loop over files alone, with any services that compiling may ask for refused. -/
def runFiles (f : Inbox.Filter) (os : List (Occurrence FileStore)) : Loop FileStore :=
  (start f .empty).run (World.ofFiles FileStore.perform) (.ofConfig .sample .external) os

/-- A request that was removed is compiled again when it comes back. -/
theorem resubmitted_iff_removed :
    ∃ f, Inbox.Filter.ofPattern "*.request.json" = .ok f ∧
      (runFiles f [arrival]).log = [.compiled requestFile requestText] ∧
      (runFiles f [arrival, departure (.removed requestFile), arrival]).log =
        (runFiles f [arrival, departure (.removed requestFile)]).log ++
          [.compiled requestFile requestText] := by
  have hw : (World.ofFiles FileStore.perform).Filed fun files => files := World.filed_ofFiles
  have heval : (Inbox.Filter.ofPattern "*.request.json").toOption.map (fun f =>
      decide (f.selects requestFile = true ∧
        (runFiles f [arrival]).log = [.compiled requestFile requestText])) = some true := by
    decide +kernel
  obtain ⟨f, hf, heval⟩ := exists_of_map_toOption heval
  obtain ⟨hselects, hlog⟩ := of_decide_eq_true heval
  refine ⟨f, hf, hlog, ?_⟩
  -- the file is taken away and put back by others
  have hgone : ((runFiles f [arrival]).state.erase requestFile).contents? requestFile = none := by
    rw [← FileStore.view_components, FileStore.view_erase, Function.update_self]
  have hback : ∀ files : FileStore,
      (files.put requestFile requestText.toUTF8).contents? requestFile =
        some requestText.toUTF8 := by
    intro files
    rw [← FileStore.view_components, FileStore.view_put, Function.update_self]
  exact (resubmitted_iff hw hf hselects (rfl : runFiles f [arrival] = _) ⟨rfl, rfl⟩ hgone
    (rfl : run _ _ _ [] = _) trivial ⟨rfl, rfl⟩ (hback _)).1.2 (Or.inl rfl)

/-- A request that was renamed is not compiled again when it comes back. -/
theorem not_resubmitted_renamed :
    (Request.parse? requestText).isSome = true ∧
    ∃ f, Inbox.Filter.ofPattern "*.request.json" = .ok f ∧ f.selects requestFile = true ∧
      (runFiles f [arrival]).log = [.compiled requestFile requestText] ∧
      (runFiles f [arrival, departure (.renamedFrom requestFile), arrival]).log =
        [.compiled requestFile requestText] := by
  have heval : (Inbox.Filter.ofPattern "*.request.json").toOption.map (fun f =>
      decide (f.selects requestFile = true ∧
        (runFiles f [arrival]).log = [.compiled requestFile requestText] ∧
        (runFiles f [arrival, departure (.renamedFrom requestFile), arrival]).log =
          [.compiled requestFile requestText])) = some true := by
    decide +kernel
  obtain ⟨f, hf, heval⟩ := exists_of_map_toOption heval
  exact ⟨by decide +kernel, f, hf, of_decide_eq_true heval⟩

end Loop

end JobGraph.Inbox
