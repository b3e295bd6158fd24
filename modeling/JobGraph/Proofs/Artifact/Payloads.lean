import JobGraph.Artifact.Node
import JobGraph.Proofs.Document.Entries
import JobGraph.Proofs.Json.RoundTrip
import JobGraph.Proofs.Program.Fallible
import JobGraph.Proofs.Task.Settings

/-!
# Payloads of variables

Two variables of a node hold JSON text: the names of the files that the job reads, and the runs of
its mask.  Every quote of this text is written as two quotes, each behind a backslash, and what runs
the job puts one quote back for every such group that it meets from left to right.

The groups that it meets are those that were put in.  JSON text has backslashes of its own, also in
front of quotes, but no character is written with a quote at its beginning; so a backslash that is
not the first of a group is not taken for one.  Behind that, the text is read as any JSON text is,
and a payload gives back what it was made from: this is `Node.payloads_lossless`.
-/

namespace JobGraph

namespace Mask

/-- The runs of a mask are a map whose ranges end within 64 bits. -/
structure IsRegular (m : Mask) : Prop where
  keysRise : KeysRise m.runAndLumis
  fits : ∀ e ∈ m.runAndLumis, ∀ r ∈ e.2, r.1 < Nat.pow 2 64 ∧ r.2 < Nat.pow 2 64

lemma lt_of_range? {d : Document} {r : ℕ × ℕ} (h : range? d = some r) :
    r.1 < Nat.pow 2 64 ∧ r.2 < Nat.pow 2 64 := by
  unfold range? at h
  split at h
  · simp only [Option.bind_eq_bind, Option.bind_eq_some_iff] at h
    obtain ⟨a, ha, b, hb, hr⟩ := h
    cases hr
    exact ⟨Document.lt_of_nat? ha, Document.lt_of_nat? hb⟩
  · cases h

/-- Runs that are read are sorted, and no end of a range is read that does not fit. -/
lemma isRegular_of_map? {d : Document} {m : Mask}
    (h : d.map? (Document.list? range?) = some m.runAndLumis) : m.IsRegular := by
  unfold Document.map? at h
  split at h
  · next entries =>
    obtain ⟨es, hes, hsort⟩ := Option.map_eq_some_iff.1 h
    refine ⟨hsort ▸ keysRise_sortEntries es, fun e he r hr => ?_⟩
    rw [← hsort] at he
    obtain ⟨entry, -, hentry⟩ := exists_of_mem_mapM_option hes (mem_of_mem_sortEntries he)
    obtain ⟨ranges, hranges, rfl⟩ := Option.map_eq_some_iff.1 hentry
    obtain ⟨document, hrange⟩ := Document.exists_of_mem_list? hranges hr
    exact lt_of_range? hrange
  · cases h

lemma isRegular_of_ofDocument? {d : Document} {m : Mask} (h : ofDocument? d = some m) :
    m.IsRegular := by
  rw [ofDocument?] at h
  obtain ⟨fields, -, h⟩ := Option.bind_eq_some_iff.1 h
  split at h
  · simp only [Option.bind_eq_bind, Option.bind_eq_some_iff] at h
    obtain ⟨_, -, _, -, _, -, _, -, runs, hruns, h⟩ := h
    cases h
    rcases Document.of_default? hruns with rfl | ⟨d, hd⟩
    · exact ⟨List.Pairwise.nil, by simp⟩
    · exact isRegular_of_map? hd
  · cases h

lemma isRegular_unrestricted : unrestricted.IsRegular :=
  ⟨List.Pairwise.nil, by simp [unrestricted]⟩

end Mask

lemma Job.isRegular_of_ofDocument? {d : Document} {j : Job} (h : ofDocument? d = some j) :
    j.mask.IsRegular := by
  rw [ofDocument?] at h
  obtain ⟨fields, -, h⟩ := Option.bind_eq_some_iff.1 h
  split at h
  · simp only [Option.bind_eq_bind, Option.bind_eq_some_iff] at h
    obtain ⟨_, -, mask, hmask, _, -, h⟩ := h
    cases h
    rcases Document.of_default? hmask with rfl | ⟨d, hd⟩
    · exact Mask.isRegular_unrestricted
    · exact Mask.isRegular_of_ofDocument? hd
  · cases h

lemma JobGroup.isRegular_of_ofDocument? {d : Document} {g : JobGroup}
    (h : ofDocument? d = some g) : ∀ j ∈ g.jobs, j.mask.IsRegular := by
  rw [ofDocument?] at h
  obtain ⟨fields, -, h⟩ := Option.bind_eq_some_iff.1 h
  split at h
  · simp only [Option.bind_eq_bind, Option.bind_eq_some_iff] at h
    obtain ⟨_, -, jobs, hjobs, h⟩ := h
    cases h
    intro j hj
    rcases Document.of_default? hjobs with rfl | ⟨d, hd⟩
    · cases hj
    · obtain ⟨document, hread⟩ := Document.exists_of_mem_list? hd hj
      exact Job.isRegular_of_ofDocument? hread
  · cases h

/-- **Regular masks.**  Every mask of a request that is read is regular. -/
theorem Request.isRegular_of_parse? {text : String} {r : Request} (h : parse? text = some r) :
    ∀ g ∈ r.groups, ∀ j ∈ g.jobs, j.mask.IsRegular := by
  obtain ⟨d, -, h⟩ := Option.bind_eq_some_iff.1 h
  rw [ofDocument?] at h
  obtain ⟨fields, -, h⟩ := Option.bind_eq_some_iff.1 h
  split at h
  · simp only [Option.bind_eq_bind, Option.bind_eq_some_iff] at h
    obtain ⟨_, -, groups, hgroups, h⟩ := h
    cases h
    intro g hg
    rcases Document.of_default? hgroups with rfl | ⟨d, hd⟩
    · cases hg
    · obtain ⟨document, hread⟩ := Document.exists_of_mem_list? hd hg
      exact JobGroup.isRegular_of_ofDocument? hread
  · cases h

namespace Node

variable {cs : List Char} {files : List String} {m m' : Mask}

/-! ### Putting the quotes back -/

/-- The text with one quote for every two quotes behind backslashes, from left to right. -/
def unescapeChars : List Char → List Char
  | '\\' :: '"' :: '\\' :: '"' :: cs => '"' :: unescapeChars cs
  | c :: cs => c :: unescapeChars cs
  | [] => []

/-- The JSON text in a payload. -/
def unescaped (payload : String) : String :=
  String.ofList (unescapeChars payload.toList)

/-- No character is written with a quote at its beginning. -/
lemma head?_flatMap_escapeChar (cs : List Char) : (cs.flatMap escapeChar).head? ≠ some '"' := by
  cases cs with
  | nil => simp
  | cons c cs =>
    rw [List.flatMap_cons, escapeChar]
    split
    · simp
    · next hc => simpa using hc

/-- A character that no quote follows is not the first of a group. -/
lemma unescapeChars_cons {c : Char} (h : cs.head? ≠ some '"') :
    unescapeChars (c :: cs) = c :: unescapeChars cs := by
  rw [unescapeChars]
  rintro ds - rfl
  exact h rfl

/-- The groups that are met are those that were put in. -/
lemma unescapeChars_flatMap_escapeChar (cs : List Char) :
    unescapeChars (cs.flatMap escapeChar) = cs := by
  induction cs with
  | nil => rfl
  | cons c cs ih =>
    rw [List.flatMap_cons, escapeChar]
    split
    · next hc =>
      rw [hc, List.cons_append, List.cons_append, List.cons_append, List.cons_append,
        List.nil_append, unescapeChars, ih]
    · rw [List.singleton_append, unescapeChars_cons (head?_flatMap_escapeChar cs), ih]

/-- **Payloads hold JSON text.**  Whatever document a payload was made from, its JSON text comes
out again. -/
theorem unescaped_escaped (d : Document) : unescaped (escaped d) = Json.render d := by
  rw [unescaped, escaped, String.toList_ofList, unescapeChars_flatMap_escapeChar, Json.render]

/-- A quote in a name, which JSON text writes behind a backslash, and a backslash at its end. -/
example : unescaped (escaped (.list [.text "a\"", .text "b\\"])) = "[\"a\\\"\",\"b\\\\\"]" := by
  decide +kernel

/-! ### What payloads are made from -/

/-- The names of files in a payload. -/
def readFiles? (payload : String) : Option (List String) :=
  (Json.parse? (unescaped payload)).bind (Document.list? Document.text?)

/-- The runs in a payload. -/
def readRuns? (payload : String) : Option (List (String × List (ℕ × ℕ))) :=
  (Json.parse? (unescaped payload)).bind (Document.map? (Document.list? Mask.range?))

/-! ### Reading them back -/

lemma legible_texts (texts : List String) :
    (Document.list (texts.map .text)).Legible Json.maxDepth := by
  refine ⟨by decide, Document.legibleItems_iff.2 ?_⟩
  rw [List.forall_mem_map]
  intro text _
  trivial

/-- A range is legible wherever one more list may be opened. -/
lemma legible_range {r : ℕ × ℕ} (h : r.1 < Nat.pow 2 64 ∧ r.2 < Nat.pow 2 64) {depth : ℕ}
    (hdepth : 0 < depth) : (Mask.rangeToDocument r).Legible depth := by
  refine ⟨hdepth, ⟨?_, ?_⟩, ⟨?_, ?_⟩, trivial⟩
  · omega
  · exact Int.ofNat_lt.2 h.1
  · omega
  · exact Int.ofNat_lt.2 h.2

lemma legible_runs (hm : m.IsRegular) : m.runsToDocument.Legible Json.maxDepth := by
  refine ⟨by decide, Document.legibleEntries_iff.2 ?_⟩
  rw [List.forall_mem_map]
  intro e he
  refine ⟨by decide, Document.legibleItems_iff.2 ?_⟩
  rw [List.forall_mem_map]
  intro r hr
  exact legible_range (hm.fits e he r hr) (by decide)

lemma texts?_texts (texts : List String) :
    (Document.list (texts.map .text)).list? Document.text? = some texts := by
  have htexts : (texts.map Document.text).mapM Document.text? = some (texts.map id) :=
    mapM_map_eq_some fun _ _ => rfl
  rw [Document.list?, htexts, List.map_id]

lemma range?_rangeToDocument {r : ℕ × ℕ} (h : r.1 < Nat.pow 2 64 ∧ r.2 < Nat.pow 2 64) :
    Mask.range? (Mask.rangeToDocument r) = some r := by
  rw [Mask.rangeToDocument, Mask.range?, Document.nat?_natCast h.1, Document.nat?_natCast h.2]
  rfl

lemma map?_runsToDocument (hm : m.IsRegular) :
    m.runsToDocument.map? (Document.list? Mask.range?) = some m.runAndLumis := by
  have hentries : (m.runAndLumis.map fun e => (e.1, Document.list (e.2.map Mask.rangeToDocument))).mapM
      (fun e => ((e.2.list? Mask.range?).map fun v => (e.1, v))) = some (m.runAndLumis.map id) := by
    refine mapM_map_eq_some fun e he => ?_
    have hranges : (e.2.map Mask.rangeToDocument).mapM Mask.range? = some (e.2.map id) :=
      mapM_map_eq_some fun r hr => range?_rangeToDocument (hm.fits e he r hr)
    rw [Document.list?, hranges, List.map_id]
    rfl
  rw [Mask.runsToDocument, Document.map?, hentries, List.map_id, Option.map_some,
    sortEntries_eq_self hm.keysRise]

/-- A payload is valid JSON text, once the quotes are put back, and holds its document. -/
lemma parse?_unescaped_escaped {d : Document} (hd : d.Legible Json.maxDepth) :
    Json.parse? (unescaped (escaped d)) = some d := by
  rw [unescaped_escaped, Json.parse?_render hd]

lemma readFiles?_escaped (files : List String) :
    readFiles? (escaped (.list (files.map .text))) = some files := by
  rw [readFiles?, parse?_unescaped_escaped (legible_texts files), Option.bind_some, texts?_texts]

lemma readRuns?_escaped (hm : m.IsRegular) :
    readRuns? (escaped m.runsToDocument) = some m.runAndLumis := by
  rw [readRuns?, parse?_unescaped_escaped (legible_runs hm), Option.bind_some,
    map?_runsToDocument hm]

lemma eq_of_escaped_texts_eq {files files' : List String}
    (h : escaped (.list (files.map .text)) = escaped (.list (files'.map .text))) :
    files = files' := by
  have hread := readFiles?_escaped files
  rw [h, readFiles?_escaped] at hread
  exact (Option.some.inj hread).symm

lemma eq_of_escaped_runs_eq (hm : m.IsRegular) (hm' : m'.IsRegular)
    (h : escaped m.runsToDocument = escaped m'.runsToDocument) :
    m.runAndLumis = m'.runAndLumis := by
  have hread := readRuns?_escaped hm
  rw [h, readRuns?_escaped hm'] at hread
  exact (Option.some.inj hread).symm

/-- Numbers are told apart by their digits, and no digit is a letter. -/
lemma optional_injective : Function.Injective optional := by
  have hdigits : ∀ n : ℕ, (optional (some n)).toList = Nat.toDigits 10 n := by
    intro n
    simp [optional]
  have hnone : ∀ n : ℕ, optional (some n) ≠ optional none := by
    intro n h
    have hletter : 'N' ∈ (optional none).toList := by decide
    rw [← h, hdigits] at hletter
    exact Text.not_mem_toDigits (by decide) n hletter
  intro a b h
  cases a with
  | none =>
    cases b with
    | none => rfl
    | some n => exact absurd h.symm (hnone n)
  | some m =>
    cases b with
    | none => exact absurd h (hnone m)
    | some n =>
      have hsame := congrArg String.toList h
      rw [hdigits, hdigits] at hsame
      rw [Text.toDigits_inj hsame]

/-- The variables of two jobs have the same values only if the jobs read the same files and have the
same mask. -/
lemma eq_of_vars_eq {s s' : PlannedJob} (hs : s.mask.IsRegular) (hs' : s'.mask.IsRegular)
    (h : vars s = vars s') : s.inputFiles = s'.inputFiles ∧ s.mask = s'.mask := by
  have hvalue : ∀ i : ℕ, ((vars s)[i]?).map Prod.snd = ((vars s')[i]?).map Prod.snd := by
    intro i
    rw [h]
  have hfiles : escaped (.list (s.inputFiles.map .text)) =
      escaped (.list (s'.inputFiles.map .text)) := Option.some.inj (hvalue 8)
  have hruns : escaped s.mask.runsToDocument = escaped s'.mask.runsToDocument :=
    Option.some.inj (hvalue 1)
  have hfirstEvent := optional_injective (Option.some.inj (hvalue 3))
  have hfirstLumi := optional_injective (Option.some.inj (hvalue 4))
  have hlastEvent := optional_injective (Option.some.inj (hvalue 5))
  have hfirstRun := optional_injective (Option.some.inj (hvalue 6))
  have hrunAndLumis := eq_of_escaped_runs_eq hs hs' hruns
  refine ⟨eq_of_escaped_texts_eq hfiles, ?_⟩
  generalize s.mask = m at *
  generalize s'.mask = m' at *
  obtain ⟨_, _, _, _, _⟩ := m
  obtain ⟨_, _, _, _, _⟩ := m'
  rw [Mask.mk.injEq]
  exact ⟨hfirstEvent, hlastEvent, hfirstLumi, hfirstRun, hrunAndLumis⟩

/-- **Payloads are lossless.**  Let every two quotes behind backslashes become one quote, from left to
right.  The payload made from the names of files then is JSON text that holds the list of these
names, whatever they are, and so does the payload made from the runs of a mask hold their map,
whatever the keys are; the names and the runs are read back.  So different files have different
payloads, and different runs have, and jobs whose files or masks differ in anything differ in the
value of a variable. -/
theorem payloads_lossless :
    (∀ files : List String,
      Json.parse? (unescaped (escaped (.list (files.map .text)))) =
          some (.list (files.map .text)) ∧
        readFiles? (escaped (.list (files.map .text))) = some files) ∧
    (∀ m : Mask, m.IsRegular →
      Json.parse? (unescaped (escaped m.runsToDocument)) = some m.runsToDocument ∧
        readRuns? (escaped m.runsToDocument) = some m.runAndLumis) ∧
    (∀ files files' : List String,
      escaped (.list (files.map .text)) = escaped (.list (files'.map .text)) → files = files') ∧
    (∀ m m' : Mask, m.IsRegular → m'.IsRegular →
      escaped m.runsToDocument = escaped m'.runsToDocument → m.runAndLumis = m'.runAndLumis) ∧
    ∀ s s' : PlannedJob, s.mask.IsRegular → s'.mask.IsRegular → vars s = vars s' →
      s.inputFiles = s'.inputFiles ∧ s.mask = s'.mask := by
  refine ⟨?_, ?_, ?_, ?_, ?_⟩
  · intro files
    exact ⟨parse?_unescaped_escaped (legible_texts files), readFiles?_escaped files⟩
  · intro m hm
    exact ⟨parse?_unescaped_escaped (legible_runs hm), readRuns?_escaped hm⟩
  · intro files files' h
    exact eq_of_escaped_texts_eq h
  · intro m m' hm hm' h
    exact eq_of_escaped_runs_eq hm hm' h
  · intro s s' hs hs' h
    exact eq_of_vars_eq hs hs' h

/-- A mask with two runs, whose keys hold a quote and end in a backslash, and with the largest end
that a range can have. -/
def awkwardMask : Mask :=
  { Mask.unrestricted with
    runAndLumis := [("1\"", [(1, Nat.pow 2 64 - 1)]), ("2\\", [(1, 2), (4, 4)])] }

lemma isRegular_awkwardMask : awkwardMask.IsRegular := by
  refine ⟨?_, by decide⟩
  exact List.pairwise_pair.2 (by decide +kernel)

/-- The payload of that mask, and the reading of it. -/
theorem payloads_lossless_awkward :
    escaped awkwardMask.runsToDocument ≠ escaped Mask.unrestricted.runsToDocument ∧
      readRuns? (escaped awkwardMask.runsToDocument) = some awkwardMask.runAndLumis := by
  obtain ⟨-, hruns, -, hinj, -⟩ := payloads_lossless
  refine ⟨fun h => ?_, (hruns awkwardMask isRegular_awkwardMask).2⟩
  exact absurd (hinj _ _ isRegular_awkwardMask Mask.isRegular_unrestricted h) (by decide)

end Node

end JobGraph
