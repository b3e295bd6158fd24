import JobGraph.Artifact.Node
import JobGraph.Proofs.Json.Layout
import JobGraph.Proofs.Plan.Tokens

/-!
# The values of variables

The value of a variable stands between quotes, and a quote inside of it has to be written behind a
backslash.  Save for the URLs, of which nothing is known, all values keep to that: the quotes of
JSON text are written so, and what a planned job says beside are tokens and numbers, which hold
none.  They are on one line as well.

The main result is `Node.framed_of_mem_vars`.
-/

namespace JobGraph.Node

variable {s : PlannedJob} {cs ds : List Char}

/-- The names of the variables. -/
def varNames : List String :=
  ["count", "runAndLumiMask", "lheInputFiles", "firstEvent", "firstLumi", "lastEvent", "firstRun",
    "seeding", "inputFiles", "+CRAB_localOutputFiles", "+CRAB_DataBlock", "+CRAB_Destination"]

lemma map_fst_vars (s : PlannedJob) : (vars s).map Prod.fst = varNames := rfl

lemma mem_varNames {v : String × String} (hv : v ∈ vars s) : v.1 ∈ varNames := by
  rw [← map_fst_vars s]
  exact List.mem_map_of_mem hv

/-- The URLs come last. -/
lemma vars_eq_append (s : PlannedJob) :
    vars s =
      (vars s).dropLast ++ [("+CRAB_Destination", quotedValue (", ".intercalate s.urls))] := rfl

/-- The text is on one line, and every quote in it stands behind a backslash. -/
inductive Framed : List Char → Prop
  | nil : Framed []
  | char {c : Char} {cs : List Char} (hquote : c ≠ '"') (hline : c ≠ '\n') (h : Framed cs) :
      Framed (c :: cs)
  | quote {cs : List Char} (h : Framed cs) : Framed ('\\' :: '"' :: cs)

lemma Framed.append (h : Framed cs) (h' : Framed ds) : Framed (cs ++ ds) := by
  induction h with
  | nil => exact h'
  | char hquote hline _ ih => exact .char hquote hline ih
  | quote _ ih => exact .quote ih

lemma Framed.lineFeed_not_mem (h : Framed cs) : '\n' ∉ cs := by
  induction h with
  | nil => simp
  | char _ hline _ ih => simpa using ⟨Ne.symm hline, ih⟩
  | quote _ ih => simpa using ih

lemma additive_framed : Additive fun _ cs => Framed cs where
  nil := .nil
  append := Framed.append

lemma framed_of_not_mem (hquote : '"' ∉ cs) (hline : '\n' ∉ cs) : Framed cs := by
  induction cs with
  | nil => exact .nil
  | cons c cs ih =>
    rw [List.mem_cons, not_or] at hquote hline
    exact .char (Ne.symm hquote.1) (Ne.symm hline.1) (ih hquote.2 hline.2)

lemma framed_of_plain {text : String} (h : Text.Plain text) : Framed text.toList :=
  framed_of_not_mem (h.not_mem (by decide)) (h.not_mem (by decide))

/-! ### JSON text -/

/-- A character of JSON text is framed if it is not a line feed. -/
lemma framed_escapeChar {c : Char} (h : c ≠ '\n') : Framed (escapeChar c) := by
  rw [escapeChar]
  split
  · exact .quote (.quote .nil)
  · next hc => exact .char hc h .nil

lemma framed_flatMap_escapeChar (h : '\n' ∉ cs) : Framed (cs.flatMap escapeChar) := by
  have hcs := additive_framed.flatMap (l := cs) (p := fun _ => True) (f := escapeChar)
  refine hcs fun c hc => framed_escapeChar ?_
  rintro rfl
  exact h hc

lemma framed_of_isMark {c : Char} (h : Json.IsMark c) : Framed ([c].flatMap escapeChar) := by
  refine framed_flatMap_escapeChar ?_
  rw [List.mem_singleton]
  rintro rfl
  revert h
  unfold Json.IsMark
  decide

lemma framed_escaped_texts (texts : List String) :
    Framed (escaped (.list (texts.map .text))).toList := by
  rw [escaped, String.toList_ofList]
  exact Json.judge_texts (k := fun _ => True) (additive_framed.comap escapeChar)
    (fun _ => framed_of_isMark)
    fun _ _ c _ => framed_flatMap_escapeChar (Json.lineFeed_not_mem_escapeChar c)

lemma framed_escaped_runs (m : Mask) : Framed (escaped m.runsToDocument).toList := by
  rw [escaped, String.toList_ofList]
  exact Json.judge_runs (k := fun _ => True) (additive_framed.comap escapeChar)
    (fun _ => framed_of_isMark)
    fun _ _ c _ => framed_flatMap_escapeChar (Json.lineFeed_not_mem_escapeChar c)

/-! ### Values -/

lemma framed_quotedValue {text : String} (h : Framed text.toList) :
    Framed (quotedValue text).toList := by
  rw [quotedValue, String.toList_append, String.toList_append]
  exact (Framed.quote .nil).append h |>.append (.quote .nil)

/-- The names of outputs are tokens, and what stands between them is not a quote. -/
lemma plain_outputPair (hs : s.Tokens) :
    ∀ o ∈ s.outputs, Text.Plain s!"{o.here}={o.remote}" := by
  intro o ho
  have happend : s!"{o.here}={o.remote}" = o.here ++ "=" ++ o.remote := rfl
  rw [happend, Text.plain_append, Text.plain_append]
  exact ⟨⟨Text.plain_of_isToken (hs.here o ho), by decide⟩,
    Text.plain_of_isToken (hs.remote o ho)⟩

lemma framed_outputPairs (hs : s.Tokens) : Framed (outputPairs s).toList := by
  rw [outputPairs, String.toList_intercalate, List.map_map]
  exact additive_framed.intercalate (p := fun _ => True)
    (framed_of_not_mem (by decide) (by decide))
    fun o ho => framed_of_plain (plain_outputPair hs o ho)

lemma quote_not_mem_outputPairs (hs : s.Tokens) : '"' ∉ (outputPairs s).toList := by
  rw [outputPairs, Text.not_mem_toList_intercalate (by decide), List.forall_mem_map]
  exact fun o ho => (plain_outputPair hs o ho).not_mem (by decide)

lemma framed_optional (n : Option ℕ) : Framed (optional n).toList := by
  cases n with
  | none => exact framed_of_plain (by decide)
  | some n => exact framed_of_plain (Text.plain_toString n)

lemma framed_truth (b : Bool) : Framed (truth b).toList := by
  cases b <;> exact framed_of_plain (by decide)

/-- **Values.**  The values of all variables but the last one, which lists the URLs, are framed. -/
theorem framed_of_mem_vars (hs : s.Tokens) : ∀ v ∈ (vars s).dropLast, Framed v.2.toList := by
  simp only [vars, List.dropLast_cons_cons, List.dropLast_singleton, List.forall_mem_cons,
    List.not_mem_nil, false_imp_iff, implies_true, and_true]
  exact ⟨framed_of_plain (Text.plain_toString _), framed_escaped_runs _, framed_truth _,
    framed_optional _, framed_optional _, framed_optional _, framed_optional _,
    framed_of_plain (by decide), framed_escaped_texts _,
    framed_quotedValue (framed_outputPairs hs),
    framed_quotedValue (framed_of_plain (Text.plain_of_isToken hs.block))⟩

end JobGraph.Node
