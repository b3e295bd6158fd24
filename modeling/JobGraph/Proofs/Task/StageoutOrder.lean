import JobGraph.Proofs.Task.Settings
import JobGraph.Proofs.Text.LowerCase

/-!
# Orders of stage-out

An order of stage-out is written as words with commas between them.  What is read from a text is
told from its parts alone: the parts that are not blank have to name a step each, in letters of any
case and with white space around them, and there has to be one at least.  A list of texts is read
as if commas joined them.

The main result is `Stageout.orders_round_trip`.
-/

namespace JobGraph.Stageout

/-- The parts of a text between its commas that hold more than white space. -/
def parts (s : String) : List String :=
  (Text.split ',' s).filter fun part => !Text.isBlank part

namespace Step

/-- The part names the step: it is the word for the step in letters of any case, with white space
around it. -/
def Names (part : String) (step : Step) : Prop :=
  ∃ before word after : List Char, part.toList = before ++ word ++ after ∧
    (∀ c ∈ before, Unicode.isBlank c = true) ∧ (∀ c ∈ after, Unicode.isBlank c = true) ∧
      word.map Char.toLower = step.text.toList

/-! ### One step -/

lemma parse_eq_ok_iff_lower {part : String} {step : Step} :
    parse part = .ok step ↔ Unicode.lower (Text.trim part) = step.text := by
  rw [parse]
  split
  · next h =>
    rw [h]
    cases step <;> simp [text]
  · next h =>
    rw [h]
    cases step <;> simp [text]
  · next hlocal hremote =>
    cases step with
    | nearby => simpa [text] using hlocal
    | remote => simpa [text] using hremote

/-- The words for steps are put together from small letters. -/
lemma text_letters (step : Step) :
    ∀ c ∈ step.text.toList, Unicode.FromAscii c ∧ 97 ≤ c.toNat ∧ c.toNat ≤ 122 := by
  have hall : step.text.toList.all
      (fun c => decide (Unicode.FromAscii c ∧ 97 ≤ c.toNat ∧ c.toNat ≤ 122)) = true := by
    cases step with
    | nearby => decide
    | remote => decide
  intro c hc
  exact of_decide_eq_true (List.all_eq_true.1 hall c hc)

lemma isBlank_of_toLower_mem {step : Step} {c : Char} (h : c.toLower ∈ step.text.toList) :
    Unicode.isBlank c = false := by
  obtain ⟨-, hlow, hhigh⟩ := text_letters step _ h
  have hletter : c.isAlphanum = true := by
    rw [Text.isAlphanum_iff]
    by_cases hupper : 65 ≤ c.toNat ∧ c.toNat ≤ 90
    · exact Or.inl hupper
    · rw [Unicode.toLower_eq_self hupper] at hlow hhigh
      exact Or.inr (Or.inl ⟨hlow, hhigh⟩)
  have htoken := Text.isTokenChar_of_isAlphanum hletter
  simp only [Text.isTokenChar, Bool.and_eq_true, Bool.not_eq_true'] at htoken
  exact htoken.1

/-- What is left of a part when it is trimmed is the word. -/
lemma names_iff_trim {part : String} {step : Step} :
    Names part step ↔ (Text.trim part).toList.map Char.toLower = step.text.toList := by
  rw [Text.trim, String.toList_ofList]
  constructor
  · rintro ⟨before, word, after, hpart, hbefore, hafter, hword⟩
    have hsolid : ∀ c ∈ word, Unicode.isBlank c = false := by
      intro c hc
      have hletter : c.toLower ∈ step.text.toList := hword ▸ List.mem_map_of_mem hc
      exact isBlank_of_toLower_mem hletter
    rw [hpart, Text.trimBy_append_append hbefore hafter,
      Text.trimBy_eq_self (fun c hc => hsolid c (List.mem_of_mem_head? hc))
        fun c hc => hsolid c (List.mem_of_mem_getLast? hc), hword]
  · intro hword
    obtain ⟨before, after, hpart, hbefore, hafter⟩ :=
      Text.exists_trimBy Unicode.isBlank part.toList
    exact ⟨before, _, after, hpart, hbefore, hafter, hword⟩

/-- A step is read from a part exactly if the part names it. -/
lemma parse_eq_ok_iff {part : String} {step : Step} : parse part = .ok step ↔ Names part step := by
  rw [parse_eq_ok_iff_lower, names_iff_trim,
    Unicode.lower_eq_iff fun c hc => (text_letters step c hc).1]

end Step

/-! ### All steps -/

/-- The steps that are read are those that the parts name. -/
lemma mapM_parts_eq_ok {s : String} {steps : List Step} :
    (parts s).mapM Step.parse = .ok steps ↔ List.Forall₂ Step.Names (parts s) steps := by
  simp only [mapM_eq_ok, Step.parse_eq_ok_iff]

/-- An order is read exactly if its steps are those that the parts name, and there is one. -/
lemma parse_eq_ok_iff {s : String} {p : Stageout} :
    parse s = .ok p ↔ p.steps ≠ [] ∧ List.Forall₂ Step.Names (parts s) p.steps := by
  rw [parse, ← parts, bind_eq_ok, ← mapM_parts_eq_ok]
  constructor
  · rintro ⟨steps, hsteps, h⟩
    split at h
    · exact absurd h throw_ne_ok
    · next hne =>
      cases pure_eq_ok.1 h
      exact ⟨by simpa using hne, hsteps⟩
  · rintro ⟨hne, hsteps⟩
    refine ⟨p.steps, hsteps, ?_⟩
    rw [if_neg (by simpa using hne)]
    rfl

/-- Some order is read exactly if there are parts and each of them names a step. -/
lemma exists_parse_iff {s : String} :
    (∃ p, parse s = .ok p) ↔ parts s ≠ [] ∧ ∀ part ∈ parts s, ∃ step, Step.Names part step := by
  have hnamed : (∀ part ∈ parts s, ∃ step, Step.Names part step) ↔
      ∃ steps, List.Forall₂ Step.Names (parts s) steps := by
    simp only [← Step.parse_eq_ok_iff, ← exists_mapM_eq_ok, mapM_parts_eq_ok]
  simp only [parse_eq_ok_iff, hnamed]
  constructor
  · rintro ⟨p, hne, hsteps⟩
    refine ⟨?_, p.steps, hsteps⟩
    intro hnil
    rw [hnil, List.forall₂_nil_left_iff] at hsteps
    exact hne hsteps
  · rintro ⟨hne, steps, hsteps⟩
    refine ⟨⟨steps⟩, ?_, hsteps⟩
    rintro rfl
    exact hne (List.forall₂_nil_right_iff.1 hsteps)

/-- A list of texts is read as the texts with commas between them. -/
lemma ofDocument?_list (items : List String) :
    ofDocument? (.list (items.map .text)) = ofDocument? (.text (",".intercalate items)) := by
  have htexts : (items.map Document.text).mapM Document.text? = some items := by
    have hread : (items.map Document.text).mapM Document.text? = some (items.map id) :=
      mapM_map_eq_some fun _ _ => rfl
    rwa [List.map_id] at hread
  have hlist : ofDocument? (.list (items.map .text)) =
      ((items.map Document.text).mapM Document.text?).bind fun texts =>
        (parse (",".intercalate texts)).toOption := rfl
  rw [hlist, htexts]
  rfl

/-- **Orders are read back.**  The text of an order is read as the order, provided that it has a
step.  What is read from any text is an order with a step, which can be read back from its own text,
and its steps are those that the parts of the text name, one after another.  A text is refused
exactly if it has no part that is not blank or a part that names no step.  A list of texts comes to
the same as the texts with commas between them. -/
theorem orders_round_trip (s : String) (items : List String) :
    (∀ p : Stageout, parse p.text = .ok p ↔ p.steps ≠ []) ∧
      (∀ p : Stageout, parse s = .ok p ↔
        p.steps ≠ [] ∧ parse p.text = .ok p ∧ List.Forall₂ Step.Names (parts s) p.steps) ∧
      ((∃ e, parse s = .error e) ↔
        parts s = [] ∨ ∃ part ∈ parts s, ∀ step, ¬ Step.Names part step) ∧
      ofDocument? (.text s) = (parse s).toOption ∧
      ofDocument? (.list (items.map .text)) = ofDocument? (.text (",".intercalate items)) := by
  have htext : ∀ p : Stageout, parse p.text = .ok p ↔ p.steps ≠ [] :=
    fun p => ⟨steps_ne_nil_of_parse, parse_text⟩
  have hrefused : (∃ e, parse s = .error e) ↔ ¬ ∃ p, parse s = .ok p := by
    cases parse s <;> simp
  refine ⟨htext, fun p => ?_, ?_, rfl, ofDocument?_list items⟩
  · rw [parse_eq_ok_iff, htext, ← and_assoc, and_self]
  · rw [hrefused, exists_parse_iff, not_and_or, not_not]
    simp only [not_forall, not_exists, exists_prop]

/-- Case, white space and commas too many do not matter. -/
example : (parse " Remote,, LOCAL ,").toOption = some ⟨[.remote, .nearby]⟩ := by
  decide +kernel

end JobGraph.Stageout
