import Mathlib.Tactic.Common
import JobGraph.Json.Printer
import JobGraph.Request

/-!
# What JSON text is made of

JSON text is put together from the characters of its strings, each in its own form, and from marks
and digits.  What can be said of these is carried to the whole by `Additive`; so the text of a list
of strings and that of the runs of a mask need one lemma each, `Json.judge_texts` and
`Json.judge_runs`, which serve for every judgement of texts.

No character has a line feed in its form, so quoted text is on one line.
-/

namespace JobGraph

variable {α : Type} {J : Prop → List Char → Prop} {k : Char → Prop}

/-- A judgement of texts that goes from the parts to the whole: `J p cs` says how the text `cs` is
judged, where the condition `p` is what it depends on. -/
structure Additive (J : Prop → List Char → Prop) : Prop where
  nil : J True []
  append {p q : Prop} {a b : List Char} : J p a → J q b → J (p ∧ q) (a ++ b)

namespace Additive

lemma flatMap (hJ : Additive J) {l : List α} {p : α → Prop} {f : α → List Char}
    (h : ∀ x ∈ l, J (p x) (f x)) : J (∀ x ∈ l, p x) (l.flatMap f) := by
  induction l with
  | nil => simpa using hJ.nil
  | cons x xs ih =>
    rw [List.forall_mem_cons] at h
    rw [List.flatMap_cons]
    simpa only [List.forall_mem_cons] using hJ.append h.1 (ih h.2)

/-- A text without conditions on its characters is judged without a condition. -/
lemma of_forall_mem (hJ : Additive J) {cs : List Char} (h : ∀ c ∈ cs, J True [c]) : J True cs := by
  have hcs := hJ.flatMap (p := fun _ => True) (f := fun c => [c]) h
  rw [List.flatMap_singleton'] at hcs
  simpa using hcs

lemma intercalate (hJ : Additive J) {sep : List Char} (hsep : J True sep) {l : List α}
    {p : α → Prop} {f : α → List Char} (h : ∀ x ∈ l, J (p x) (f x)) :
    J (∀ x ∈ l, p x) (sep.intercalate (l.map f)) := by
  induction l with
  | nil => simpa using hJ.nil
  | cons x xs ih =>
    rw [List.forall_mem_cons] at h
    cases xs with
    | nil => simpa using h.1
    | cons y ys =>
      have hwhole := hJ.append h.1 (hJ.append hsep (ih h.2))
      rw [List.map_cons, ← List.append_assoc] at hwhole
      rw [List.map_cons, List.map_cons, List.intercalate_cons_cons]
      simpa only [List.forall_mem_cons, true_and] using hwhole

/-- What is written character by character can be judged before it is written. -/
lemma comap (hJ : Additive J) (f : Char → List Char) : Additive fun p cs => J p (cs.flatMap f) where
  nil := hJ.nil
  append ha hb := by
    rw [List.flatMap_append]
    exact hJ.append ha hb

end Additive

namespace Json

/-! ### Line feeds -/

lemma lineFeed_not_mem_escapeChar (c : Char) : '\n' ∉ escapeChar c := by
  by_cases hc : c = '\n'
  · -- a line feed is written as a backslash and a letter
    subst hc
    decide
  · exact fun hmem => escapeChar_ne_lineFeed hmem hc rfl

lemma lineFeed_not_mem_renderText (s : String) : '\n' ∉ renderText s := by
  rw [renderText]
  simp only [List.cons_append, List.mem_cons, List.mem_append, List.not_mem_nil, or_false, not_or,
    escape, List.mem_flatMap, not_exists, not_and]
  exact ⟨by decide, fun c _ => lineFeed_not_mem_escapeChar c, by decide⟩

/-- Quoted text is on one line. -/
lemma lineFeed_not_mem_quote (s : String) : '\n' ∉ (quote s).toList := by
  rw [quote, String.toList_ofList]
  exact lineFeed_not_mem_renderText s

/-! ### The layout of documents -/

/-- A character that JSON text needs beside the strings: a digit, a bracket, a mark or a quote. -/
def IsMark (c : Char) : Prop :=
  c.isDigit = true ∨ c ∈ ['[', ']', '\x7b', '\x7d', ',', ':', '"']

lemma renderItems_eq (ds : List Document) :
    renderItems ds = [','].intercalate (ds.map renderChars) := by
  induction ds with
  | nil => rfl
  | cons d ds ih =>
    cases ds with
    | nil => simp [renderItems]
    | cons d' ds =>
      rw [renderItems, ih]
      · simp
      · exact List.cons_ne_nil d' ds

lemma renderEntries_eq (es : List (String × Document)) :
    renderEntries es =
      [','].intercalate (es.map fun e => renderText e.1 ++ ':' :: renderChars e.2) := by
  induction es with
  | nil => rfl
  | cons e es ih =>
    cases es with
    | nil => simp [renderEntries]
    | cons e' es =>
      rw [renderEntries, ih]
      · simp
      · exact List.cons_ne_nil e' es

lemma renderChars_natCast (n : ℕ) : renderChars (.int n) = Nat.toDigits 10 n := by
  rw [renderChars]
  have h : toString (n : Int) = toString n := rfl
  rw [h]
  simp

/-- A string is judged by its characters. -/
lemma judge_renderText (hJ : Additive J) (hmark : ∀ c, IsMark c → J True [c]) {s : String}
    (hchar : ∀ c ∈ s.toList, J (k c) (escapeChar c)) :
    J (∀ c ∈ s.toList, k c) (renderText s) := by
  have hquote : J True ['"'] := hmark _ (Or.inr (by decide))
  have hbody := hJ.append hquote (hJ.append (hJ.flatMap hchar) hquote)
  simpa [renderText, escape] using hbody

/-- A list is judged by its items. -/
lemma judge_list (hJ : Additive J) (hmark : ∀ c, IsMark c → J True [c]) {l : List α}
    {p : α → Prop} {f : α → Document} (h : ∀ x ∈ l, J (p x) (renderChars (f x))) :
    J (∀ x ∈ l, p x) (renderChars (.list (l.map f))) := by
  have hopen : J True ['['] := hmark _ (Or.inr (by decide))
  have hclose : J True [']'] := hmark _ (Or.inr (by decide))
  have hitems := hJ.intercalate (hmark ',' (Or.inr (by decide))) h
  rw [renderChars, renderItems_eq, List.map_map]
  simpa [Function.comp_def] using hJ.append hopen (hJ.append hitems hclose)

/-- Strings in a list are judged by their characters. -/
lemma judge_texts (hJ : Additive J) (hmark : ∀ c, IsMark c → J True [c]) {texts : List String}
    (hchar : ∀ s ∈ texts, ∀ c ∈ s.toList, J (k c) (escapeChar c)) :
    J (∀ s ∈ texts, ∀ c ∈ s.toList, k c) (renderChars (.list (texts.map .text))) := by
  refine judge_list hJ hmark fun s hs => ?_
  rw [renderChars]
  exact judge_renderText hJ hmark (hchar s hs)

lemma judge_natCast (hJ : Additive J) (hmark : ∀ c, IsMark c → J True [c]) (n : ℕ) :
    J True (renderChars (.int n)) := by
  refine hJ.of_forall_mem fun c hc => hmark c (Or.inl ?_)
  rw [renderChars_natCast] at hc
  exact Nat.isDigit_of_mem_toDigits (b := 10) (by decide) (by decide) hc

/-- Ranges hold nothing but numbers. -/
lemma judge_ranges (hJ : Additive J) (hmark : ∀ c, IsMark c → J True [c])
    (ranges : List (ℕ × ℕ)) : J True (renderChars (.list (ranges.map Mask.rangeToDocument))) := by
  have hranges := judge_list hJ hmark (l := ranges) (p := fun _ => True)
    (f := Mask.rangeToDocument) fun e _ => by
      have hends := judge_list hJ hmark (l := [e.1, e.2]) (p := fun _ => True)
        (f := fun n => .int n) fun n _ => judge_natCast hJ hmark n
      rw [Mask.rangeToDocument]
      simpa using hends
  simpa using hranges

/-- The runs of a mask are judged by the characters of their keys. -/
lemma judge_runs (hJ : Additive J) (hmark : ∀ c, IsMark c → J True [c]) {m : Mask}
    (hchar : ∀ e ∈ m.runAndLumis, ∀ c ∈ e.1.toList, J (k c) (escapeChar c)) :
    J (∀ e ∈ m.runAndLumis, ∀ c ∈ e.1.toList, k c) (renderChars m.runsToDocument) := by
  have hopen : J True ['\x7b'] := hmark _ (Or.inr (by decide))
  have hclose : J True ['\x7d'] := hmark _ (Or.inr (by decide))
  have hcolon : J True [':'] := hmark _ (Or.inr (by decide))
  have hentries := hJ.intercalate (hmark ',' (Or.inr (by decide))) (l := m.runAndLumis)
    (f := fun e => renderText e.1 ++ ':' :: renderChars (.list (e.2.map Mask.rangeToDocument)))
    fun e he => by
      have hentry := hJ.append (judge_renderText hJ hmark (hchar e he))
        (hJ.append hcolon (judge_ranges hJ hmark e.2))
      simpa using hentry
  rw [Mask.runsToDocument, renderChars, renderEntries_eq, List.map_map]
  simpa [Function.comp_def] using hJ.append hopen (hJ.append hentries hclose)

end Json

end JobGraph
