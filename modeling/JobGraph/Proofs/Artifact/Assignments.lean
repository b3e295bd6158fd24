import Mathlib.Algebra.Ring.Parity
import Mathlib.Data.List.DropRight
import JobGraph.Proofs.Artifact.Variables

/-!
# Reading variables

The statement about the variables of a job is read assignment by assignment.  Each begins with a
blank, its name, an equals sign and a quote; its value ends at the first quote that no backslash
escapes, and then the next assignment has to begin.

A text either passes, which is to say that it can stand in a value whatever follows, or it ends the
value too early, and then what follows is not an assignment; `Judged` says which of them is the
case, and goes from the parts of a value to the whole.  A quote in a run of the mask ends the value,
since its two backslashes escape each other, and so does the closing quote of a text that ends in an
odd number of backslashes.  There is nothing else that does: this is `Node.readVars?_iff`.
-/

namespace JobGraph.Node

variable {s : PlannedJob} {cs ds : List Char} {p q : Prop}

/-! ### The reader -/

/-- The value at the beginning of a text, as it is written, and what follows the quote that closes
it.  A backslash escapes the character behind it. -/
def cutValue? : List Char → Option (List Char × List Char)
  | [] => none
  | '"' :: cs => some ([], cs)
  | ['\\'] => none
  | '\\' :: c :: cs => (cutValue? cs).map fun (v, rest) => ('\\' :: c :: v, rest)
  | c :: cs => (cutValue? cs).map fun (v, rest) => (c :: v, rest)

/-- The assignment at the beginning of a text, and what follows it. -/
def cutAssignment? (cs : List Char) : Option ((String × String) × List Char) :=
  match Text.cutFirst? '=' cs with
  | some (varName, '"' :: cs) =>
    if Text.isToken (String.ofList varName) then
      (cutValue? cs).map fun (v, rest) => ((String.ofList varName, String.ofList v), rest)
    else none
  | _ => none

/-- The assignments that a text consists of, each behind a blank.  The first argument bounds their
number. -/
def assignments? : ℕ → List Char → Option (List (String × String))
  | _, [] => some []
  | fuel + 1, ' ' :: cs =>
    (cutAssignment? cs).bind fun (v, rest) => (assignments? fuel rest).map (v :: ·)
  | _, _ => none

/-- The assignments in the statement about the variables of a node. -/
def readVars? (node line : String) : Option (List (String × String)) :=
  let start := ("VARS " ++ node).toList
  if start.isPrefixOf line.toList then
    assignments? line.toList.length (line.toList.drop start.length)
  else none

/-- The statement about the variables of a job. -/
def varsStatement (s : PlannedJob) : String :=
  s!"VARS {name s.sequence} " ++ " ".intercalate ((vars s).map assignment)

/-! ### What passes and what breaks -/

/-- The text can stand in a value whatever follows. -/
def Passes (cs : List Char) : Prop :=
  ∀ rest, cutValue? (cs ++ rest) = (cutValue? rest).map fun (v, rest) => (cs ++ v, rest)

/-- The text ends the value in which it stands, and does not go on with a blank. -/
def Breaks (cs : List Char) : Prop :=
  ∀ rest, ∃ v c rest', cutValue? (cs ++ rest) = some (v, c :: rest') ∧ c ≠ ' '

/-- The text passes if `p` holds, and breaks if it does not. -/
def Judged (p : Prop) (cs : List Char) : Prop :=
  (p ∧ Passes cs) ∨ (¬ p ∧ Breaks cs)

lemma passes_nil : Passes [] := fun rest => by simp

lemma Passes.append (h : Passes cs) (h' : Passes ds) : Passes (cs ++ ds) := by
  intro rest
  rw [List.append_assoc, h, h', Option.map_map]
  simp [Function.comp_def]

lemma Breaks.append (h : Breaks cs) (ds : List Char) : Breaks (cs ++ ds) := by
  intro rest
  rw [List.append_assoc]
  exact h (ds ++ rest)

lemma Passes.append_breaks (h : Passes cs) (h' : Breaks ds) : Breaks (cs ++ ds) := by
  intro rest
  obtain ⟨v, c, rest', hcut, hc⟩ := h' rest
  refine ⟨cs ++ v, c, rest', ?_, hc⟩
  rw [List.append_assoc, h, hcut]
  rfl

lemma additive_passes : Additive fun _ cs => Passes cs where
  nil := passes_nil
  append := Passes.append

lemma judged_true (h : Passes cs) : Judged True cs := Or.inl ⟨trivial, h⟩

/-- The first part that breaks decides. -/
lemma additive_judged : Additive Judged where
  nil := judged_true passes_nil
  append := by
    rintro p q a b (⟨hp, ha⟩ | ⟨hp, ha⟩) hb
    · rcases hb with ⟨hq, hb⟩ | ⟨hq, hb⟩
      · exact Or.inl ⟨⟨hp, hq⟩, ha.append hb⟩
      · exact Or.inr ⟨fun h => hq h.2, ha.append_breaks hb⟩
    · exact Or.inr ⟨fun h => hp h.1, ha.append b⟩

lemma Judged.passes (h : Judged p cs) (hp : p) : Passes cs := by
  rcases h with ⟨-, h⟩ | ⟨hnot, -⟩
  · exact h
  · exact absurd hp hnot

lemma passes_singleton {c : Char} (hquote : c ≠ '"') (hslash : c ≠ '\\') : Passes [c] := by
  intro rest
  rw [List.singleton_append, cutValue?]
  · rfl
  · exact hquote
  · exact fun h _ => hslash h
  · exact fun _ _ h _ => hslash h

lemma passes_escape (c : Char) : Passes ['\\', c] := by
  intro rest
  rw [List.cons_append, List.singleton_append, cutValue?]
  rfl

lemma passes_of_not_mem (hquote : '"' ∉ cs) (hslash : '\\' ∉ cs) : Passes cs := by
  induction cs with
  | nil => exact passes_nil
  | cons c cs ih =>
    rw [List.mem_cons, not_or] at hquote hslash
    exact (passes_singleton (Ne.symm hquote.1) (Ne.symm hslash.1)).append (ih hquote.2 hslash.2)

/-! ### JSON text -/

lemma flatMap_escapeChar_eq_self (h : '"' ∉ cs) : cs.flatMap escapeChar = cs := by
  induction cs with
  | nil => rfl
  | cons c cs ih =>
    rw [List.mem_cons, not_or] at h
    rw [List.flatMap_cons, ih h.2, escapeChar, if_neg (Ne.symm h.1)]
    rfl

/-- A quote in a string is written behind a backslash, which escapes the backslash that is put in
front of the quote. -/
lemma breaks_quote : Breaks ((Json.escapeChar '"').flatMap escapeChar) := by
  intro rest
  exact ⟨['\\', '\\'], '\\', '"' :: rest, rfl, by decide⟩

lemma passes_escapeCode (n : ℕ) : Passes ((Json.escapeCode n).flatMap escapeChar) := by
  have hcode : Json.escapeCode n =
      ['\\', 'u'] ++ ['0', '0', (n / 16).digitChar, (n % 16).digitChar] := rfl
  rw [flatMap_escapeChar_eq_self (by simp [hcode]), hcode]
  exact (passes_escape 'u').append (passes_of_not_mem (by simp) (by simp))

/-- A character of a string passes unless it is a quote. -/
lemma judged_escapeChar (c : Char) :
    Judged (c ≠ '"') ((Json.escapeChar c).flatMap escapeChar) := by
  by_cases hquote : c = '"'
  · subst hquote
    exact Or.inr ⟨not_not.2 rfl, breaks_quote⟩
  · refine Or.inl ⟨hquote, ?_⟩
    rw [Json.escapeChar, if_neg hquote]
    split_ifs with hslash
    · exact passes_escape '\\'
    · exact passes_escape 'n'
    · exact passes_escape 'r'
    · exact passes_escape 't'
    · exact passes_escape 'b'
    · exact passes_escape 'f'
    · exact passes_escapeCode c.toNat
    · rw [flatMap_escapeChar_eq_self (by simpa using Ne.symm hquote)]
      exact passes_singleton hquote hslash

lemma judged_of_isMark {c : Char} (h : Json.IsMark c) : Judged True ([c].flatMap escapeChar) := by
  refine judged_true ?_
  by_cases hquote : c = '"'
  · subst hquote
    exact (passes_escape '"').append (passes_escape '"')
  · rw [flatMap_escapeChar_eq_self (by simpa using Ne.symm hquote)]
    refine passes_singleton hquote ?_
    rintro rfl
    revert h
    unfold Json.IsMark
    decide

/-- The JSON text of runs passes if there is no quote in them. -/
lemma judged_runs (m : Mask) :
    Judged (∀ e ∈ m.runAndLumis, ∀ c ∈ e.1.toList, c ≠ '"')
      (escaped m.runsToDocument).toList := by
  rw [escaped, String.toList_ofList]
  exact Json.judge_runs (k := fun c => c ≠ '"') (additive_judged.comap escapeChar)
    (fun _ => judged_of_isMark) fun _ _ c _ => judged_escapeChar c

lemma passes_texts {texts : List String} (h : ∀ t ∈ texts, Text.isToken t = true) :
    Passes (escaped (.list (texts.map .text))).toList := by
  have hjudged : Judged (∀ t ∈ texts, ∀ c ∈ t.toList, c ≠ '"')
      (escaped (.list (texts.map .text))).toList := by
    rw [escaped, String.toList_ofList]
    exact Json.judge_texts (k := fun c => c ≠ '"') (additive_judged.comap escapeChar)
      (fun _ => judged_of_isMark) fun _ _ c _ => judged_escapeChar c
  refine hjudged.passes fun t ht c hc => ?_
  rintro rfl
  exact (Text.plain_of_isToken (h t ht)).not_mem (by decide) hc

/-! ### Texts between quotes -/

/-- How many backslashes a text ends in. -/
def backslashes (cs : List Char) : ℕ :=
  (cs.rtakeWhile (· == '\\')).length

/-- What stands in front of another character does not count. -/
lemma backslashes_append_cons {c : Char} (h : c ≠ '\\') (cs ds : List Char) :
    backslashes (cs ++ c :: ds) = backslashes ds := by
  have hback : (cs ++ c :: ds).rtakeWhile (· == '\\') = ds.rtakeWhile (· == '\\') := by
    induction ds using List.reverseRecOn with
    | nil => exact List.rtakeWhile_concat_neg _ _ _ (by simpa using h)
    | append_singleton ds d ih =>
      rw [← List.cons_append, ← List.append_assoc, List.rtakeWhile_concat, List.rtakeWhile_concat,
        ih]
  rw [backslashes, hback, backslashes]

/-- A text without quotes passes if its last character is not a backslash. -/
lemma passes_of_getLast? (hquote : '"' ∉ cs) (hlast : ∀ c ∈ cs.getLast?, c ≠ '\\') :
    Passes cs := by
  -- a backslash is not the last character, so it takes the one behind it along
  induction cs using cutValue?.induct with
  | case1 => exact passes_nil
  | case2 cs => simp at hquote
  | case3 => exact absurd rfl (hlast '\\' rfl)
  | case4 c cs ih =>
    have hlast' : ∀ d ∈ cs.getLast?, d ≠ '\\' := fun d hd =>
      hlast d (List.mem_getLast?_append_of_mem_getLast? hd : d ∈ (['\\', c] ++ cs).getLast?)
    exact (passes_escape c).append (ih (fun h => hquote (by simp [h])) hlast')
  | case5 c cs hc hend hpair ih =>
    have hslash : c ≠ '\\' := by
      intro h
      cases cs with
      | nil => exact hend h rfl
      | cons d ds => exact hpair d ds h rfl
    have hlast' : ∀ d ∈ cs.getLast?, d ≠ '\\' := fun d hd =>
      hlast d (List.mem_getLast?_append_of_mem_getLast? hd : d ∈ ([c] ++ cs).getLast?)
    exact (passes_singleton hc hslash).append (ih (fun h => hquote (by simp [h])) hlast')

lemma passes_replicate {n : ℕ} (h : Even n) : Passes (List.replicate n '\\') := by
  obtain ⟨k, rfl⟩ := h
  induction k with
  | zero => exact passes_nil
  | succ k ih =>
    have hmore : List.replicate (k + 1 + (k + 1)) '\\' =
        ['\\', '\\'] ++ List.replicate (k + k) '\\' := by
      rw [Nat.add_add_add_comm, Nat.add_comm, List.replicate_add]
      rfl
    rw [hmore]
    exact (passes_escape '\\').append ih

/-- A text comes apart into its backslashes at the end and what stands in front of them. -/
lemma exists_append_backslashes (cs : List Char) :
    ∃ front, cs = front ++ List.replicate (backslashes cs) '\\' ∧
      ∀ c ∈ front.getLast?, c ≠ '\\' := by
  refine ⟨cs.rdropWhile (· == '\\'), ?_, ?_⟩
  · have hall : cs.rtakeWhile (· == '\\') = List.replicate (backslashes cs) '\\' :=
      List.eq_replicate_of_mem fun c hc => by simpa using List.mem_rtakeWhile_imp hc
    rw [← hall, List.rdropWhile_append_rtakeWhile]
  · intro c hc
    obtain ⟨hne, rfl⟩ := List.mem_getLast?_eq_getLast hc
    simpa using List.rdropWhile_last_not _ _ hne

/-- The text stands for itself between the quotes of a variable. -/
def Ends (cs : List Char) : Prop :=
  ∀ rest, cutValue? (cs ++ '"' :: rest) = some (cs, rest)

/-- Between the quotes of a variable, the text ends the value too early, and what follows does not
begin with a blank. -/
def Spills (cs : List Char) : Prop :=
  ∀ rest, ∃ v c rest', cutValue? (cs ++ '"' :: rest) = some (v, c :: rest') ∧ c ≠ ' '

lemma Passes.ends (h : Passes cs) : Ends cs := by
  intro rest
  rw [h, cutValue?]
  simp

lemma Breaks.spills (h : Breaks cs) : Spills cs := fun rest => h ('"' :: rest)

lemma toList_quotedValue (text : String) :
    (quotedValue text).toList = ['\\', '"'] ++ (text.toList ++ ['\\', '"']) := by
  rw [quotedValue, String.toList_append, String.toList_append, List.append_assoc]
  rfl

lemma passes_quotedValue {text : String} (h : Passes text.toList) :
    Passes (quotedValue text).toList := by
  rw [toList_quotedValue]
  exact (passes_escape '"').append (h.append (passes_escape '"'))

/-- The closing quote of a text is escaped if the backslashes in front of it are even. -/
lemma ends_quotedValue {text : String} (hquote : '"' ∉ text.toList)
    (heven : Even (backslashes text.toList)) : Ends (quotedValue text).toList := by
  obtain ⟨front, hfront, hlast⟩ := exists_append_backslashes text.toList
  have hnot : '"' ∉ front := fun h => hquote (by rw [hfront]; exact List.mem_append_left _ h)
  have htext : Passes text.toList := by
    rw [hfront]
    exact (passes_of_getLast? hnot hlast).append (passes_replicate heven)
  exact (passes_quotedValue htext).ends

/-- If they are odd, the last one and the one of the quote escape each other. -/
lemma spills_quotedValue {text : String} (hquote : '"' ∉ text.toList)
    (hodd : ¬ Even (backslashes text.toList)) : Spills (quotedValue text).toList := by
  obtain ⟨front, hfront, hlast⟩ := exists_append_backslashes text.toList
  have hnot : '"' ∉ front := fun h => hquote (by rw [hfront]; exact List.mem_append_left _ h)
  obtain ⟨k, hk⟩ := Nat.not_even_iff_odd.1 hodd
  have hpass : Passes (['\\', '"'] ++ (front ++ List.replicate (2 * k) '\\')) :=
    (passes_escape '"').append ((passes_of_getLast? hnot hlast).append
      (passes_replicate (even_two_mul k)))
  have hvalue : (quotedValue text).toList =
      ['\\', '"'] ++ (front ++ List.replicate (2 * k) '\\') ++ ['\\', '\\', '"'] := by
    rw [toList_quotedValue, hfront, hk, List.replicate_succ']
    simp
  intro rest
  refine ⟨['\\', '"'] ++ (front ++ List.replicate (2 * k) '\\') ++ ['\\', '\\'], '"', rest, ?_,
    by decide⟩
  rw [hvalue, List.append_assoc _ ['\\', '\\', '"'], hpass]
  rfl

/-! ### Assignments one after another -/

/-- The value ends where it should if `p` holds, and too early if it does not. -/
def Closes (p : Prop) (cs : List Char) : Prop :=
  (p ∧ Ends cs) ∨ (¬ p ∧ Spills cs)

lemma Ends.closes (h : Ends cs) : Closes True cs := Or.inl ⟨trivial, h⟩

lemma Judged.closes (h : Judged p cs) : Closes p cs :=
  h.imp (And.imp_right Passes.ends) (And.imp_right Breaks.spills)

/-- Assignments as they stand in a line. -/
def listed (vs : List (String × String)) : List Char :=
  vs.flatMap fun v => ' ' :: (assignment v).toList

lemma length_le_length_listed (vs : List (String × String)) : vs.length ≤ (listed vs).length := by
  induction vs with
  | nil => exact Nat.zero_le _
  | cons v vs ih =>
    rw [listed, List.flatMap_cons, ← listed, List.length_append, List.length_cons, List.length_cons]
    omega

lemma cutAssignment?_append {v : String × String} (hv : v.1 ∈ varNames) (rest : List Char) :
    cutAssignment? ((assignment v).toList ++ rest) =
      (cutValue? (v.2.toList ++ '"' :: rest)).map fun (w, rest) =>
        ((v.1, String.ofList w), rest) := by
  have hnames : ∀ k ∈ varNames, Text.isToken k = true ∧ '=' ∉ k.toList := by decide
  obtain ⟨htoken, hequals⟩ := hnames v.1 hv
  have htext : (assignment v).toList ++ rest =
      v.1.toList ++ '=' :: '"' :: (v.2.toList ++ '"' :: rest) := by
    simp [assignment]
  rw [cutAssignment?, htext, Text.cutFirst?_append hequals]
  simp [htoken]

lemma assignments?_eq_none {c : Char} (hc : c ≠ ' ') (fuel : ℕ) (cs : List Char) :
    assignments? fuel (c :: cs) = none := by
  cases fuel with
  | zero => simp [assignments?]
  | succ fuel =>
    rw [assignments?]
    · simp
    · exact fun _ _ _ h => hc (List.cons.inj h).1

/-- An assignment whose value ends where it should is read as it is. -/
lemma assignments?_of_ends {v : String × String} (hv : v.1 ∈ varNames) (h : Ends v.2.toList)
    (fuel : ℕ) (rest : List Char) :
    assignments? (fuel + 1) (' ' :: ((assignment v).toList ++ rest)) =
      (assignments? fuel rest).map (v :: ·) := by
  have hcut : cutAssignment? ((assignment v).toList ++ rest) = some (v, rest) := by
    rw [cutAssignment?_append hv, h]
    simp
  rw [assignments?, hcut]
  rfl

/-- Nothing is read if the value ends too early. -/
lemma assignments?_of_spills {v : String × String} (hv : v.1 ∈ varNames) (h : Spills v.2.toList)
    (fuel : ℕ) (rest : List Char) :
    assignments? (fuel + 1) (' ' :: ((assignment v).toList ++ rest)) = none := by
  obtain ⟨w, c, rest', hcut, hc⟩ := h rest
  have hcut' : cutAssignment? ((assignment v).toList ++ rest) =
      some ((v.1, String.ofList w), c :: rest') := by
    rw [cutAssignment?_append hv, hcut]
    rfl
  rw [assignments?, hcut', Option.bind_some]
  dsimp only
  rw [assignments?_eq_none hc, Option.map_none]

/-- Values all of which end where they should are read as they are, and if there is another one,
nothing is read. -/
lemma assignments?_listed {ps : List Prop} {vs : List (String × String)}
    (h : List.Forall₂ (fun p v => v.1 ∈ varNames ∧ Closes p v.2.toList) ps vs) {fuel : ℕ}
    (hfuel : vs.length ≤ fuel) :
    ((∀ p ∈ ps, p) → assignments? fuel (listed vs) = some vs) ∧
      (¬ (∀ p ∈ ps, p) → assignments? fuel (listed vs) = none) := by
  induction h generalizing fuel with
  | nil => simp [listed, assignments?]
  | @cons p v ps vs hv _ ih =>
    obtain ⟨hname, hclose⟩ := hv
    rw [List.length_cons] at hfuel
    obtain ⟨fuel, rfl⟩ : ∃ n, fuel = n + 1 := Nat.exists_eq_succ_of_ne_zero (by omega)
    obtain ⟨hall, hnot⟩ := @ih fuel (by omega)
    have hlisted : listed (v :: vs) = ' ' :: ((assignment v).toList ++ listed vs) := rfl
    rw [hlisted, List.forall_mem_cons]
    rcases hclose with ⟨hp, hends⟩ | ⟨hp, hspills⟩
    · rw [assignments?_of_ends hname hends]
      refine ⟨fun hps => ?_, fun hps => ?_⟩
      · rw [hall hps.2, Option.map_some]
      · rw [hnot fun h => hps ⟨hp, h⟩, Option.map_none]
    · rw [assignments?_of_spills hname hspills]
      exact ⟨fun hps => absurd hps.1 hp, fun _ => rfl⟩

/-! ### The variables of a job -/

lemma ends_of_not_mem (hquote : '"' ∉ cs) (hslash : '\\' ∉ cs) : Ends cs :=
  (passes_of_not_mem hquote hslash).ends

lemma ends_toString (n : ℕ) : Ends (toString n).toList := by
  have hdigits : (toString n).toList = Nat.toDigits 10 n := by simp
  rw [hdigits]
  exact ends_of_not_mem (Text.not_mem_toDigits (by decide) n) (Text.not_mem_toDigits (by decide) n)

lemma ends_optional (n : Option ℕ) : Ends (optional n).toList := by
  cases n with
  | none => exact ends_of_not_mem (by decide) (by decide)
  | some n => exact ends_toString n

lemma ends_truth (b : Bool) : Ends (truth b).toList := by
  cases b <;> exact ends_of_not_mem (by decide) (by decide)

lemma closes_quotedValue {text : String} (h : '"' ∉ text.toList) :
    Closes (Even (backslashes text.toList)) (quotedValue text).toList := by
  by_cases heven : Even (backslashes text.toList)
  · exact Or.inl ⟨heven, ends_quotedValue h heven⟩
  · exact Or.inr ⟨heven, spills_quotedValue h heven⟩

/-- The pairs of names end as the last name does. -/
lemma backslashes_outputPairs (s : PlannedJob) :
    Even (backslashes (outputPairs s).toList) ↔
      ∀ o ∈ s.outputs.getLast?, Even (backslashes o.remote.toList) := by
  rw [outputPairs, String.toList_intercalate, List.map_map]
  rcases List.eq_nil_or_concat s.outputs with hnil | ⟨init, o, hlast⟩
  · simp [hnil, backslashes]
  · rw [hlast, List.concat_eq_append, List.map_append, List.map_singleton]
    obtain ⟨front, hfront⟩ := Text.exists_intercalate_concat (", ".toList)
      (init.map (String.toList ∘ fun o => s!"{o.here}={o.remote}"))
      (s!"{o.here}={o.remote}").toList
    have hpair : (s!"{o.here}={o.remote}").toList = o.here.toList ++ '=' :: o.remote.toList := by
      have happend : s!"{o.here}={o.remote}" = o.here ++ "=" ++ o.remote := rfl
      rw [happend]
      simp
    rw [Function.comp_apply, hfront, hpair, ← List.append_assoc,
      backslashes_append_cons (by decide)]
    simp

/-- What the variables of a job depend on, one by one. -/
def conditions (s : PlannedJob) : List Prop :=
  [True, ∀ e ∈ s.mask.runAndLumis, ∀ c ∈ e.1.toList, c ≠ '"', True, True, True, True, True, True,
    True, Even (backslashes (outputPairs s).toList), Even (backslashes s.block.toList), True]

lemma closes_vars (hs : s.Tokens)
    (hurls : ∀ url ∈ s.urls, '"' ∉ url.toList ∧ '\\' ∉ url.toList) :
    List.Forall₂ (fun p v => v.1 ∈ varNames ∧ Closes p v.2.toList) (conditions s) (vars s) := by
  have hblock : '"' ∉ s.block.toList := (Text.plain_of_isToken hs.block).not_mem (by decide)
  have hlist : Ends (quotedValue (", ".intercalate s.urls)).toList := by
    refine (passes_quotedValue ?_).ends
    rw [String.toList_intercalate]
    exact additive_passes.intercalate (p := fun _ => True)
      (passes_of_not_mem (by decide) (by decide)) fun url hurl =>
        passes_of_not_mem (hurls url hurl).1 (hurls url hurl).2
  simp only [conditions, vars, List.forall₂_cons, List.forall₂_nil_right_iff, and_true]
  exact ⟨⟨by decide, (ends_toString _).closes⟩, ⟨by decide, (judged_runs s.mask).closes⟩,
    ⟨by decide, (ends_truth _).closes⟩, ⟨by decide, (ends_optional _).closes⟩,
    ⟨by decide, (ends_optional _).closes⟩, ⟨by decide, (ends_optional _).closes⟩,
    ⟨by decide, (ends_optional _).closes⟩,
    ⟨by decide, (ends_of_not_mem (by decide) (by decide)).closes⟩,
    ⟨by decide, (passes_texts hs.inputFile).ends.closes⟩,
    ⟨by decide, closes_quotedValue (quote_not_mem_outputPairs hs)⟩,
    ⟨by decide, closes_quotedValue hblock⟩, by decide, hlist.closes⟩

/-- The job has nothing in it that ends a value too early: no quote in a run of its mask, and no
odd number of backslashes at the end of its block or of its last output. -/
structure Legible (s : PlannedJob) : Prop where
  runs : ∀ e ∈ s.mask.runAndLumis, '"' ∉ e.1.toList
  outputs : ∀ o ∈ s.outputs.getLast?, Even (backslashes o.remote.toList)
  block : Even (backslashes s.block.toList)

instance (s : PlannedJob) : Decidable (Legible s) :=
  decidable_of_iff
    ((∀ e ∈ s.mask.runAndLumis, '"' ∉ e.1.toList) ∧
      (∀ o ∈ s.outputs.getLast?, Even (backslashes o.remote.toList)) ∧
      Even (backslashes s.block.toList))
    ⟨fun h => ⟨h.1, h.2.1, h.2.2⟩, fun h => ⟨h.runs, h.outputs, h.block⟩⟩

lemma forall_conditions_iff (s : PlannedJob) : (∀ p ∈ conditions s, p) ↔ Legible s := by
  simp only [conditions, List.forall_mem_cons, List.not_mem_nil, false_imp_iff, implies_true,
    and_true, true_and, backslashes_outputPairs, List.forall_mem_ne']
  exact ⟨fun h => ⟨h.1, h.2.1, h.2.2⟩, fun h => ⟨h.runs, h.outputs, h.block⟩⟩

/-- The statement is its two words and the assignments behind them. -/
lemma toList_varsStatement (s : PlannedJob) :
    (varsStatement s).toList = ("VARS " ++ name s.sequence).toList ++ listed (vars s) := by
  have hlisted : ∀ v vs, ' ' :: (" ".intercalate ((v :: vs).map assignment)).toList =
      listed (v :: vs) := by
    intro v vs
    induction vs generalizing v with
    | nil => simp [listed]
    | cons v' vs ih =>
      rw [List.map_cons, Text.intercalate_cons (by simp), listed, List.flatMap_cons, ← listed,
        ← ih v']
      simp
  have happend : varsStatement s =
      "VARS " ++ name s.sequence ++ " " ++ " ".intercalate ((vars s).map assignment) := rfl
  rw [happend, String.toList_append, String.toList_append, List.append_assoc]
  exact congrArg _ (hlisted _ _)

/-- What the statement about the variables of a job is read as. -/
lemma readVars?_varsStatement (hs : s.Tokens)
    (hurls : ∀ url ∈ s.urls, '"' ∉ url.toList ∧ '\\' ∉ url.toList) :
    (Legible s → readVars? (name s.sequence) (varsStatement s) = some (vars s)) ∧
      (¬ Legible s → readVars? (name s.sequence) (varsStatement s) = none) := by
  have hprefix :
      ("VARS " ++ name s.sequence).toList.isPrefixOf (varsStatement s).toList = true := by
    rw [List.isPrefixOf_iff_prefix, toList_varsStatement]
    exact List.prefix_append _ _
  have hfuel : (vars s).length ≤ (varsStatement s).toList.length := by
    rw [toList_varsStatement, List.length_append]
    exact (length_le_length_listed _).trans (Nat.le_add_left _ _)
  have hread : readVars? (name s.sequence) (varsStatement s) =
      assignments? (varsStatement s).toList.length (listed (vars s)) := by
    rw [readVars?, if_pos hprefix, toList_varsStatement, List.drop_left]
  rw [hread, ← forall_conditions_iff]
  exact assignments?_listed (closes_vars hs hurls) hfuel

/-- **Reading variables.**  Let a request have a plan, and let its files have URLs without quotes
and backslashes.  The fifth statement about each job is read as the twelve variables, in their order
and with nothing left over, if and only if no quote stands in a run of its mask and neither its
block nor its last output ends in an odd number of backslashes; and then each variable has the value
that was written. -/
theorem readVars?_iff (c : Compiler) (r : Request) (p : Plan) (urls : ℕ → List String)
    (ctx : WorkerContext) (hplan : c.plan r = .ok p)
    (hurls : ∀ n, ∀ url ∈ urls n, '"' ∉ url.toList ∧ '\\' ∉ url.toList) :
    ∀ s ∈ p.placed urls,
      (statements ctx p.task s)[4]? = some (varsStatement s) ∧
      ((readVars? (name s.sequence) (varsStatement s)).map (·.map Prod.fst) =
          some ["count", "runAndLumiMask", "lheInputFiles", "firstEvent", "firstLumi", "lastEvent",
            "firstRun", "seeding", "inputFiles", "+CRAB_localOutputFiles", "+CRAB_DataBlock",
            "+CRAB_Destination"] ↔ Legible s) ∧
      (Legible s → readVars? (name s.sequence) (varsStatement s) = some (vars s)) := by
  intro s hs
  have htokens := Plan.tokens_of_mem_placed hplan s hs
  have hplaced : ∀ url ∈ s.urls, '"' ∉ url.toList ∧ '\\' ∉ url.toList := by
    obtain ⟨s, -, rfl⟩ := List.mem_map.1 hs
    exact hurls s.sequence
  obtain ⟨hread, hnone⟩ := readVars?_varsStatement htokens hplaced
  refine ⟨rfl, ⟨fun h => ?_, fun h => ?_⟩, hread⟩
  · by_contra hnot
    rw [hnone hnot] at h
    cases h
  · rw [hread h]
    rfl

/-- The variables of all jobs of the sample request are read back. -/
theorem readVars?_iff_sample :
    ∃ p, (Compiler.sample .external).plan .sample = .ok p ∧
      (p.placed fun _ => ["root://se/a", "root://se/b"]).length = 3 ∧
      ∀ s ∈ p.placed fun _ => ["root://se/a", "root://se/b"],
        readVars? (name s.sequence) (varsStatement s) = some (vars s) := by
  have hlegible : ((Compiler.sample .external).plan .sample).toOption.map
      (fun p => (p.placed fun _ => ["root://se/a", "root://se/b"]).map fun s =>
        decide (Legible s)) = some [true, true, true] := by decide +kernel
  obtain ⟨p, hp, hmap⟩ := exists_of_map_toOption hlegible
  refine ⟨p, hp, by simpa using congrArg List.length hmap, fun s hs => ?_⟩
  have hmem := List.mem_map_of_mem (f := fun s => decide (Legible s)) hs
  rw [hmap] at hmem
  have hread := readVars?_iff (Compiler.sample .external) .sample p
    (fun _ => ["root://se/a", "root://se/b"]) (.ofConfig .sample) hp (fun _ => by decide) s hs
  exact hread.2.2 (by simpa using hmem)

/-- The sample request with a block whose name ends in a backslash. -/
def backslashBlock : Request :=
  { Request.sample with groups := [(JobGroup.sample "#1\\" ["T2_US"]).addJob ["/f"]] }

/-- Its plan is made, but nothing can be read from the statement about the variables of its job. -/
theorem not_readVars?_backslashBlock :
    ∃ p s, (Compiler.sample .external).plan backslashBlock = .ok p ∧ s ∈ p.placed (fun _ => []) ∧
      readVars? (name s.sequence) (varsStatement s) = none := by
  have hillegible : ((Compiler.sample .external).plan backslashBlock).toOption.map
      (fun p => (p.placed fun _ => []).map fun s => decide (Legible s)) = some [false] := by
    decide +kernel
  obtain ⟨p, hp, hmap⟩ := exists_of_map_toOption hillegible
  obtain ⟨s, hs⟩ := List.exists_mem_of_length_pos
    (l := p.placed fun _ => []) (by rw [← List.length_map, hmap]; decide)
  have hmem := List.mem_map_of_mem (f := fun s => decide (Legible s)) hs
  rw [hmap, List.mem_singleton, decide_eq_false_iff_not] at hmem
  have hurls : ∀ url ∈ s.urls, '"' ∉ url.toList ∧ '\\' ∉ url.toList := by
    obtain ⟨s, -, rfl⟩ := List.mem_map.1 hs
    simp
  exact ⟨p, s, hp, hs, (readVars?_varsStatement (Plan.tokens_of_mem_placed hp s hs) hurls).2 hmem⟩

end JobGraph.Node
