import JobGraph.Proofs.Json.Layout
import JobGraph.Proofs.Json.Reading
import JobGraph.Proofs.Program.Fallible
import JobGraph.Proofs.Text.Cutting

/-!
# Documents are read back

A document is written as one text, and reading this text gives the document back, with the order of
its entries and with repeated keys: this is `Json.parse?_render`.  It needs three things of the
document, which `Document.Legible` puts together.  Its integers have to fit 64 bits, or they are
read as real numbers; it may not be nested too deeply, or it is read as unusable; and it may hold
neither real numbers, which are written by rules of their own, nor unusable parts, which have no
text.

Such a text is on one line, by `Json.lineFeed_not_mem_renderChars`.

The reader is bounded by an argument that falls with every call.  A part of the text needs no more
of it than twice its length, and so there is enough for the whole.
-/

namespace JobGraph

/-! ### What can be read back -/

mutual

/-- The document is read back from its text, where `depth` lists and tables may still be opened. -/
def Document.Legible : Document → ℕ → Prop
  | .null, _ => True
  | .bool _, _ => True
  | .int n, _ => -(Nat.pow 2 63 : Int) ≤ n ∧ n < (Nat.pow 2 64 : Int)
  | .real _, _ => False
  | .text _, _ => True
  | .list items, depth => 0 < depth ∧ Document.LegibleItems items (depth - 1)
  | .table entries, depth => 0 < depth ∧ Document.LegibleEntries entries (depth - 1)
  | .unusable, _ => False

/-- All items are read back. -/
def Document.LegibleItems : List Document → ℕ → Prop
  | [], _ => True
  | d :: ds, depth => d.Legible depth ∧ Document.LegibleItems ds depth

/-- The values of all entries are read back. -/
def Document.LegibleEntries : List (String × Document) → ℕ → Prop
  | [], _ => True
  | (_, d) :: es, depth => d.Legible depth ∧ Document.LegibleEntries es depth

end

lemma Document.legibleItems_iff {ds : List Document} {depth : ℕ} :
    Document.LegibleItems ds depth ↔ ∀ d ∈ ds, d.Legible depth := by
  induction ds with
  | nil => simp [Document.LegibleItems]
  | cons d ds ih => rw [Document.LegibleItems, ih, List.forall_mem_cons]

lemma Document.legibleEntries_iff {es : List (String × Document)} {depth : ℕ} :
    Document.LegibleEntries es depth ↔ ∀ e ∈ es, e.2.Legible depth := by
  induction es with
  | nil => simp [Document.LegibleEntries]
  | cons e es ih => rw [Document.LegibleEntries, ih, List.forall_mem_cons]

namespace Json

variable {fuel depth : ℕ} {rest : List Char}

/-- What may follow a value: nothing, or what ends an item, a list or a table. -/
def Follows (rest : List Char) : Prop :=
  ∀ c ∈ rest.head?, c = ',' ∨ c = ']' ∨ c = '\x7d'

lemma follows_nil : Follows [] := by
  simp [Follows]

lemma follows_cons {c : Char} (hc : c = ',' ∨ c = ']' ∨ c = '\x7d') : Follows (c :: rest) := by
  simpa [Follows] using hc

/-! ### Numbers -/

/-- No digits begin with a zero, but for those of zero. -/
lemma head?_toDigits {n : ℕ} (hn : 0 < n) : (Nat.toDigits 10 n).head? ≠ some '0' := by
  induction n using Nat.strongRecOn with
  | _ n ih =>
    rw [Nat.toDigits_eq_if (by omega)]
    split
    · next hlt =>
      intro h
      have hchar : ∀ m < 10, m.digitChar = '0' → m = 0 := by decide
      exact absurd (hchar n hlt (by simpa using h)) (by omega)
    · next hlt =>
      -- the first digit is that of a tenth of the number
      have hfirst := ih (n / 10) (by omega) (by omega)
      rw [List.head?_append]
      cases hdigits : (Nat.toDigits 10 (n / 10)).head? with
      | none => exact absurd (List.head?_eq_none_iff.1 hdigits) Nat.toDigits_ne_nil
      | some c =>
        rw [hdigits] at hfirst
        simpa using hfirst

/-- What follows a value is no part of a number. -/
lemma fraction?_of_follows (h : Follows rest) : fraction? rest = some (none, rest) := by
  cases rest with
  | nil => rfl
  | cons c rest =>
    rcases h c rfl with rfl | rfl | rfl <;> rfl

lemma exponent?_of_follows (h : Follows rest) : exponent? rest = some (none, rest) := by
  cases rest with
  | nil => rfl
  | cons c rest =>
    rcases h c rfl with rfl | rfl | rfl <;> rfl

lemma digits_of_follows (n : ℕ) (h : Follows rest) :
    digits (Nat.toDigits 10 n ++ rest) = (Nat.toDigits 10 n, rest) := by
  refine digits_append n fun c hc => ?_
  rcases h c hc with rfl | rfl | rfl <;> rfl

/-- The sign of a number. -/
def sign (negative : Bool) : List Char := if negative then ['-'] else []

/-- A number is read by its sign and its digits, if nothing follows that could belong to it. -/
lemma number?_append (negative : Bool) (n : ℕ) (hrest : Follows rest) :
    number? (sign negative ++ (Nat.toDigits 10 n ++ rest)) =
      some ((Numeral.mk negative (Nat.toDigits 10 n) none none).value, rest) := by
  have hzero : ∀ c cs, Nat.toDigits 10 n ≠ '0' :: c :: cs := by
    intro c cs h
    rcases Nat.eq_zero_or_pos n with rfl | hpos
    · simp [Nat.toDigits_zero] at h
    · exact head?_toDigits hpos (by rw [h]; rfl)
  have hsign : ∀ s, Nat.toDigits 10 n ++ rest ≠ '-' :: s := by
    intro s h
    have hdigits := digits_of_follows n hrest
    rw [h] at hdigits
    exact Nat.toDigits_ne_nil (congrArg Prod.fst hdigits).symm
  cases negative
  case' false =>
    rw [sign, if_neg (by decide), List.nil_append, number?]
    case x_1 => exact hsign
  case' true => rw [sign, if_pos rfl, List.singleton_append, number?]
  -- behind the sign, both kinds of numbers are read in the same way
  all_goals
    rw [digits_of_follows n hrest]
    split
    · next h => exact absurd (congrArg Prod.fst h) Nat.toDigits_ne_nil
    · next c cs s h => exact absurd (congrArg Prod.fst h) (hzero c cs)
    · next whole s _ _ h =>
      cases h
      simp [fraction?_of_follows hrest, exponent?_of_follows hrest]

lemma renderChars_int (n : Int) :
    renderChars (.int n) = sign (decide (n < 0)) ++ Nat.toDigits 10 n.natAbs := by
  cases n with
  | ofNat m =>
    have hsign : ¬ ((m : Int) < 0) := by omega
    simpa [sign, hsign] using renderChars_natCast m
  | negSucc m =>
    have htext : toString (Int.negSucc m) = "-" ++ toString (m + 1) := rfl
    rw [renderChars, htext, String.toList_append]
    simp [sign]

/-- An integer that fits 64 bits, with or without a sign, is the value of its digits. -/
lemma value_numeral {n : Int} (hlow : -(Nat.pow 2 63 : Int) ≤ n)
    (hhigh : n < (Nat.pow 2 64 : Int)) :
    (Numeral.mk (decide (n < 0)) (Nat.toDigits 10 n.natAbs) none none).value = .int n := by
  by_cases hneg : n < 0
  · have hsize : ¬ (n.natAbs = 0 ∨ Nat.pow 2 63 < n.natAbs) := by omega
    have hvalue : -(n.natAbs : Int) = n := by omega
    simp only [Numeral.value, Nat.ofDigitChars_ten_toDigits, decide_eq_true hneg, if_true,
      if_neg hsize, hvalue]
  · have hsize : ¬ maxSignificand < n.natAbs := by
      rw [maxSignificand]
      omega
    have hvalue : (n.natAbs : Int) = n := by omega
    simp only [Numeral.value, Nat.ofDigitChars_ten_toDigits, decide_eq_false hneg,
      Bool.false_eq_true, if_false, if_neg hsize, hvalue]

/-! ### How values begin -/

lemma skip_cons {c : Char} (hc : isSpace c = false) (cs : List Char) :
    skip (c :: cs) = c :: cs := by
  rw [skip, List.dropWhile_cons_of_neg (by simp [hc])]

/-- A number begins with a digit or a minus sign. -/
def IsFirst (c : Char) : Prop := c.isDigit = true ∨ c = '-'

lemma IsFirst.ne {c d : Char} (hc : IsFirst c) (hdigit : d.isDigit = false) (hminus : d ≠ '-') :
    c ≠ d := by
  rintro rfl
  rcases hc with hc | hc
  · rw [hdigit] at hc
    cases hc
  · exact hminus hc

lemma IsFirst.isSpace {c : Char} (hc : IsFirst c) : isSpace c = false := by
  simp [Json.isSpace, hc.ne (d := ' ') rfl (by decide), hc.ne (d := '\n') rfl (by decide),
    hc.ne (d := '\t') rfl (by decide), hc.ne (d := '\r') rfl (by decide)]

lemma exists_renderChars_int (n : Int) :
    ∃ c cs, renderChars (.int n) = c :: cs ∧ IsFirst c := by
  rw [renderChars_int]
  by_cases hneg : n < 0
  · exact ⟨'-', Nat.toDigits 10 n.natAbs, by simp [sign, hneg], Or.inr rfl⟩
  · obtain ⟨c, cs, hdigits⟩ :=
      List.exists_cons_of_ne_nil (Nat.toDigits_ne_nil (n := n.natAbs) (b := 10))
    have hmem : c ∈ Nat.toDigits 10 n.natAbs := by simp [hdigits]
    have hc : c.isDigit = true := Nat.isDigit_of_mem_toDigits (by decide) (by decide) hmem
    exact ⟨c, cs, by simp [sign, hneg, hdigits], Or.inl hc⟩

/-- What begins as a number does is read as one. -/
lemma value?_number {c : Char} (hc : IsFirst c) (cs : List Char) :
    value? (fuel + 1) depth (c :: cs) = number? (c :: cs) := by
  rw [value?, skip_cons hc.isSpace]
  simp [hc.ne (d := '"') rfl (by decide), hc.ne (d := '[') rfl (by decide),
    hc.ne (d := '\x7b') rfl (by decide), hc.ne (d := 't') rfl (by decide),
    hc.ne (d := 'f') rfl (by decide), hc.ne (d := 'n') rfl (by decide)]

/-- The text of a document begins neither with white space nor with a closing bracket. -/
lemma exists_renderChars {d : Document} (hd : d.Legible depth) :
    ∃ c cs, renderChars d = c :: cs ∧ isSpace c = false ∧ c ≠ ']' := by
  cases d with
  | null => exact ⟨'n', "ull".toList, rfl, rfl, by decide⟩
  | bool b =>
    cases b with
    | false => exact ⟨'f', "alse".toList, rfl, rfl, by decide⟩
    | true => exact ⟨'t', "rue".toList, rfl, rfl, by decide⟩
  | int n =>
    obtain ⟨c, cs, htext, hc⟩ := exists_renderChars_int n
    exact ⟨c, cs, htext, hc.isSpace, hc.ne rfl (by decide)⟩
  | real x => exact absurd hd (by simp [Document.Legible])
  | text s => exact ⟨'"', _, rfl, rfl, by decide⟩
  | list items => exact ⟨'[', _, rfl, rfl, by decide⟩
  | table entries => exact ⟨'\x7b', _, rfl, rfl, by decide⟩
  | unusable => exact absurd hd (by simp [Document.Legible])

lemma exists_fuel {d : Document} (hd : d.Legible depth)
    (hfuel : 2 * (renderChars d).length ≤ fuel) : ∃ n, fuel = n + 1 := by
  obtain ⟨c, cs, htext, -⟩ := exists_renderChars hd
  rw [htext, List.length_cons] at hfuel
  exact ⟨fuel - 1, by omega⟩

lemma exists_renderItems {d : Document} {ds : List Document}
    (hd : Document.LegibleItems (d :: ds) depth) :
    ∃ c cs, renderItems (d :: ds) = c :: cs ∧ isSpace c = false ∧ c ≠ ']' := by
  obtain ⟨c, cs, htext, hc⟩ := exists_renderChars hd.1
  cases ds with
  | nil => exact ⟨c, cs, htext, hc⟩
  | cons d' ds =>
    have hitems : renderItems (d :: d' :: ds) =
        renderChars d ++ ',' :: renderItems (d' :: ds) := rfl
    exact ⟨c, cs ++ ',' :: renderItems (d' :: ds), by simp [hitems, htext], hc⟩

lemma exists_renderEntries (e : String × Document) (es : List (String × Document)) :
    ∃ cs, renderEntries (e :: es) = '"' :: cs := by
  cases es with
  | nil => exact ⟨_, rfl⟩
  | cons e' es => exact ⟨_, rfl⟩

/-! ### Values -/

lemma renderText_append (s : String) (cs : List Char) :
    renderText s ++ cs = '"' :: (escape s.toList ++ '"' :: cs) := by
  simp [renderText]

/-- Entries whose keys are all usable make a table. -/
lemma table_map (es : List (String × Document)) :
    table (es.map fun e => (some e.1.toList, e.2)) = .table es := by
  have hkeys : (es.map fun e => (some e.1.toList, e.2)).mapM
      (fun e : Option (List Char) × Document => e.1.map fun cs => (String.ofList cs, e.2)) =
        some (es.map id) := mapM_map_eq_some fun e _ => by simp
  rw [table, hkeys, List.map_id]

mutual

/-- The text of a document in front of something that may follow it is read as the document. -/
theorem value?_renderChars : ∀ (d : Document) {fuel depth : ℕ} {rest : List Char},
    d.Legible depth → 2 * (renderChars d).length ≤ fuel → Follows rest →
      value? fuel depth (renderChars d ++ rest) = some (d, rest)
  | .null, fuel, depth, rest, hd, hfuel, _ => by
    obtain ⟨n, rfl⟩ := exists_fuel hd hfuel
    have htext : renderChars .null ++ rest = 'n' :: ("ull".toList ++ rest) := rfl
    rw [htext, value?, skip_cons rfl]
    simp [afterWord?]
  | .bool true, fuel, depth, rest, hd, hfuel, _ => by
    obtain ⟨n, rfl⟩ := exists_fuel hd hfuel
    have htext : renderChars (.bool true) ++ rest = 't' :: ("rue".toList ++ rest) := rfl
    rw [htext, value?, skip_cons rfl]
    simp [afterWord?]
  | .bool false, fuel, depth, rest, hd, hfuel, _ => by
    obtain ⟨n, rfl⟩ := exists_fuel hd hfuel
    have htext : renderChars (.bool false) ++ rest = 'f' :: ("alse".toList ++ rest) := rfl
    rw [htext, value?, skip_cons rfl]
    simp [afterWord?]
  | .int n, fuel, depth, rest, hd, hfuel, hrest => by
    obtain ⟨c, cs, htext, hc⟩ := exists_renderChars_int n
    obtain ⟨k, rfl⟩ := exists_fuel hd hfuel
    rw [htext, List.cons_append, value?_number hc, ← List.cons_append, ← htext, renderChars_int,
      List.append_assoc, number?_append _ _ hrest, value_numeral hd.1 hd.2]
  | .real x, fuel, depth, rest, hd, _, _ => absurd hd (by simp [Document.Legible])
  | .text s, fuel, depth, rest, hd, hfuel, _ => by
    obtain ⟨n, rfl⟩ := exists_fuel hd hfuel
    rw [renderChars, renderText_append, value?, skip_cons rfl]
    simp [stringBody?_escape]
  | .list [], fuel, depth, rest, hd, hfuel, _ => by
    obtain ⟨n, rfl⟩ := exists_fuel hd hfuel
    have htext : renderChars (.list []) ++ rest = '[' :: ']' :: rest := rfl
    have hdepth : ¬ depth = 0 := Nat.pos_iff_ne_zero.1 hd.1
    rw [htext, value?, skip_cons rfl]
    simp [skip_cons (c := ']') rfl, within, hdepth]
  | .list (d :: ds), fuel, depth, rest, hd, hfuel, _ => by
    obtain ⟨n, rfl⟩ := exists_fuel hd hfuel
    have htext : renderChars (.list (d :: ds)) = '[' :: (renderItems (d :: ds) ++ [']']) := rfl
    rw [htext, List.length_cons, List.length_append, List.length_singleton] at hfuel
    have hdepth : ¬ depth = 0 := Nat.pos_iff_ne_zero.1 hd.1
    have hitems : items? n (depth - 1) (renderItems (d :: ds) ++ ']' :: rest) =
        some (d :: ds, rest) := items?_renderItems (d :: ds) (by simp) hd.2 (by omega)
    -- the list is not taken for an empty one
    obtain ⟨c, cs, hfirst, hspace, hclose⟩ := exists_renderItems hd.2
    have hskip : skip (renderItems (d :: ds) ++ ']' :: rest) = c :: (cs ++ ']' :: rest) := by
      rw [hfirst, List.cons_append, skip_cons hspace]
    rw [htext, List.cons_append, List.append_assoc, List.singleton_append, value?, skip_cons rfl]
    simp [hskip, hclose, hitems, within, hdepth]
  | .table [], fuel, depth, rest, hd, hfuel, _ => by
    obtain ⟨n, rfl⟩ := exists_fuel hd hfuel
    have htext : renderChars (.table []) ++ rest = '\x7b' :: '\x7d' :: rest := rfl
    have hdepth : ¬ depth = 0 := Nat.pos_iff_ne_zero.1 hd.1
    rw [htext, value?, skip_cons rfl]
    simp [skip_cons (c := '\x7d') rfl, within, hdepth]
  | .table (e :: es), fuel, depth, rest, hd, hfuel, _ => by
    obtain ⟨n, rfl⟩ := exists_fuel hd hfuel
    have htext : renderChars (.table (e :: es)) =
        '\x7b' :: (renderEntries (e :: es) ++ ['\x7d']) := rfl
    rw [htext, List.length_cons, List.length_append, List.length_singleton] at hfuel
    have hdepth : ¬ depth = 0 := Nat.pos_iff_ne_zero.1 hd.1
    have hentries : entries? n (depth - 1) (renderEntries (e :: es) ++ '\x7d' :: rest) =
        some ((e :: es).map fun e => (some e.1.toList, e.2), rest) :=
      entries?_renderEntries (e :: es) (by simp) hd.2 (by omega)
    obtain ⟨cs, hfirst⟩ := exists_renderEntries e es
    have hskip : skip (renderEntries (e :: es) ++ '\x7d' :: rest) =
        '"' :: (cs ++ '\x7d' :: rest) := by
      rw [hfirst, List.cons_append, skip_cons rfl]
    rw [htext, List.cons_append, List.append_assoc, List.singleton_append, value?, skip_cons rfl]
    simpa [hskip, hentries, within, hdepth] using table_map (e :: es)
  | .unusable, fuel, depth, rest, hd, _, _ => absurd hd (by simp [Document.Legible])

theorem items?_renderItems : ∀ (ds : List Document) {fuel depth : ℕ} {rest : List Char},
    ds ≠ [] → Document.LegibleItems ds depth → 2 * (renderItems ds).length + 1 ≤ fuel →
      items? fuel depth (renderItems ds ++ ']' :: rest) = some (ds, rest)
  | [], _, _, _, h, _, _ => absurd rfl h
  | [d], fuel, depth, rest, _, hd, hfuel => by
    obtain ⟨n, rfl⟩ : ∃ n, fuel = n + 1 := ⟨fuel - 1, by omega⟩
    have htext : renderItems [d] = renderChars d := rfl
    rw [htext] at hfuel
    have hitem : value? n depth (renderChars d ++ ']' :: rest) = some (d, ']' :: rest) :=
      value?_renderChars d hd.1 (by omega) (follows_cons (by simp))
    rw [htext, items?, hitem]
    simp [skip_cons (c := ']') rfl]
  | d :: d' :: ds, fuel, depth, rest, _, hd, hfuel => by
    obtain ⟨n, rfl⟩ : ∃ n, fuel = n + 1 := ⟨fuel - 1, by omega⟩
    have htext : renderItems (d :: d' :: ds) = renderChars d ++ ',' :: renderItems (d' :: ds) :=
      rfl
    rw [htext, List.length_append, List.length_cons] at hfuel
    have hitem : value? n depth (renderChars d ++ ',' :: (renderItems (d' :: ds) ++ ']' :: rest)) =
        some (d, ',' :: (renderItems (d' :: ds) ++ ']' :: rest)) :=
      value?_renderChars d hd.1 (by omega) (follows_cons (by simp))
    have hitems : items? n depth (renderItems (d' :: ds) ++ ']' :: rest) = some (d' :: ds, rest) :=
      items?_renderItems (d' :: ds) (by simp) hd.2 (by omega)
    rw [htext, List.append_assoc, List.cons_append, items?, hitem]
    simp [skip_cons (c := ',') rfl, hitems]

theorem entries?_renderEntries : ∀ (es : List (String × Document)) {fuel depth : ℕ}
    {rest : List Char}, es ≠ [] → Document.LegibleEntries es depth →
      2 * (renderEntries es).length + 1 ≤ fuel →
        entries? fuel depth (renderEntries es ++ '\x7d' :: rest) =
          some (es.map fun e => (some e.1.toList, e.2), rest)
  | [], _, _, _, h, _, _ => absurd rfl h
  | [(k, d)], fuel, depth, rest, _, hd, hfuel => by
    obtain ⟨n, rfl⟩ : ∃ n, fuel = n + 1 := ⟨fuel - 1, by omega⟩
    have htext : renderEntries [(k, d)] = renderText k ++ ':' :: renderChars d := rfl
    rw [htext, List.length_append, List.length_cons] at hfuel
    have hvalue : value? n depth (renderChars d ++ '\x7d' :: rest) = some (d, '\x7d' :: rest) :=
      value?_renderChars d hd.1 (by omega) (follows_cons (by simp))
    rw [htext, List.append_assoc, renderText_append, entries?, skip_cons rfl]
    simp [stringBody?_escape, skip_cons (c := ':') rfl, skip_cons (c := '\x7d') rfl, hvalue]
  | (k, d) :: e :: es, fuel, depth, rest, _, hd, hfuel => by
    obtain ⟨n, rfl⟩ : ∃ n, fuel = n + 1 := ⟨fuel - 1, by omega⟩
    have htext : renderEntries ((k, d) :: e :: es) =
        renderText k ++ ':' :: (renderChars d ++ ',' :: renderEntries (e :: es)) := by
      simp [renderEntries]
    rw [htext, List.length_append, List.length_cons, List.length_append, List.length_cons] at hfuel
    have hvalue :
        value? n depth (renderChars d ++ ',' :: (renderEntries (e :: es) ++ '\x7d' :: rest)) =
          some (d, ',' :: (renderEntries (e :: es) ++ '\x7d' :: rest)) :=
      value?_renderChars d hd.1 (by omega) (follows_cons (by simp))
    have hentries : entries? n depth (renderEntries (e :: es) ++ '\x7d' :: rest) =
        some ((e :: es).map fun e => (some e.1.toList, e.2), rest) :=
      entries?_renderEntries (e :: es) (by simp) hd.2 (by omega)
    rw [htext, List.append_assoc, renderText_append, entries?, skip_cons rfl]
    simp [stringBody?_escape, skip_cons (c := ':') rfl, skip_cons (c := ',') rfl, hvalue, hentries]

end

/-- **Documents are read back.**  The text of a document whose integers fit 64 bits, which is not
nested too deeply and which holds no real numbers and no unusable parts is read as this document. -/
theorem parse?_render {d : Document} (hd : d.Legible maxDepth) : parse? (render d) = some d := by
  have hvalue : value? (2 * (renderChars d).length + 1) maxDepth (renderChars d ++ []) =
      some (d, []) := value?_renderChars d hd (by omega) follows_nil
  rw [List.append_nil] at hvalue
  rw [parse?, render, String.toList_ofList, hvalue]
  rfl

/-! ### One line -/

mutual

/-- The text of a document that is read back is on one line. -/
theorem lineFeed_not_mem_renderChars : ∀ (d : Document) {depth : ℕ},
    d.Legible depth → '\n' ∉ renderChars d
  | .null, _, _ => by decide
  | .bool true, _, _ => by decide
  | .bool false, _, _ => by decide
  | .int n, _, _ => by
    have hdigits : '\n' ∉ Nat.toDigits 10 n.natAbs := Text.not_mem_toDigits rfl _
    rw [renderChars_int, List.mem_append, not_or]
    refine ⟨?_, hdigits⟩
    rw [sign]
    split
    · decide
    · decide
  | .real x, _, hd => absurd hd (by simp [Document.Legible])
  | .text s, _, _ => lineFeed_not_mem_renderText s
  | .list items, _, hd => by
    have hitems := lineFeed_not_mem_renderItems items hd.2
    simpa [renderChars] using hitems
  | .table entries, _, hd => by
    have hentries := lineFeed_not_mem_renderEntries entries hd.2
    simpa [renderChars] using hentries
  | .unusable, _, hd => absurd hd (by simp [Document.Legible])

theorem lineFeed_not_mem_renderItems : ∀ (ds : List Document) {depth : ℕ},
    Document.LegibleItems ds depth → '\n' ∉ renderItems ds
  | [], _, _ => List.not_mem_nil
  | [d], _, hd => lineFeed_not_mem_renderChars d hd.1
  | d :: d' :: ds, _, hd => by
    have hfirst := lineFeed_not_mem_renderChars d hd.1
    have hothers := lineFeed_not_mem_renderItems (d' :: ds) hd.2
    rw [renderItems]
    · simp [hfirst, hothers]
    · exact List.cons_ne_nil d' ds

theorem lineFeed_not_mem_renderEntries : ∀ (es : List (String × Document)) {depth : ℕ},
    Document.LegibleEntries es depth → '\n' ∉ renderEntries es
  | [], _, _ => List.not_mem_nil
  | [(k, d)], _, hd => by
    have hvalue := lineFeed_not_mem_renderChars d hd.1
    simp [renderEntries, lineFeed_not_mem_renderText k, hvalue]
  | (k, d) :: e :: es, _, hd => by
    have hvalue := lineFeed_not_mem_renderChars d hd.1
    have hothers := lineFeed_not_mem_renderEntries (e :: es) hd.2
    rw [renderEntries]
    · simp [lineFeed_not_mem_renderText k, hvalue, hothers]
    · exact List.cons_ne_nil e es

end

/-- A quoted text is read as the text. -/
lemma parse?_quote (s : String) : parse? (quote s) = some (.text s) :=
  parse?_render (d := .text s) trivial

end Json

end JobGraph
