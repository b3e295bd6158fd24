import JobGraph.Proofs.Artifact.Assignments
import JobGraph.Proofs.Text.Listing

/-!
# The list of URLs

The last variable of a job lists the URLs of its files, and nothing in them is written behind a
backslash.  A reader looks for the first place where the name of that variable stands with what
opens its value, and takes everything from there up to what closes the value at the end of the
statement.  It finds the right place, as the values of the other variables are framed: a quote in
them never follows an equals sign.  So it finds the list whatever the URLs are, by
`Node.listedUrls?_varsStatement`; but whether the list tells them apart, and stays between its
quotes and on its line, depends on each of them, by `Node.lists_iff`.
-/

namespace JobGraph.Node

variable {s : PlannedJob} {cs v w : List Char} {urls : List String}

/-! ### The reader -/

/-- The name of the variable that lists the URLs. -/
def urlsName : List Char := '+' :: "CRAB_Destination".toList

/-- What stands in front of the list. -/
def urlsStart : List Char := urlsName ++ ['=', '"', '\\', '"']

/-- What stands behind the list. -/
def urlsStop : List Char := ['\\', '"', '"']

/-- The list of URLs in a statement about variables, from the first place where it may begin to the
end of the statement. -/
def listedUrls? (line : String) : Option String :=
  (line.toList.dropInfix? urlsStart).bind fun found =>
    (found.2.dropSuffix? urlsStop).map String.ofList

/-- The text lists the URLs: it is on one line and without quotes, it is empty if there are none,
and otherwise they are read back from it. -/
structure Lists (text : String) (urls : List String) : Prop where
  quote : '"' ∉ text.toList
  lineFeed : '\n' ∉ text.toList
  empty : urls = [] → text = ""
  items : urls ≠ [] → Text.listItems text = urls

/-- The URL can stand in a list. -/
structure Listable (url : String) : Prop where
  quote : '"' ∉ url.toList
  lineFeed : '\n' ∉ url.toList
  separator : ¬ [',', ' '] <:+: url.toList

/-! ### Where the list begins -/

/-- A text that begins with another character is not found at this one. -/
lemma infix_of_infix_append {c : Char} (hc : c ∉ w) (h : c :: v <:+: w ++ cs) : c :: v <:+: cs := by
  induction w with
  | nil => exact h
  | cons d w ih =>
    rw [List.mem_cons, not_or] at hc
    rw [List.cons_append, List.infix_cons_iff, List.cons_prefix_cons] at h
    rcases h with ⟨rfl, -⟩ | h
    · exact absurd rfl hc.1
    · exact ih hc.2 h

/-- In a framed value and at its end, there is no quote in front of which stands what is neither a
quote nor a backslash, and behind which stands a backslash. -/
lemma Framed.not_prefix_append (hv : Framed v) (hquote : '"' ∉ w) (hslash : '\\' ∉ w) :
    ¬ w ++ ['"', '\\'] <+: v ++ '"' :: ' ' :: cs := by
  induction hv generalizing w with
  | nil =>
    intro h
    cases w with
    | nil => simp at h
    | cons d w =>
      rw [List.mem_cons, not_or] at hquote
      exact hquote.1 (List.cons_prefix_cons.1 h).1.symm
  | char hchar _ _ ih =>
    intro h
    cases w with
    | nil => exact hchar (List.cons_prefix_cons.1 h).1.symm
    | cons d w =>
      rw [List.mem_cons, not_or] at hquote hslash
      exact ih hquote.2 hslash.2 (List.cons_prefix_cons.1 h).2
  | quote _ ih =>
    intro h
    cases w with
    | nil => simp at h
    | cons d w =>
      rw [List.mem_cons, not_or] at hslash
      exact hslash.1 (List.cons_prefix_cons.1 h).1.symm

/-- So what ends in such a quote is not found before the end of the value. -/
lemma Framed.infix_of_infix {d : Char} (hv : Framed v) (hquote : '"' ∉ d :: w)
    (hslash : '\\' ∉ d :: w) (h : d :: w ++ ['"', '\\'] <:+: v ++ '"' :: ' ' :: cs) :
    d :: w ++ ['"', '\\'] <:+: ' ' :: cs := by
  have hhead : d ∉ ['"'] := by
    rw [List.mem_singleton]
    rintro rfl
    exact hquote List.mem_cons_self
  have hskip : ∀ {ds : List Char}, d :: w ++ ['"', '\\'] <:+: '"' :: ds →
      d :: w ++ ['"', '\\'] <:+: ds := fun h => infix_of_infix_append hhead h
  induction hv with
  | nil => exact hskip h
  | char hchar hline hv ih =>
    rcases List.infix_cons_iff.1 h with h | h
    · exact absurd h ((Framed.char hchar hline hv).not_prefix_append hquote hslash)
    · exact ih h
  | quote hv ih =>
    rcases List.infix_cons_iff.1 h with h | h
    · exact absurd h (hv.quote.not_prefix_append hquote hslash)
    · exact ih (hskip h)

/-- A name that does not end in another one has no place in it where the other one stands with an
equals sign. -/
lemma infix_of_infix_name {d : Char} {n ds : List Char} (hw : '=' ∉ d :: w) (hn : '=' ∉ n)
    (hend : ¬ d :: w <:+ n) (h : d :: w ++ '=' :: ds <:+: n ++ '=' :: cs) :
    d :: w ++ '=' :: ds <:+: cs := by
  induction n with
  | nil =>
    rw [List.mem_cons, not_or] at hw
    exact infix_of_infix_append (w := ['=']) (by simpa using Ne.symm hw.1) h
  | cons c n ih =>
    rcases List.infix_cons_iff.1 h with h | h
    · exact absurd (Text.eq_of_prefix_append hw hn h ▸ List.suffix_refl _) hend
    · exact ih (fun hmem => hn (List.mem_cons_of_mem c hmem))
        (fun hsuffix => hend (hsuffix.trans (List.suffix_cons c n))) h

/-- The beginning of the list is not found before the end of another variable. -/
lemma infix_of_infix_assignment {a : String × String} (hname : a.1 ∈ varNames.dropLast)
    (hvalue : Framed a.2.toList)
    (h : urlsName ++ ['=', '"', '\\'] <:+: (assignment a).toList ++ ' ' :: cs) :
    urlsName ++ ['=', '"', '\\'] <:+: ' ' :: cs := by
  have hnames : ∀ n ∈ varNames.dropLast, '=' ∉ n.toList ∧ ¬ urlsName <:+ n.toList := by decide
  obtain ⟨hequals, hend⟩ := hnames a.1 hname
  have htext : (assignment a).toList ++ ' ' :: cs =
      a.1.toList ++ '=' :: '"' :: (a.2.toList ++ '"' :: ' ' :: cs) := by
    simp [assignment]
  rw [htext] at h
  have hbehind := infix_of_infix_name (by decide) hequals hend h
  have hinside := infix_of_infix_append (w := ['"']) (by decide) hbehind
  exact hvalue.infix_of_infix (w := "CRAB_Destination".toList ++ ['=']) (by decide) (by decide)
    hinside

lemma not_infix_listed {as : List (String × String)}
    (h : ∀ a ∈ as, a.1 ∈ varNames.dropLast ∧ Framed a.2.toList) :
    ¬ urlsName ++ ['=', '"', '\\'] <:+: listed as ++ [' '] := by
  induction as with
  | nil => decide
  | cons a as ih =>
    rw [List.forall_mem_cons] at h
    intro hfound
    -- a blank stands behind every assignment
    obtain ⟨rest, hrest⟩ : ∃ rest, listed as ++ [' '] = ' ' :: rest := by
      cases as with
      | nil => exact ⟨[], rfl⟩
      | cons b bs => exact ⟨_, rfl⟩
    have htext : listed (a :: as) ++ [' '] = [' '] ++ ((assignment a).toList ++ ' ' :: rest) := by
      rw [← hrest]
      simp [listed]
    rw [htext] at hfound
    have hassignment := infix_of_infix_append (by decide) hfound
    have htail := infix_of_infix_assignment h.1.1 h.1.2 hassignment
    rw [← hrest] at htail
    exact ih h.2 htail

/-! ### Reading the list -/

/-- A text that begins in front of a character which it does not hold also ends in front of it. -/
lemma infix_of_append_eq {c : Char} {front back front' back' : List Char} (hc : c ∉ w)
    (h : front ++ c :: back = front' ++ (w ++ back')) (hshort : front'.length ≤ front.length) :
    w <:+: front := by
  obtain ⟨u, hfront, hrest⟩ : ∃ u, front = front' ++ u ∧ w ++ back' = u ++ c :: back := by
    rcases List.append_eq_append_iff.1 h with ⟨u, rfl, hu⟩ | ⟨u, rfl, hu⟩
    · have hnil : u = [] := by
        rw [List.length_append] at hshort
        exact List.length_eq_zero_iff.1 (by omega)
      subst hnil
      exact ⟨[], by simp, hu.symm⟩
    · exact ⟨u, rfl, hu⟩
  rw [hfront]
  rcases List.append_eq_append_iff.1 hrest with ⟨t, rfl, -⟩ | ⟨t, rfl, ht⟩
  · exact ⟨front', t, by simp⟩
  · cases t with
    | nil => exact ⟨front', [], by simp⟩
    | cons d t =>
      rw [List.cons_append] at ht
      exact absurd (by simp [(List.cons.inj ht).1]) hc

/-- So it is found behind such a character, if it is not found in front of it. -/
lemma dropInfix?_append {c : Char} {front back : List Char} (hc : c ∉ w) (hfront : ¬ w <:+: front) :
    (front ++ c :: (w ++ back)).dropInfix? w = some (front ++ [c], back) := by
  rw [List.dropInfix?_eq_some_iff]
  refine ⟨⟨w, by simp, by simp⟩, fun front' w' back' h hw' => ?_⟩
  rw [beq_iff_eq] at hw'
  subst hw'
  rw [List.append_assoc] at h
  by_contra hshort
  rw [List.length_append, List.length_singleton, ge_iff_le, Nat.not_le, Nat.lt_succ_iff] at hshort
  exact hfront (infix_of_append_eq hc h hshort)

/-- The list of URLs stands at the end of the statement about the variables of a job. -/
lemma toList_varsStatement_urls (s : PlannedJob) :
    (varsStatement s).toList =
      (("VARS " ++ name s.sequence).toList ++ listed (vars s).dropLast) ++
        ' ' :: (urlsStart ++ ((", ".intercalate s.urls).toList ++ urlsStop)) := by
  have hvars : listed (vars s) = listed (vars s).dropLast ++
      ' ' :: (assignment ("+CRAB_Destination", quotedValue (", ".intercalate s.urls))).toList := by
    conv_lhs => rw [vars_eq_append]
    simp [listed]
  have hlast : (assignment ("+CRAB_Destination", quotedValue (", ".intercalate s.urls))).toList =
      urlsStart ++ ((", ".intercalate s.urls).toList ++ urlsStop) := by
    simp [assignment, quotedValue, urlsStart, urlsStop, urlsName]
  rw [toList_varsStatement, hvars, hlast, List.append_assoc]

/-- The beginning of the list is not found in front of it. -/
lemma not_infix_front (hs : s.Tokens) :
    ¬ urlsStart <:+: ("VARS " ++ name s.sequence).toList ++ listed (vars s).dropLast := by
  intro h
  have hplus : '+' ∉ ("VARS " ++ name s.sequence).toList := by
    have happend : "VARS " ++ name s.sequence = "VARS " ++ ("Job" ++ toString s.sequence) := rfl
    rw [happend]
    simp [Text.not_mem_toDigits]
  have hvars : ∀ a ∈ (vars s).dropLast, a.1 ∈ varNames.dropLast ∧ Framed a.2.toList :=
    fun a ha => ⟨List.mem_map_of_mem (f := Prod.fst) ha, framed_of_mem_vars hs a ha⟩
  have hmark : urlsName ++ ['=', '"', '\\'] <:+: urlsStart := ⟨[], ['"'], rfl⟩
  have hlisted := infix_of_infix_append hplus (hmark.trans h)
  exact not_infix_listed hvars (hlisted.trans (List.infix_append_left))

/-- **Finding the list.**  The list of URLs is found in the statement about the variables of a job,
whatever the URLs are. -/
theorem listedUrls?_varsStatement (hs : s.Tokens) :
    listedUrls? (varsStatement s) = some (", ".intercalate s.urls) := by
  have hstop : ((", ".intercalate s.urls).toList ++ urlsStop).dropSuffix? urlsStop =
      some (", ".intercalate s.urls).toList :=
    List.dropSuffix?_eq_some_iff.2 ⟨urlsStop, rfl, by simp⟩
  rw [listedUrls?, toList_varsStatement_urls, dropInfix?_append (by decide) (not_infix_front hs),
    Option.bind_some, hstop, Option.map_some, String.ofList_toList]

/-! ### What can be listed -/

/-- A URL without quotes, line feeds and blanks can stand in a list. -/
lemma listable_of_not_mem {url : String} (hquote : '"' ∉ url.toList) (hline : '\n' ∉ url.toList)
    (hblank : ' ' ∉ url.toList) : Listable url :=
  ⟨hquote, hline, fun hsep => hblank (hsep.subset (by simp))⟩

/-- **Lists.**  A list of URLs can be read if and only if each of them can stand in a list. -/
theorem lists_iff : Lists (", ".intercalate urls) urls ↔ ∀ url ∈ urls, Listable url := by
  have hquote : '"' ∉ (", ".intercalate urls).toList ↔ ∀ url ∈ urls, '"' ∉ url.toList :=
    Text.not_mem_toList_intercalate (by decide)
  have hline : '\n' ∉ (", ".intercalate urls).toList ↔ ∀ url ∈ urls, '\n' ∉ url.toList :=
    Text.not_mem_toList_intercalate (by decide)
  constructor
  · intro h url hurl
    exact ⟨hquote.1 h.quote url hurl, hline.1 h.lineFeed url hurl,
      (Text.listItems_intercalate_iff (List.ne_nil_of_mem hurl)).1
        (h.items (List.ne_nil_of_mem hurl)) url hurl⟩
  · intro h
    exact
      { quote := hquote.2 fun url hurl => (h url hurl).quote
        lineFeed := hline.2 fun url hurl => (h url hurl).lineFeed
        empty := by
          rintro rfl
          rfl
        items := fun hne =>
          (Text.listItems_intercalate_iff hne).2 fun url hurl => (h url hurl).separator }

end JobGraph.Node
