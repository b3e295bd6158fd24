import JobGraph.LogicalPath
import JobGraph.Proofs.Text.Cutting

/-!
# Joining logical paths

Joining drops the slashes at the ends of the parts and the parts that hold nothing else.  What is
left of the parts are the steps of the path, and the path is a slash followed by its steps with
slashes between them.  So a path that has been joined can be joined further as if its parts had been
given one by one, and the pieces of a path are those of its steps.

The main results are `LogicalPath.join_join`, `LogicalPath.pieces_join` and
`LogicalPath.split_eq_of_join_eq`: below the same directory, paths tell their pieces apart.
-/

namespace JobGraph.LogicalPath

/-- The part stays as it is when paths are joined: it is not empty, and no slash is at its ends. -/
structure Bare (part : List Char) : Prop where
  ne_nil : part ≠ []
  head : ∀ c ∈ part.head?, (c == '/') = false
  last : ∀ c ∈ part.getLast?, (c == '/') = false

/-- What joining keeps of the parts. -/
def steps (parts : List String) : List (List Char) :=
  (parts.map fun part => Text.trimBy (· == '/') part.toList).filter fun step => !step.isEmpty

/-! ### Steps -/

lemma Bare.of_slash_not_mem {part : List Char} (hne : part ≠ []) (h : '/' ∉ part) : Bare part := by
  have hchar : ∀ c ∈ part, (c == '/') = false := by
    intro c hc
    rw [beq_eq_false_iff_ne]
    rintro rfl
    exact h hc
  exact ⟨hne, fun c hc => hchar c (List.mem_of_mem_head? hc),
    fun c hc => hchar c (List.mem_of_mem_getLast? hc)⟩

lemma Bare.trimBy_eq {part : List Char} (h : Bare part) : Text.trimBy (· == '/') part = part :=
  Text.trimBy_eq_self h.head h.last

lemma bare_of_mem_steps {parts : List String} {step : List Char} (h : step ∈ steps parts) :
    Bare step := by
  rw [steps, List.mem_filter, List.mem_map] at h
  obtain ⟨⟨part, -, rfl⟩, hne⟩ := h
  exact ⟨by simpa using hne, Text.head?_trimBy, Text.getLast?_trimBy⟩

lemma steps_append (xs ys : List String) : steps (xs ++ ys) = steps xs ++ steps ys := by
  rw [steps, List.map_append, List.filter_append, steps, steps]

lemma steps_cons_ne_nil {root : String} (h : steps [root] ≠ []) (parts : List String) :
    steps (root :: parts) ≠ [] := by
  rw [← List.singleton_append, steps_append]
  exact List.append_ne_nil_of_left_ne_nil h _

/-- Bare parts are the steps of a path. -/
lemma steps_eq_map {parts : List String} (h : ∀ part ∈ parts, Bare part.toList) :
    steps parts = parts.map String.toList := by
  have hmap : (parts.map fun part => Text.trimBy (· == '/') part.toList) =
      parts.map String.toList := List.map_congr_left fun part hpart => (h part hpart).trimBy_eq
  rw [steps, hmap, List.filter_eq_self]
  intro step hstep
  obtain ⟨part, hpart, rfl⟩ := List.mem_map.1 hstep
  simpa using (h part hpart).ne_nil

lemma steps_singleton {part : String} (h : Bare part.toList) : steps [part] = [part.toList] :=
  steps_eq_map (by simpa using h)

/-- A path is a slash and its steps with slashes between them. -/
lemma toList_join (parts : List String) :
    (join parts).toList = '/' :: Text.join '/' (steps parts) := by
  have hsteps : (((parts.map bare).filter fun part => !part.isEmpty).map String.toList) =
      steps parts := by
    induction parts with
    | nil => rfl
    | cons part parts ih =>
      have hbare : (bare part).toList = Text.trimBy (· == '/') part.toList := by
        rw [bare, String.toList_ofList]
      have hempty : (bare part).isEmpty = (Text.trimBy (· == '/') part.toList).isEmpty := by
        rw [← hbare, Bool.eq_iff_iff, String.isEmpty_iff, List.isEmpty_iff, ← String.toList_inj]
        rfl
      rw [steps, List.map_cons, List.filter_cons, List.map_cons, List.filter_cons, hempty, ← steps,
        ← ih]
      split
      · rw [List.map_cons, hbare]
      · rfl
  rw [join, String.toList_append, String.toList_intercalate, hsteps]
  exact congrArg (List.cons '/') (Text.intercalate_eq_join '/' _)

lemma join_singleton {part : String} (h : Bare part.toList) : join [part] = "/" ++ part := by
  rw [← String.toList_inj, toList_join, steps_singleton h, String.toList_append]
  rfl

/-! ### Joining what has been joined -/

/-- Bare steps with slashes between them are bare as a whole. -/
lemma bare_join {ps : List (List Char)} (hne : ps ≠ []) (h : ∀ p ∈ ps, Bare p) :
    Bare (Text.join '/' ps) := by
  induction ps with
  | nil => exact absurd rfl hne
  | cons p ps ih =>
    rw [List.forall_mem_cons] at h
    cases ps with
    | nil => exact h.1
    | cons q qs =>
      have hrest := ih (List.cons_ne_nil q qs) h.2
      obtain ⟨c, s, hp⟩ := List.exists_cons_of_ne_nil h.1.ne_nil
      -- the whole begins as its first part does, and ends as the joined others do
      refine ⟨?_, ?_, ?_⟩
      · rw [Text.join_cons_cons, hp]
        simp
      · intro d hd
        refine h.1.head d ?_
        rw [Text.join_cons_cons, hp] at hd
        rw [hp]
        exact hd
      · intro d hd
        refine hrest.last d ?_
        rw [Text.join_cons_cons, List.getLast?_append, List.getLast?_cons] at hd
        obtain ⟨e, he⟩ := Option.isSome_iff_exists.1
          (List.getLast?_isSome.2 hrest.ne_nil)
        rw [he] at hd ⊢
        exact hd

/-- A joined path is one step, unless it has none. -/
lemma steps_join (parts : List String) :
    steps [join parts] = if steps parts = [] then [] else [Text.join '/' (steps parts)] := by
  rw [steps, List.map_singleton, toList_join, Text.trimBy_cons (by simp)]
  split
  · next h =>
    rw [h]
    rfl
  · next h =>
    have hbare : Bare (Text.join '/' (steps parts)) :=
      bare_join h fun _ hstep => bare_of_mem_steps hstep
    rw [hbare.trimBy_eq, List.filter_cons_of_pos (by simpa using hbare.ne_nil)]
    rfl

/-- A joined path stands for its parts wherever it is a part itself. -/
lemma join_append_join (xs ys zs : List String) :
    join (xs ++ join ys :: zs) = join (xs ++ ys ++ zs) := by
  have hcons : join ys :: zs = [join ys] ++ zs := rfl
  rw [← String.toList_inj, toList_join, toList_join, hcons, steps_append, steps_append, steps_append,
    steps_append, steps_join]
  split
  · next h => rw [h, List.nil_append, List.append_nil]
  · next h => rw [List.singleton_append, Text.join_append_join h]

/-- **Joining further.**  A joined path in front stands for its parts. -/
theorem join_join (xs ys : List String) : join (join xs :: ys) = join (xs ++ ys) :=
  join_append_join [] xs ys

/-- Parts of which some are kept are joined as those before them and those behind them. -/
lemma join_append {xs ys : List String} (hx : steps xs ≠ []) (hy : steps ys ≠ []) :
    join (xs ++ ys) = join xs ++ join ys := by
  rw [← String.toList_inj, String.toList_append, toList_join, toList_join, toList_join,
    steps_append, Text.join_append hx hy, List.cons_append]

/-- Nothing is kept of parts that hold nothing but slashes. -/
lemma steps_eq_nil_iff {parts : List String} :
    steps parts = [] ↔ ∀ part ∈ parts, ∀ c ∈ part.toList, c = '/' := by
  simp only [steps, List.filter_eq_nil_iff, List.forall_mem_map, Bool.not_eq_true', Bool.not_eq_false,
    List.isEmpty_iff, Text.trimBy_eq_nil_iff, beq_iff_eq]

/-- A path is the bare slash if its parts hold nothing else. -/
lemma join_eq_slash_iff {parts : List String} :
    join parts = "/" ↔ ∀ part ∈ parts, ∀ c ∈ part.toList, c = '/' := by
  rw [← steps_eq_nil_iff, ← String.toList_inj, toList_join]
  constructor
  · intro h
    by_contra hne
    have hnil : Text.join '/' (steps parts) = [] := (List.cons.inj h).2
    exact (bare_join hne fun _ hstep => bare_of_mem_steps hstep).ne_nil hnil
  · intro h
    rw [h]
    rfl

/-- A path that has steps does not end in a slash. -/
lemma getLast?_join_ne {parts : List String} (h : steps parts ≠ []) :
    (join parts).toList.getLast? ≠ some '/' := by
  have hbare := bare_join h fun _ hstep => bare_of_mem_steps hstep
  intro hlast
  rw [toList_join, List.getLast?_cons] at hlast
  obtain ⟨c, hc⟩ := Option.isSome_iff_exists.1 (List.getLast?_isSome.2 hbare.ne_nil)
  rw [hc, Option.getD_some, Option.some.injEq] at hlast
  simpa [hlast] using hbare.last c hc

/-- **Joining is associative.**  A joined path stands for its parts wherever it is a part itself,
and it stays as it is when it is joined alone.  Every joined path begins with a slash; it ends in
one if it is the bare slash only, that is, if its parts hold nothing but slashes. -/
theorem joining_associative (xs ys zs : List String) :
    join (xs ++ join ys :: zs) = join (xs ++ ys ++ zs) ∧
      join [join ys] = join ys ∧
      (join ys).toList.head? = some '/' ∧
      ((join ys).toList.getLast? = some '/' ↔ join ys = "/") ∧
      (join ys = "/" ↔ ∀ part ∈ ys, ∀ c ∈ part.toList, c = '/') := by
  have halone : join [join ys] = join ys := by
    have h := join_join ys []
    rwa [List.append_nil] at h
  have hhead : (join ys).toList.head? = some '/' := by
    rw [toList_join, List.head?_cons]
  have hlast : (join ys).toList.getLast? = some '/' ↔ join ys = "/" := by
    constructor
    · intro h
      by_contra hne
      exact getLast?_join_ne (fun hsteps => hne (join_eq_slash_iff.2 (steps_eq_nil_iff.1 hsteps))) h
    · intro h
      rw [h]
      rfl
  exact ⟨join_append_join xs ys zs, halone, hhead, hlast, join_eq_slash_iff⟩

/-! ### Pieces -/

/-- The pieces of a path that has steps: an empty one in front of the slash, and those of all
steps. -/
lemma pieces_join {parts : List String} (h : steps parts ≠ []) :
    Text.pieces '/' (join parts).toList = [] :: (steps parts).flatMap (Text.pieces '/') := by
  have hcons : Text.pieces '/' ('/' :: Text.join '/' (steps parts)) =
      [] :: Text.pieces '/' (Text.join '/' (steps parts)) := by
    rw [Text.pieces, if_pos rfl]
  rw [toList_join, hcons, Text.pieces_join h]

/-- **Paths below a directory.**  If bare parts lead to the same path below a directory, they have
the same pieces. -/
theorem split_eq_of_join_eq {dir : String} {xs ys : List String}
    (hxs : ∀ x ∈ xs, Bare x.toList) (hys : ∀ y ∈ ys, Bare y.toList) (hx : xs ≠ []) (hy : ys ≠ [])
    (h : join (dir :: xs) = join (dir :: ys)) :
    xs.flatMap (Text.split '/') = ys.flatMap (Text.split '/') := by
  -- the pieces of the directory come first on both sides
  have hpieces : ∀ zs : List String, (∀ z ∈ zs, Bare z.toList) → zs ≠ [] →
      Text.split '/' (join (dir :: zs)) =
        "" :: ((steps [dir]).flatMap fun step => (Text.pieces '/' step).map String.ofList) ++
          zs.flatMap (Text.split '/') := by
    intro zs hzs hz
    have hsteps : steps (dir :: zs) = steps [dir] ++ zs.map String.toList := by
      rw [← List.singleton_append, steps_append, steps_eq_map hzs]
    have hne : steps (dir :: zs) ≠ [] := by
      rw [hsteps]
      simp [hz]
    rw [Text.split, pieces_join hne, hsteps, List.flatMap_append, List.map_cons, List.map_append,
      List.map_flatMap, List.flatMap_map, List.map_flatMap]
    rfl
  have hsplit := congrArg (Text.split '/') h
  rw [hpieces xs hxs hx, hpieces ys hys hy] at hsplit
  exact List.append_cancel_left hsplit

end JobGraph.LogicalPath
