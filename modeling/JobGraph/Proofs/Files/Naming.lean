import JobGraph.Emission
import JobGraph.Proofs.Text.Cutting

/-!
# Names in directories

Joining a directory and a relative path adds the steps of the path, and a plain name is exactly one
step, whatever the spelling of the directory.  Hence names that differ lead to paths that differ, and
what is joined to a directory by a name lies directly in it.  Two paths are compared as lists of
components, and the order of paths agrees with that.

The main results are `Path.components_join_steps`, `Path.components_join` and, for the files of an
emission, `Emission.components_place` and `Emission.components_hiddenPath`.
-/

namespace JobGraph

/-! ### The order of paths -/

namespace Component

lemma rank_injective {a b : Component} (h : a.rank = b.rank) : a = b := by
  cases a <;> cases b <;> simp_all [rank]

lemma compare_eq_iff {a b : Component} : a.compare b = .eq ↔ a = b := by
  rw [compare, Ordering.then_eq_eq, Std.compare_eq_iff_eq, Std.compare_eq_iff_eq]
  constructor
  · rintro ⟨h₁, h₂⟩
    exact rank_injective (Prod.ext h₁ h₂)
  · rintro rfl
    exact ⟨rfl, rfl⟩

end Component

namespace Path

lemma compareComponents_eq_iff {a b : List Component} :
    compareComponents a b = .eq ↔ a = b := by
  induction a generalizing b with
  | nil => cases b <;> simp [compareComponents]
  | cons x a ih =>
    cases b with
    | nil => simp [compareComponents]
    | cons y b =>
      rw [compareComponents, Ordering.then_eq_eq, Component.compare_eq_iff, ih, List.cons.injEq]

lemma compare_eq_iff {p q : Path} : p.compare q = .eq ↔ p.components = q.components :=
  compareComponents_eq_iff

/-! ### Joining -/

/-- A name that is one step of a path. -/
structure IsName (n : String) : Prop where
  slash : '/' ∉ n.toList
  ne_nil : n.toList ≠ []
  ne_dot : n.toList ≠ ['.']
  ne_dots : n.toList ≠ ['.', '.']

lemma IsName.componentOf? {n : String} (h : IsName n) :
    componentOf? n.toList = some (.name n) := by
  rw [Path.componentOf?, if_neg (by simp [h.ne_nil, h.ne_dot]), if_neg h.ne_dots, String.ofList_toList]

lemma IsName.isAbsolute {n : String} (h : IsName n) : (⟨n⟩ : Path).isAbsolute = false := by
  rw [Path.isAbsolute]
  cases hn : n.toList with
  | nil => exact absurd hn h.ne_nil
  | cons c s =>
    have hc : c ≠ '/' := by
      rintro rfl
      exact h.slash (by simp [hn])
    simpa using hc

/-- A slash at the end does not matter. -/
lemma components_slash {t : List Char} (ht : t ≠ []) :
    (⟨String.ofList (t ++ ['/'])⟩ : Path).components = (⟨String.ofList t⟩ : Path).components := by
  have hpieces : Text.pieces '/' (t ++ ['/']) = Text.pieces '/' t ++ [[]] :=
    Text.pieces_append '/' t []
  have hhead : (Text.pieces '/' t ++ [[]]).head? = (Text.pieces '/' t).head? := by
    cases hp : Text.pieces '/' t with
    | nil => exact absurd hp (Text.pieces_ne_nil '/' t)
    | cons p ps => rfl
  have habs : (⟨String.ofList (t ++ ['/'])⟩ : Path).isAbsolute =
      (⟨String.ofList t⟩ : Path).isAbsolute := by
    cases t with
    | nil => exact absurd rfl ht
    | cons c t => simp [isAbsolute]
  rw [components, components, habs]
  simp only [String.toList_ofList, hpieces, hhead, List.filterMap_append]
  simp [componentOf?]

/-- The steps of a relative path: its components, if it does not begin with a single dot. -/
def steps (n : String) : List Component :=
  (Text.pieces '/' n.toList).filterMap componentOf?

lemma IsName.steps {n : String} (h : IsName n) : steps n = [.name n] := by
  rw [Path.steps, Text.pieces_eq_singleton h.slash, List.filterMap_cons, h.componentOf?,
    List.filterMap_nil]

/-- What stands behind a slash is taken as steps. -/
lemma components_append_slash (n : String) (t : List Char) :
    (⟨String.ofList (t ++ '/' :: n.toList)⟩ : Path).components =
      (⟨String.ofList (t ++ ['/'])⟩ : Path).components ++ steps n := by
  have hpieces : Text.pieces '/' (t ++ ['/']) = Text.pieces '/' t ++ [[]] :=
    Text.pieces_append '/' t []
  have hhead : ∀ last : List (List Char),
      (Text.pieces '/' t ++ last).head? = (Text.pieces '/' t).head? := by
    intro last
    cases hp : Text.pieces '/' t with
    | nil => exact absurd hp (Text.pieces_ne_nil '/' t)
    | cons p ps => rfl
  have habs : (⟨String.ofList (t ++ '/' :: n.toList)⟩ : Path).isAbsolute =
      (⟨String.ofList (t ++ ['/'])⟩ : Path).isAbsolute := by
    cases t <;> simp [isAbsolute]
  rw [components, components, habs, steps]
  simp only [String.toList_ofList, Text.pieces_append, hpieces, hhead, List.filterMap_append]
  split
  · simp [componentOf?]
  · split <;> simp [componentOf?]

lemma IsName.components {n : String} (h : IsName n) :
    (⟨n⟩ : Path).components = [.name n] := by
  rw [Path.components, h.isAbsolute, Text.pieces_eq_singleton h.slash]
  simp [h.componentOf?, h.ne_dot]

/-- **Joining.**  If a relative path does not begin with a single dot, then joining it to a directory
adds its steps to the components of the directory, whatever its spelling. -/
theorem components_join_steps {n : String} (habs : (⟨n⟩ : Path).isAbsolute = false)
    (hhead : (Text.pieces '/' n.toList).head? ≠ some ['.']) (dir : Path) :
    (dir.join ⟨n⟩).components = dir.components ++ steps n := by
  obtain ⟨text⟩ := dir
  rw [join, if_neg (by simp [habs])]
  by_cases hempty : text.toList = []
  · rw [if_pos (Or.inl hempty)]
    have htext : text = "" := String.toList_inj.1 hempty
    subst htext
    rw [String.empty_append, components, habs]
    simp only [Bool.false_eq_true, if_false, if_neg hhead]
    rfl
  by_cases hlast : text.toList.getLast? = some '/'
  · -- the slash between the two is there already
    rw [if_pos (Or.inr hlast)]
    obtain ⟨front, hfront⟩ := List.getLast?_eq_some_iff.1 hlast
    have htext : text = String.ofList (front ++ ['/']) := by rw [← hfront, String.ofList_toList]
    have hjoin : text ++ n = String.ofList (front ++ '/' :: n.toList) := by
      rw [← String.toList_inj, String.toList_append, hfront, String.toList_ofList]
      simp
    rw [hjoin, components_append_slash, htext]
  · rw [if_neg (by simp [hempty, hlast])]
    have hjoin : text ++ "/" ++ n = String.ofList (text.toList ++ '/' :: n.toList) := by
      rw [← String.toList_inj, String.toList_append, String.toList_append, String.toList_ofList]
      simp
    rw [hjoin, components_append_slash, components_slash hempty, String.ofList_toList]

/-- **Joining a name.**  The path to a name in a directory has the components of the directory and
then that name. -/
theorem components_join {n : String} (hn : IsName n) (dir : Path) :
    (dir.join ⟨n⟩).components = dir.components ++ [.name n] := by
  have hhead : (Text.pieces '/' n.toList).head? ≠ some ['.'] := by
    rw [Text.pieces_eq_singleton hn.slash]
    simpa using hn.ne_dot
  rw [components_join_steps hn.isAbsolute hhead, hn.steps]

lemma name_inj {dir : List Component} {m n : String}
    (h : dir ++ [Component.name m] = dir ++ [.name n]) : m = n :=
  Component.name.inj (List.singleton_inj.1 (List.append_cancel_left h))

/-- What is joined to a directory lies directly in it. -/
lemma isIn_join {n : String} (hn : IsName n) (dir : Path) : (dir.join ⟨n⟩).isIn dir = true := by
  rw [isIn, parent?, components_join hn]
  simp

end Path

/-! ### The files of an emission -/

namespace Emission

/-- The token of a call: the number of the process, and that of the call in it. -/
def token (process call : Nat) : String :=
  s!"{process}.{call}"

lemma slash_not_mem_token (process call : Nat) : '/' ∉ (token process call).toList := by
  have h : token process call = toString process ++ "." ++ toString call := rfl
  rw [h, String.toList_append, String.toList_append]
  have hdigits := Text.not_mem_toDigits (c := '/') (by decide)
  simp [hdigits]

/-- The name of the staging file of an artifact. -/
def hiddenName (token name : String) : String :=
  s!".{name}.{token}.tmp"

lemma toList_hiddenName (token name : String) :
    (hiddenName token name).toList =
      '.' :: (name.toList ++ '.' :: (token.toList ++ ['.', 't', 'm', 'p'])) := by
  have h : hiddenName token name = "." ++ name ++ "." ++ token ++ ".tmp" := rfl
  rw [h]
  simp

lemma isName_hiddenName {token name : String} (ht : '/' ∉ token.toList)
    (hn : '/' ∉ name.toList) : Path.IsName (hiddenName token name) := by
  have hlen : 6 ≤ (hiddenName token name).toList.length := by
    rw [toList_hiddenName]
    simp only [List.length_cons, List.length_append, List.length_nil]
    omega
  refine ⟨?_, ?_, ?_, ?_⟩
  · rw [toList_hiddenName]
    simp [ht, hn]
  all_goals
    intro h
    rw [h] at hlen
    simp at hlen

lemma hiddenName_injective {token name name' : String}
    (h : hiddenName token name = hiddenName token name') : name = name' := by
  have hlist := congrArg String.toList h
  rw [toList_hiddenName, toList_hiddenName, List.cons.injEq] at hlist
  exact String.toList_inj.1 (List.append_cancel_right hlist.2)

/-- The name of a staging file tells the call and the artifact, whatever their names are: a number
holds no dot, so the last two dots before the ending are those of the token. -/
lemma hiddenName_token_inj {process call process' call' : Nat} {name name' : String}
    (h : hiddenName (token process call) name = hiddenName (token process' call') name') :
    (process, call) = (process', call') ∧ name = name' := by
  have htoken : ∀ m n, (token m n).toList = Nat.toDigits 10 m ++ '.' :: Nat.toDigits 10 n := by
    intro m n
    have hparts : token m n = toString m ++ "." ++ toString n := rfl
    rw [hparts]
    simp
  have hdot : ∀ n : Nat, '.' ∉ Nat.toDigits 10 n := Text.not_mem_toDigits (by decide)
  have hlist := congrArg String.toList h
  rw [toList_hiddenName, toList_hiddenName, htoken, htoken, List.cons.injEq] at hlist
  have hends : (name.toList ++ '.' :: Nat.toDigits 10 process) ++ '.' :: Nat.toDigits 10 call =
      (name'.toList ++ '.' :: Nat.toDigits 10 process') ++ '.' :: Nat.toDigits 10 call' := by
    refine (List.append_left_inj ['.', 't', 'm', 'p']).1 ?_
    simpa using hlist.2
  obtain ⟨hfront, hcall⟩ := Text.append_sep_inj (hdot call) (hdot call') hends
  obtain ⟨hname, hprocess⟩ := Text.append_sep_inj (hdot process) (hdot process') hfront
  exact ⟨Prod.ext (Text.toDigits_inj hprocess) (Text.toDigits_inj hcall), String.toList_inj.1 hname⟩

/-- A staging file is hidden, so no file that is not is in its place. -/
lemma hiddenName_ne {token name name' : String} (h : name'.toList.head? ≠ some '.') :
    hiddenName token name ≠ name' := by
  rintro rfl
  rw [toList_hiddenName] at h
  exact h rfl

lemma components_place {name : String} (hn : Path.IsName name) (dir : Path) :
    (place dir name).components = dir.components ++ [.name name] :=
  Path.components_join hn dir

lemma components_hiddenPath {token name : String} (ht : '/' ∉ token.toList)
    (hn : '/' ∉ name.toList) (dir : Path) :
    (hiddenPath dir token name).components = dir.components ++ [.name (hiddenName token name)] :=
  Path.components_join (isName_hiddenName ht hn) dir

lemma isIn_place {name : String} (hn : Path.IsName name) (dir : Path) :
    (place dir name).isIn dir = true :=
  Path.isIn_join hn dir

lemma isIn_hiddenPath {token name : String} (ht : '/' ∉ token.toList) (hn : '/' ∉ name.toList)
    (dir : Path) : (hiddenPath dir token name).isIn dir = true :=
  Path.isIn_join (isName_hiddenName ht hn) dir

/-- Artifacts whose names can stand side by side in a directory, and beside staging files. -/
structure Orderly (artifacts : List Artifact) : Prop where
  isName : ∀ a ∈ artifacts, Path.IsName a.name
  visible : ∀ a ∈ artifacts, a.name.toList.head? ≠ some '.'
  nodup : (artifacts.map (·.name)).Nodup

end Emission

end JobGraph
