import Mathlib.Data.List.ReduceOption
import JobGraph.Proofs.LogicalPath.Homes

/-!
# Name spaces of submitters

Submitters are told apart by their names, groups and roles, and what is hashed for the name space of
a submitter are these, with commas between them.  A group or a role that is missing leaves no trace,
and a comma inside of a name, a group or a role is like the commas between them.  So the texts of
two submitters agree if and only if the same is told between all commas; and submitters without
commas who are not the same share a text only if the one has no role, the other no group, and the
group of the one is called as the role of the other.

The main result is `LogicalPath.identityText_eq_iff`; submitters who share a directory are in
`LogicalPath.not_identityText_inj`.
-/

namespace JobGraph

namespace LogicalPath

/-- What is told of a submitter: the name, and the group and the role if there are any. -/
def told (i : Identity) : List String :=
  i.dn :: [i.group, i.role].reduceOption

/-- What is told of a submitter between commas. -/
def toldPieces (i : Identity) : List String :=
  (told i).flatMap (Text.split ',')

/-- The submitters have the same name, group and role. -/
def SameSubmitter (i j : Identity) : Prop :=
  i.dn = j.dn ∧ i.group = j.group ∧ i.role = j.role

instance (i j : Identity) : Decidable (SameSubmitter i j) :=
  inferInstanceAs (Decidable (_ ∧ _))

/-- The submitters have the same name, and what is the group of the one is the role of the other,
where at most one of the two is there. -/
def Swapped (i j : Identity) : Prop :=
  i.dn = j.dn ∧ (i.group = none ∨ i.role = none) ∧ i.group = j.role ∧ i.role = j.group

/-- The name space of a submitter by a hash; the one in use is by BLAKE3. -/
def userSpaceBy (hash : ByteArray → String) (i : Identity) : String :=
  hash (identityText i).toUTF8

/-- The hash tells the texts of the two submitters apart. -/
def Separates (hash : ByteArray → String) (i j : Identity) : Prop :=
  userSpaceBy hash i = userSpaceBy hash j → (identityText i).toUTF8 = (identityText j).toUTF8

lemma userSpaceBy_hash (i : Identity) : userSpaceBy Blake3.hash i = userSpace i := rfl

variable {i j : Identity}

/-! ### Texts of submitters -/

lemma toList_identityText (i : Identity) :
    (identityText i).toList = Text.join ',' ((told i).map String.toList) := by
  rw [identityText, told, String.toList_append, String.toList_join]
  cases i.group <;> cases i.role <;> simp [Text.join, List.reduceOption]

/-- The text of a submitter comes apart into what is told between commas. -/
lemma split_identityText (i : Identity) : Text.split ',' (identityText i) = toldPieces i := by
  rw [Text.split, toList_identityText, Text.pieces_join (by simp [told]), List.flatMap_map,
    List.map_flatMap]
  rfl

lemma utf8_identityText_eq_iff :
    (identityText i).toUTF8 = (identityText j).toUTF8 ↔ toldPieces i = toldPieces j := by
  rw [String.toUTF8, String.toUTF8, String.toByteArray_inj, ← split_identityText,
    ← split_identityText]
  exact (Text.split_injective ',').eq_iff.symm

/-- The text tells the name, the group and the role if it is known which of the last two are there,
and these hold no comma. -/
lemma sameSubmitter_of_isSome_eq (hgroup : i.group.isSome = j.group.isSome)
    (hrole : i.role.isSome = j.role.isSome)
    (hi : ∀ part ∈ [i.group, i.role].reduceOption, ',' ∉ part.toList)
    (hj : ∀ part ∈ [j.group, j.role].reduceOption, ',' ∉ part.toList)
    (h : toldPieces i = toldPieces j) : SameSubmitter i j := by
  rw [toldPieces, toldPieces, told, told, List.flatMap_cons, List.flatMap_cons,
    Text.flatMap_split_eq_self hi, Text.flatMap_split_eq_self hj] at h
  have hlength : [i.group, i.role].reduceOption.length = [j.group, j.role].reduceOption.length := by
    rw [List.reduceOption_length_eq, List.reduceOption_length_eq, ← List.countP_eq_length_filter,
      ← List.countP_eq_length_filter]
    simp only [List.countP_cons, List.countP_nil, hgroup, hrole]
  obtain ⟨hdn, hrest⟩ := List.append_inj' h hlength
  refine ⟨Text.split_injective ',' hdn, ?_⟩
  revert hgroup hrole hrest
  cases i.group <;> cases i.role <;> cases j.group <;> cases j.role <;> simp [List.reduceOption]

/-- What is told is the same of the same submitter, and if a group is there for a role. -/
lemma told_eq_iff : told i = told j ↔ SameSubmitter i j ∨ Swapped i j := by
  rw [told, told, SameSubmitter, Swapped, List.cons.injEq, ← and_or_left]
  refine and_congr_right fun _ => ?_
  cases i.group <;> cases i.role <;> cases j.group <;> cases j.role <;> simp [List.reduceOption]

/-- **Name spaces of submitters.**  For any two submitters, what is hashed for their name spaces is
the same if and only if the same is told of them between commas, and the same holds for their name
spaces by every hash that tells the two texts apart.  If no comma is in what is told, this is so if
and only if the submitters have the same name, group and role, or have the same name and what is the
group of the one, who has no role, is the role of the other, who has no group.  If both have a group
or neither, and both have a role or neither, and these hold no comma, then they are the same. -/
theorem identityText_eq_iff (i j : Identity) :
    ((identityText i).toUTF8 = (identityText j).toUTF8 ↔ toldPieces i = toldPieces j) ∧
    (∀ hash, Separates hash i j →
      (userSpaceBy hash i = userSpaceBy hash j ↔ toldPieces i = toldPieces j)) ∧
    ((∀ part ∈ told i ++ told j, ',' ∉ part.toList) →
      ((identityText i).toUTF8 = (identityText j).toUTF8 ↔ SameSubmitter i j ∨ Swapped i j)) ∧
    (i.group.isSome = j.group.isSome → i.role.isSome = j.role.isSome →
      (∀ part ∈ [i.group, i.role, j.group, j.role].reduceOption, ',' ∉ part.toList) →
      ((identityText i).toUTF8 = (identityText j).toUTF8 ↔ SameSubmitter i j)) := by
  refine ⟨utf8_identityText_eq_iff, fun hash hhash => ?_, fun hcomma => ?_,
    fun hgroup hrole hcomma => ?_⟩
  · rw [← utf8_identityText_eq_iff]
    exact ⟨hhash, congrArg hash⟩
  · rw [List.forall_mem_append] at hcomma
    rw [utf8_identityText_eq_iff, toldPieces, toldPieces, Text.flatMap_split_eq_self hcomma.1,
      Text.flatMap_split_eq_self hcomma.2, told_eq_iff]
  · have hsplit : [i.group, i.role, j.group, j.role].reduceOption =
        [i.group, i.role].reduceOption ++ [j.group, j.role].reduceOption :=
      List.reduceOption_append [i.group, i.role] [j.group, j.role]
    rw [hsplit, List.forall_mem_append] at hcomma
    rw [utf8_identityText_eq_iff]
    refine ⟨sameSubmitter_of_isSome_eq hgroup hrole hcomma.1 hcomma.2, fun hsame => ?_⟩
    rw [toldPieces, toldPieces, told_eq_iff.2 (.inl hsame)]

/-- The tasks are of submitters who are not the same and share a name space, and their outputs go to
the same directory at first. -/
structure Confused (t t' : Task) : Prop where
  other : ¬ SameSubmitter t.identity t'.identity
  text : (identityText t.identity).toUTF8 = (identityText t'.identity).toUTF8
  userSpace : userSpace t.identity = userSpace t'.identity
  temp : (Destinations.ofTask t).temp = (Destinations.ofTask t').temp

lemma Confused.of_text {t t' : Task} (hother : ¬ SameSubmitter t.identity t'.identity)
    (htext : identityText t.identity = identityText t'.identity)
    (huser : t.identity.username = t'.identity.username)
    (hparts : Destinations.parts t = Destinations.parts t') : Confused t t' := by
  have htemp : ∀ t, (Destinations.ofTask t).temp =
      join (tempRoot :: Destinations.firstName t :: Destinations.parts t) := fun _ => rfl
  have hspace : LogicalPath.userSpace t.identity = LogicalPath.userSpace t'.identity := by
    rw [LogicalPath.userSpace, LogicalPath.userSpace, htext]
  refine ⟨hother, congrArg String.toUTF8 htext, hspace, ?_⟩
  rw [htemp, htemp, Destinations.firstName, Destinations.firstName, huser, hspace, hparts]

/-- Three submitters are read of whom the first has a group, the second a role that is called as
this group, and the third a name that has this group after a comma. -/
theorem not_identityText_inj :
    ∃ t₁ t₂ t₃, Task.ofRecord (TaskRecord.brief.set "tm_user_group" (.text "higgs")) = .ok t₁ ∧
      Task.ofRecord (TaskRecord.brief.set "tm_user_role" (.text "higgs")) = .ok t₂ ∧
      Task.ofRecord (TaskRecord.brief.set "tm_user_dn" (.text "/CN=Jane,higgs")) = .ok t₃ ∧
      Confused t₁ t₂ ∧ Confused t₁ t₃ := by
  have hgroup : (Task.ofRecord
      (TaskRecord.brief.set "tm_user_group" (.text "higgs"))).toOption.map
        (fun t => (t.identity, Destinations.parts t)) =
      some (⟨"j", "/CN=Jane", some "higgs", none, none⟩,
        ["", "ana", "ana", "130719_090932:x"]) := by
    decide +kernel
  have hrole : (Task.ofRecord
      (TaskRecord.brief.set "tm_user_role" (.text "higgs"))).toOption.map
        (fun t => (t.identity, Destinations.parts t)) =
      some (⟨"j", "/CN=Jane", none, some "higgs", none⟩,
        ["", "ana", "ana", "130719_090932:x"]) := by
    decide +kernel
  have hname : (Task.ofRecord
      (TaskRecord.brief.set "tm_user_dn" (.text "/CN=Jane,higgs"))).toOption.map
        (fun t => (t.identity, Destinations.parts t)) =
      some (⟨"j", "/CN=Jane,higgs", none, none, none⟩,
        ["", "ana", "ana", "130719_090932:x"]) := by
    decide +kernel
  obtain ⟨t₁, ht₁, heq₁⟩ := exists_of_map_toOption hgroup
  obtain ⟨t₂, ht₂, heq₂⟩ := exists_of_map_toOption hrole
  obtain ⟨t₃, ht₃, heq₃⟩ := exists_of_map_toOption hname
  obtain ⟨hi₁, hparts₁⟩ := Prod.mk.inj heq₁
  obtain ⟨hi₂, hparts₂⟩ := Prod.mk.inj heq₂
  obtain ⟨hi₃, hparts₃⟩ := Prod.mk.inj heq₃
  refine ⟨t₁, t₂, t₃, ht₁, ht₂, ht₃, ?_, ?_⟩
  · refine .of_text ?_ ?_ ?_ (by rw [hparts₁, hparts₂]) <;> rw [hi₁, hi₂] <;> decide
  · refine .of_text ?_ ?_ ?_ (by rw [hparts₁, hparts₃]) <;> rw [hi₁, hi₃] <;> decide

end LogicalPath

end JobGraph
