import Mathlib.Algebra.GroupWithZero.Nat
import Mathlib.Data.List.Forall2
import JobGraph.Rehearsal.Stage

/-!
# What a plan is made of

A plan said without the pass that makes it: which groups cannot be planned and why, which group of
a request a planned group describes, and which job of which group a planned job carries.

The pass goes through the groups once and hands out the numbers on its way, so the statement about
it, `Plan.ofGroups_cases`, is about any index of the first group and any first number.  The main
result is `Plan.plan_characterized`.
-/

namespace JobGraph.Plan

variable {rules : SiteRules} {task : Task}

/-- The sites of a group of a task, if it has any, or why it has none. -/
def sitesOf (rules : SiteRules) (task : Task) (g : JobGroup) :
    Except SiteShortage EligibleSites :=
  Site.eligible g.block.locations rules task.sitePreferences

/-- The group, which is the one at `index` of its request, cannot be planned: a name in it is no
token or, if all names are, it has jobs and no site for them. -/
inductive GroupFails (rules : SiteRules) (task : Task) (g : JobGroup) (index : Nat) :
    Error → Prop where
  | name {cause : Malformed} (h : g.defect? index = some cause) :
      GroupFails rules task g index (.malformed cause)
  | site {shortage : SiteShortage} (h : g.defect? index = none) (hjobs : g.jobs ≠ [])
      (hsites : sitesOf rules task g = .error shortage) :
      GroupFails rules task g index (.noSite task.name shortage)

/-- The error is that of the first of the groups, counted from `index`, that cannot be planned. -/
def FirstFails (rules : SiteRules) (task : Task) (index : Nat) (groups : List JobGroup)
    (e : Error) : Prop :=
  ∃ before g i after, groups.zipIdx index = before ++ (g, i) :: after ∧
    (∀ q ∈ before, ∀ e', ¬ GroupFails rules task q.1 q.2 e') ∧ GroupFails rules task g i e

/-- The planned group is the one for `g`. -/
structure Describes (rules : SiteRules) (task : Task) (g : JobGroup) (q : GroupPlan) : Prop where
  block : q.block = g.block.name
  sites : sitesOf rules task g = .ok q.sites
  jobCount : q.jobCount = g.jobs.length

/-- The planned job is the one for a job of a group. -/
structure Carries (rules : SiteRules) (task : Task) (e : JobGroup × Job) (s : PlannedJob) :
    Prop where
  inputFiles : s.inputFiles = e.2.inputFiles
  mask : s.mask = e.2.mask
  lheInput : s.lheInput = e.2.lheInput
  block : s.block = e.1.block.name
  sites : sitesOf rules task e.1 = .ok s.sites

/-- The groups that have jobs. -/
def busy (groups : List JobGroup) : List JobGroup :=
  groups.filter fun g => !g.jobs.isEmpty

/-- The jobs of all groups in order, each with its group. -/
def entries (groups : List JobGroup) : List (JobGroup × Job) :=
  groups.flatMap fun g => g.jobs.map fun job => (g, job)

/-! ### One group -/

/-- A group can be planned if its names are tokens and its jobs, if it has any, have sites. -/
lemma not_groupFails_iff {g : JobGroup} {index : Nat} :
    (∀ e, ¬ GroupFails rules task g index e) ↔
      g.defect? index = none ∧ (g.jobs ≠ [] → ∃ s, sitesOf rules task g = .ok s) := by
  constructor
  · intro h
    have hname : g.defect? index = none := by
      cases hd : g.defect? index with
      | none => rfl
      | some cause => exact absurd (.name hd) (h (.malformed cause))
    refine ⟨hname, fun hjobs => ?_⟩
    cases hs : sitesOf rules task g with
    | error shortage => exact absurd (.site hname hjobs hs) (h (.noSite task.name shortage))
    | ok s => exact ⟨s, rfl⟩
  · rintro ⟨hname, hsites⟩ e he
    cases he with
    | name h => simp [hname] at h
    | site h hjobs hs =>
      obtain ⟨s, hs'⟩ := hsites hjobs
      simp [hs'] at hs

lemma groupSites_eq {g : JobGroup} :
    groupSites rules task g = (sitesOf rules task g).mapError (.noSite task.name) := rfl

/-- Numbering the jobs of a group keeps their order and what they are. -/
lemma number_spec (prefixes : Destinations) {g : JobGroup} {sites : EligibleSites}
    (hs : sitesOf rules task g = .ok sites) (first : Nat) (jobs : List Job) :
    List.Forall₂ (Carries rules task) (jobs.map fun job => (g, job))
      (number task prefixes g.block.name sites first jobs) ∧
    (number task prefixes g.block.name sites first jobs).map (·.sequence) =
      List.range' first jobs.length := by
  induction jobs generalizing first with
  | nil => exact ⟨.nil, rfl⟩
  | cons job jobs ih =>
    obtain ⟨hcarry, hnumber⟩ := ih (first + 1)
    refine ⟨.cons ⟨rfl, rfl, rfl, rfl, hs⟩ hcarry, ?_⟩
    rw [number, List.map_cons, hnumber, List.length_cons, List.range'_succ]
    rfl

/-- No group can fail if and only if all names are tokens and all jobs have sites. -/
lemma forall_not_groupFails_iff {groups : List JobGroup} {index : Nat} :
    (∀ q ∈ groups.zipIdx index, ∀ e, ¬ GroupFails rules task q.1 q.2 e) ↔
      (∀ q ∈ groups.zipIdx index, q.1.defect? q.2 = none) ∧
      ∀ g ∈ groups, g.jobs ≠ [] → ∃ s, sitesOf rules task g = .ok s := by
  induction groups generalizing index with
  | nil => simp
  | cons g gs ih =>
    rw [List.zipIdx_cons, List.forall_mem_cons, List.forall_mem_cons, List.forall_mem_cons, ih,
      not_groupFails_iff]
    exact and_and_and_comm

/-! ### The pass over the groups -/

/-- If some group is the first that fails, then not all groups can be planned. -/
lemma FirstFails.not_forall {groups : List JobGroup} {index : Nat} {e : Error}
    (h : FirstFails rules task index groups e) :
    ¬ ∀ q ∈ groups.zipIdx index, ∀ e', ¬ GroupFails rules task q.1 q.2 e' := by
  obtain ⟨before, g, i, after, heq, -, hfails⟩ := h
  intro hnone
  exact hnone (g, i) (by rw [heq]; simp) e hfails

lemma firstFails_of_groupFails {g : JobGroup} {gs : List JobGroup} {index : Nat} {e : Error}
    (h : GroupFails rules task g index e) : FirstFails rules task index (g :: gs) e :=
  ⟨[], g, index, gs.zipIdx (index + 1), rfl, by simp, h⟩

lemma FirstFails.cons {g : JobGroup} {gs : List JobGroup} {index : Nat} {e : Error}
    (hg : ∀ e', ¬ GroupFails rules task g index e')
    (h : FirstFails rules task (index + 1) gs e) : FirstFails rules task index (g :: gs) e := by
  obtain ⟨before, g', i, after, heq, hbefore, hfails⟩ := h
  refine ⟨(g, index) :: before, g', i, after, ?_, ?_, hfails⟩
  · rw [List.zipIdx_cons, heq, List.cons_append]
  · intro q hq
    rcases List.mem_cons.1 hq with rfl | hq
    · exact hg
    · exact hbefore q hq

/-- The groups and jobs of a plan stand for those of a request, the jobs being numbered from
`first` on. -/
structure Accounts (rules : SiteRules) (task : Task) (first : Nat) (groups : List JobGroup)
    (made : List GroupPlan × List PlannedJob) : Prop where
  described : List.Forall₂ (Describes rules task) (busy groups) made.1
  carried : List.Forall₂ (Carries rules task) (entries groups) made.2
  numbers : made.2.map (·.sequence) = List.range' first made.2.length

/-- A group without jobs leaves no trace. -/
lemma Accounts.cons_idle {g : JobGroup} {gs : List JobGroup} {first : Nat}
    {made : List GroupPlan × List PlannedJob} (hjobs : g.jobs = [])
    (h : Accounts rules task first gs made) : Accounts rules task first (g :: gs) made := by
  refine ⟨?_, ?_, h.numbers⟩
  · have hbusy : busy (g :: gs) = busy gs := List.filter_cons_of_neg (by simp [hjobs])
    rw [hbusy]
    exact h.described
  · have hentries : entries (g :: gs) = entries gs := by
      rw [entries, List.flatMap_cons, hjobs, List.map_nil, List.nil_append, entries]
    rw [hentries]
    exact h.carried

/-- A group with jobs comes before the others, and so do its jobs. -/
lemma Accounts.cons_busy (prefixes : Destinations) {g : JobGroup} {gs : List JobGroup}
    {first : Nat} {sites : EligibleSites} {made : List GroupPlan × List PlannedJob}
    (hjobs : g.jobs ≠ []) (hsites : sitesOf rules task g = .ok sites)
    (h : Accounts rules task (first + g.jobs.length) gs made) :
    Accounts rules task first (g :: gs)
      (⟨g.block.name, sites, g.jobs.length⟩ :: made.1,
        number task prefixes g.block.name sites first g.jobs ++ made.2) := by
  obtain ⟨hcarry, hnumbers⟩ := number_spec prefixes hsites first g.jobs
  refine ⟨?_, ?_, ?_⟩
  · have hbusy : busy (g :: gs) = g :: busy gs := List.filter_cons_of_pos (by simp [hjobs])
    rw [hbusy]
    exact .cons ⟨rfl, hsites, rfl⟩ h.described
  · rw [entries, List.flatMap_cons]
    exact List.rel_append hcarry h.carried
  · have hlen : (number task prefixes g.block.name sites first g.jobs).length = g.jobs.length := by
      rw [← List.length_map (·.sequence), hnumbers, List.length_range']
    rw [List.map_append, hnumbers, h.numbers, List.length_append, hlen, ← List.range'_append]
    rw [Nat.one_mul]

/-- What the pass over the groups comes to: the error of the first group that cannot be planned
or, if there is none, what stands for all of them. -/
lemma ofGroups_cases (rules : SiteRules) (task : Task) (prefixes : Destinations)
    (index first : Nat) (gs : List JobGroup) :
    (∃ e, ofGroups rules task prefixes index first gs = .error e ∧
      FirstFails rules task index gs e) ∨
    (∃ made, ofGroups rules task prefixes index first gs = .ok made ∧
      (∀ q ∈ gs.zipIdx index, ∀ e, ¬ GroupFails rules task q.1 q.2 e) ∧
      Accounts rules task first gs made) := by
  induction gs generalizing index first with
  | nil => exact Or.inr ⟨([], []), rfl, by simp, .nil, .nil, rfl⟩
  | cons g gs ih =>
    -- names come before sites, and sites before the groups that follow
    cases hd : g.defect? index with
    | some cause =>
      refine Or.inl ⟨.malformed cause, ?_, firstFails_of_groupFails (.name hd)⟩
      rw [ofGroups, hd]
    | none =>
      by_cases hjobs : g.jobs = []
      · -- a group without jobs is passed over once its names are checked
        have hg : ∀ e, ¬ GroupFails rules task g index e :=
          not_groupFails_iff.2 ⟨hd, fun h => absurd hjobs h⟩
        have hpass : ofGroups rules task prefixes index first (g :: gs) =
            ofGroups rules task prefixes (index + 1) first gs := by
          rw [ofGroups, hd]
          simp [hjobs]
        rw [hpass]
        rcases ih (index + 1) first with ⟨e, he, hfirst⟩ | ⟨made, hmade, hnone, hacc⟩
        · exact Or.inl ⟨e, he, hfirst.cons hg⟩
        · refine Or.inr ⟨made, hmade, ?_, hacc.cons_idle hjobs⟩
          rw [List.zipIdx_cons, List.forall_mem_cons]
          exact ⟨hg, hnone⟩
      · have hpass : ofGroups rules task prefixes index first (g :: gs) =
            groupSites rules task g >>= fun sites =>
              ofGroups rules task prefixes (index + 1) (first + g.jobs.length) gs >>= fun made =>
                pure (⟨g.block.name, sites, g.jobs.length⟩ :: made.1,
                  number task prefixes g.block.name sites first g.jobs ++ made.2) := by
          rw [ofGroups, hd]
          simp [hjobs]
        rw [hpass, groupSites_eq]
        cases hs : sitesOf rules task g with
        | error shortage =>
          exact Or.inl ⟨.noSite task.name shortage, rfl,
            firstFails_of_groupFails (.site hd hjobs hs)⟩
        | ok sites =>
          have hg : ∀ e, ¬ GroupFails rules task g index e :=
            not_groupFails_iff.2 ⟨hd, fun _ => ⟨sites, hs⟩⟩
          rcases ih (index + 1) (first + g.jobs.length) with
            ⟨e, he, hfirst⟩ | ⟨made, hmade, hnone, hacc⟩
          · refine Or.inl ⟨e, ?_, hfirst.cons hg⟩
            rw [he]
            rfl
          · refine Or.inr ⟨_, ?_, ?_, hacc.cons_busy prefixes hjobs hs⟩
            · rw [hmade]
              rfl
            · rw [List.zipIdx_cons, List.forall_mem_cons]
              exact ⟨hg, hnone⟩

/-! ### Counting -/

lemma entries_eq_nil_iff {groups : List JobGroup} :
    entries groups = [] ↔ ∀ g ∈ groups, g.jobs = [] := by
  simp [entries]

lemma sum_length_busy (groups : List JobGroup) :
    ((busy groups).map (·.jobs.length)).sum = (entries groups).length := by
  induction groups with
  | nil => rfl
  | cons g gs ih =>
    rw [entries, List.flatMap_cons, List.length_append, List.length_map, ← entries, ← ih]
    by_cases hjobs : g.jobs = []
    · rw [busy, List.filter_cons_of_neg (by simp [hjobs]), hjobs, List.length_nil, Nat.zero_add,
        busy]
    · rw [busy, List.filter_cons_of_pos (by simp [hjobs]), List.map_cons, List.sum_cons, busy]

lemma map_jobCount {gs : List JobGroup} {qs : List GroupPlan}
    (h : List.Forall₂ (Describes rules task) gs qs) :
    qs.map (·.jobCount) = gs.map (·.jobs.length) := by
  induction h with
  | nil => rfl
  | cons hq _ ih => rw [List.map_cons, List.map_cons, hq.jobCount, ih]

/-- The job counts of the planned groups add up to the number of jobs. -/
lemma Accounts.sum_jobCount {first : Nat} {groups : List JobGroup}
    {made : List GroupPlan × List PlannedJob} (h : Accounts rules task first groups made) :
    (made.1.map (·.jobCount)).sum = made.2.length := by
  rw [map_jobCount h.described, sum_length_busy, h.carried.length_eq]

/-- The job at position `i` has the number `first + i`. -/
lemma Accounts.sequence_eq {first : Nat} {groups : List JobGroup}
    {made : List GroupPlan × List PlannedJob} (h : Accounts rules task first groups made)
    {i : Nat} {s : PlannedJob} (hi : made.2[i]? = some s) : s.sequence = first + i := by
  have hlt : i < made.2.length := (List.getElem?_eq_some_iff.1 hi).1
  have hmap : (made.2.map (·.sequence))[i]? = some s.sequence := by
    rw [List.getElem?_map, hi]
    rfl
  rw [h.numbers, List.getElem?_range' hlt, Nat.one_mul] at hmap
  exact (Option.some.inj hmap).symm

/-! ### Plans -/

/-- What planning a request comes to, if its record is that of a task: the error of the first
group that cannot be planned; if there is none, a complaint that there are no jobs; and if there
are, a plan that accounts for all of them. -/
lemma plan_cases (c : Compiler) (r : Request) {task : Task}
    (htask : Task.ofRecord r.task = .ok task) :
    (∃ e, c.plan r = .error e ∧ FirstFails c.rules task 0 r.groups e) ∨
    ((∀ q ∈ r.groups.zipIdx, ∀ e, ¬ GroupFails c.rules task q.1 q.2 e) ∧
      ((entries r.groups = [] ∧ c.plan r = .error (.noJobs task.name)) ∨
        (entries r.groups ≠ [] ∧ ∃ p, c.plan r = .ok p ∧ p.task = task ∧
          p.throttle = c.throttle.limit p.jobs.length ∧
          Accounts c.rules task 1 r.groups (p.groups, p.jobs)))) := by
  have hplan : c.plan r = ofTask c.rules c.throttle task r.groups := by
    rw [Compiler.plan, ofRequest, htask]
    rfl
  rw [hplan, ofTask]
  rcases ofGroups_cases c.rules task (.ofTask task) 0 1 r.groups with
    ⟨e, he, hfirst⟩ | ⟨⟨groups, jobs⟩, hmade, hnone, hacc⟩
  · refine Or.inl ⟨e, ?_, hfirst⟩
    rw [he]
    rfl
  · refine Or.inr ⟨hnone, ?_⟩
    have hlen : (entries r.groups).length = jobs.length := hacc.carried.length_eq
    rw [hmade]
    by_cases hjobs : jobs = []
    · subst hjobs
      exact Or.inl ⟨List.eq_nil_of_length_eq_zero hlen, rfl⟩
    · refine Or.inr ⟨fun h => hjobs (List.eq_nil_of_length_eq_zero (by rw [← hlen, h]; rfl)), ?_⟩
      refine ⟨⟨task, groups, jobs, c.throttle.limit jobs.length⟩, ?_, rfl, rfl, hacc⟩
      cases jobs with
      | nil => exact absurd rfl hjobs
      | cons job jobs => rfl

/-- A plan is that of the task of a record, and it has jobs. -/
lemma of_plan_eq_ok {c : Compiler} {r : Request} {p : Plan} (h : c.plan r = .ok p) :
    Task.ofRecord r.task = .ok p.task ∧ p.throttle = c.throttle.limit p.jobs.length ∧
      p.jobs ≠ [] := by
  cases htask : Task.ofRecord r.task with
  | error cause =>
    rw [Compiler.plan, ofRequest, htask] at h
    cases h
  | ok task =>
    rcases plan_cases c r htask with
      ⟨e, he, -⟩ | ⟨-, ⟨-, he⟩ | ⟨hjobs, q, hq, rfl, hlimit, hacc⟩⟩
    · rw [he] at h
      cases h
    · rw [he] at h
      cases h
    · rw [hq] at h
      cases h
      refine ⟨rfl, hlimit, fun hnil => hjobs ?_⟩
      have hlen : (entries r.groups).length = p.jobs.length := hacc.carried.length_eq
      rw [hnil] at hlen
      exact List.eq_nil_of_length_eq_zero hlen

/-- A plan accounts for the groups of its request. -/
lemma accounts_of_plan_eq_ok {c : Compiler} {r : Request} {p : Plan} (h : c.plan r = .ok p) :
    (∀ q ∈ r.groups.zipIdx, ∀ e, ¬ GroupFails c.rules p.task q.1 q.2 e) ∧
      Accounts c.rules p.task 1 r.groups (p.groups, p.jobs) := by
  obtain ⟨htask, -, -⟩ := of_plan_eq_ok h
  rcases plan_cases c r htask with
    ⟨e, he, -⟩ | ⟨hnone, ⟨-, he⟩ | ⟨-, q, hq, -, -, hacc⟩⟩
  · rw [he] at h
    cases h
  · rw [he] at h
    cases h
  · rw [hq] at h
    cases h
    exact ⟨hnone, hacc⟩

/-- The jobs of a plan are numbered from one. -/
lemma map_sequence_jobs {c : Compiler} {r : Request} {p : Plan} (h : c.plan r = .ok p) :
    p.jobs.map (·.sequence) = List.range' 1 p.jobs.length :=
  (accounts_of_plan_eq_ok h).2.numbers

/-- **What a plan is made of.**  A request whose record is that of a task has a plan if and only if
the names in all its groups are tokens, every group with jobs has sites, and there is a job.  The
planned groups are then those with jobs, in order, and the planned jobs are theirs, in order, the
one at position `i` with the number `i + 1`; the job counts of the groups add up, and below `2 ^ 32`
jobs the numbers fit 32 bits.  Without a plan, the error is that of the first group that cannot be
planned, or there is no such group and no job either. -/
theorem plan_characterized (c : Compiler) (r : Request) (task : Task)
    (htask : Task.ofRecord r.task = .ok task) :
    ((∃ p, c.plan r = .ok p) ↔
      (∀ q ∈ r.groups.zipIdx, q.1.defect? q.2 = none) ∧
      (∀ g ∈ r.groups, g.jobs ≠ [] → ∃ s, sitesOf c.rules task g = .ok s) ∧
      ∃ g ∈ r.groups, g.jobs ≠ []) ∧
    (∀ p, c.plan r = .ok p →
      p.task = task ∧ p.throttle = c.throttle.limit p.jobs.length ∧
      List.Forall₂ (Describes c.rules task) (busy r.groups) p.groups ∧
      List.Forall₂ (Carries c.rules task) (entries r.groups) p.jobs ∧
      (∀ i s, p.jobs[i]? = some s → s.sequence = i + 1) ∧
      (p.groups.map (·.jobCount)).sum = p.jobs.length ∧
      ((entries r.groups).length < 2 ^ 32 → ∀ s ∈ p.jobs, s.sequence < 2 ^ 32)) ∧
    (∀ e, c.plan r = .error e →
      FirstFails c.rules task 0 r.groups e ∨
      ((∀ q ∈ r.groups.zipIdx, ∀ e', ¬ GroupFails c.rules task q.1 q.2 e') ∧
        (∀ g ∈ r.groups, g.jobs = []) ∧ e = .noJobs task.name)) := by
  rw [← and_assoc (c := ∃ g ∈ r.groups, g.jobs ≠ []), ← forall_not_groupFails_iff]
  rcases plan_cases c r htask with
    ⟨e, he, hfirst⟩ | ⟨hnone, ⟨hjobs, he⟩ | ⟨hjobs, p, hp, htask', hlimit, hacc⟩⟩
  · refine ⟨?_, by simp [he], ?_⟩
    · simp only [he, reduceCtorEq, exists_false, false_iff]
      exact fun h => hfirst.not_forall h.1
    · intro e' he'
      rw [he] at he'
      cases he'
      exact Or.inl hfirst
  · have hidle := entries_eq_nil_iff.1 hjobs
    refine ⟨?_, by simp [he], ?_⟩
    · simp only [he, reduceCtorEq, exists_false, false_iff]
      rintro ⟨-, g, hg, hne⟩
      exact hne (hidle g hg)
    · intro e' he'
      rw [he] at he'
      cases he'
      exact Or.inr ⟨hnone, hidle, rfl⟩
  · have hbusy : ∃ g ∈ r.groups, g.jobs ≠ [] := by
      by_contra h
      push Not at h
      exact hjobs (entries_eq_nil_iff.2 h)
    refine ⟨⟨fun _ => ⟨hnone, hbusy⟩, fun _ => ⟨p, hp⟩⟩, ?_, by simp [hp]⟩
    intro p' hp'
    rw [hp] at hp'
    cases hp'
    have hnumber : ∀ i s, p.jobs[i]? = some s → s.sequence = i + 1 := by
      intro i s hi
      rw [hacc.sequence_eq hi, Nat.add_comm]
    refine ⟨htask', hlimit, hacc.described, hacc.carried, hnumber, hacc.sum_jobCount, ?_⟩
    intro hlt s hs
    obtain ⟨i, hi, rfl⟩ := List.mem_iff_getElem.1 hs
    rw [hnumber i _ (List.getElem?_eq_getElem hi)]
    have hlen : (entries r.groups).length = p.jobs.length := hacc.carried.length_eq
    omega

/-- The sample request has a plan, whose three jobs are those of its first and its last group. -/
theorem plan_characterized_sample :
    ∃ task p, Task.ofRecord Request.sample.task = .ok task ∧
      (Compiler.sample .external).plan .sample = .ok p ∧
      List.Forall₂ (Carries (Compiler.sample .external).rules task) (entries Request.sample.groups)
        p.jobs ∧
      (∀ i s, p.jobs[i]? = some s → s.sequence = i + 1) ∧
      (p.groups.map (·.jobCount)).sum = p.jobs.length := by
  obtain ⟨task, htask, -⟩ := Request.exists_task_sample
  have hok : ((Compiler.sample .external).plan .sample).isOk = true := by decide +kernel
  obtain ⟨p, hp⟩ := exists_of_isOk hok
  obtain ⟨-, -, -, hcarried, hnumber, hsum, -⟩ :=
    (plan_characterized (Compiler.sample .external) .sample task htask).2.1 p hp
  exact ⟨task, p, htask, hp, hcarried, hnumber, hsum⟩

end JobGraph.Plan
