import Mathlib.Data.List.Perm.Subperm
import JobGraph.Assembly
import JobGraph.Proofs.Artifact.SubmitLines
import JobGraph.Proofs.Plan.Tokens
import JobGraph.Rehearsal.Stage

/-!
# Buckets

The directories of a job are those of its task and one level further down, which is the number of
its bucket.  Buckets that differ have different names, also where their numbers have more than four
digits, since the zeros in front do not count; so jobs share a directory if and only if they share a
bucket, and as all jobs of a plan have different numbers, no more than a thousand of them do.

The directory of the task is worked out once for the jobs and once more for the submit file, and
both come to the same.  The main result is `Plan.directories_by_bucket`.
-/

namespace JobGraph

/-! ### Names of buckets -/

namespace LogicalPath

/-- The name of a bucket stands for its number. -/
lemma ofDigitChars_bucket (n : ℕ) :
    Nat.ofDigitChars 10 (bucket n).toList 0 = n / jobsPerBucket := by
  obtain ⟨zeros, h⟩ := toList_bucket n
  rw [h, Nat.ofDigitChars_append, Nat.ofDigitChars_replicate_zero, Nat.mul_zero,
    Nat.ofDigitChars_ten_toDigits]

lemma bucket_eq_iff {m n : ℕ} :
    bucket m = bucket n ↔ m / jobsPerBucket = n / jobsPerBucket := by
  constructor
  · intro h
    rw [← ofDigitChars_bucket m, h, ofDigitChars_bucket n]
  · intro h
    rw [bucket, bucket, h]

/-- A bucket in a directory stands behind it and a slash. -/
lemma join_bucket {parts : List String} (h : steps parts ≠ []) (n : ℕ) :
    join [join parts, bucket n] = join parts ++ "/" ++ bucket n := by
  have hbucket : steps [bucket n] ≠ [] := by
    rw [steps_singleton (bare_bucket n)]
    exact List.cons_ne_nil _ _
  rw [join_join, join_append h hbucket, join_singleton (bare_bucket n), String.append_assoc]

end LogicalPath

namespace Destinations

open LogicalPath

/-- The directories of a job are those of its task with the bucket behind them. -/
lemma forJob_eq (t : Task) (n : ℕ) :
    (ofTask t).forJob n =
      ⟨(ofTask t).temp ++ "/" ++ bucket n, (ofTask t).dest ++ "/" ++ bucket n⟩ := by
  rw [forJob, Destinations.mk.injEq]
  -- whatever the task is, its directories have the steps of their roots
  exact ⟨join_bucket (steps_cons_ne_nil (by decide) _) n,
    join_bucket (steps_cons_ne_nil (by decide) _) n⟩

end Destinations

/-- Whatever there is to be assembled for a task, the submit file names the directory of the
task. -/
lemma Assembly.exists_ofJobs (ctx : WorkerContext) (task : Task) (throttle : Throttle)
    {jobs : List PlannedJob} (hjobs : jobs ≠ []) :
    ∃ a, Assembly.ofJobs ctx task throttle jobs = .ok a ∧
      ⟨Artifact.submitFile, SubmitFile.text ctx task (Destinations.ofTask task).temp
        (throttle.limit jobs.length)⟩ ∈ a.artifacts := by
  obtain ⟨job, jobs, rfl⟩ := List.exists_cons_of_ne_nil hjobs
  exact ⟨_, rfl, List.mem_cons_of_mem _ List.mem_cons_self⟩

/-! ### Jobs in buckets -/

namespace Plan

open LogicalPath (bucket jobsPerBucket bucket_eq_iff)

variable {c : Compiler} {r : Request} {p : Plan}

lemma directories_eq (h : c.plan r = .ok p) {s : PlannedJob} (hs : s ∈ p.jobs) :
    s.directories.temp = (Destinations.ofTask p.task).temp ++ "/" ++ bucket s.sequence ∧
      s.directories.dest = (Destinations.ofTask p.task).dest ++ "/" ++ bucket s.sequence := by
  rw [((isMade_of_plan_eq_ok h).1 s hs).directories, Destinations.forJob_eq]
  exact ⟨rfl, rfl⟩

/-- A bucket holds the jobs of no more than a thousand numbers. -/
lemma length_bucket_le (h : c.plan r = .ok p) (q : ℕ) :
    (p.jobs.filter fun s => s.sequence / jobsPerBucket = q).length ≤ jobsPerBucket := by
  set inside := p.jobs.filter fun s => s.sequence / jobsPerBucket = q with hinside
  have hnodup : (inside.map (·.sequence)).Nodup :=
    (isMade_of_plan_eq_ok h).2.sublist (List.filter_sublist.map _)
  have hsubset : inside.map (·.sequence) ⊆ List.range' (q * jobsPerBucket) jobsPerBucket := by
    intro n hn
    obtain ⟨s, hs, rfl⟩ := List.mem_map.1 hn
    rw [hinside, List.mem_filter, decide_eq_true_eq] at hs
    have hquotient := hs.2
    rw [List.mem_range'_1]
    unfold jobsPerBucket at hquotient ⊢
    omega
  calc inside.length = (inside.map (·.sequence)).length := (List.length_map _).symm
    _ ≤ (List.range' (q * jobsPerBucket) jobsPerBucket).length :=
      (hnodup.subperm hsubset).length_le
    _ = jobsPerBucket := List.length_range'

/-- What jobs have in common if and only if they share a bucket, no more than a thousand of them
have in common. -/
lemma length_sharing_le (h : c.plan r = .ok p) {place : PlannedJob → String}
    (hplace : ∀ s ∈ p.jobs, ∀ s' ∈ p.jobs, place s = place s' ↔
      s.sequence / jobsPerBucket = s'.sequence / jobsPerBucket) (dir : String) :
    (p.jobs.filter fun s => place s = dir).length ≤ jobsPerBucket := by
  by_cases hempty : ∃ s ∈ p.jobs, place s = dir
  · obtain ⟨s, hs, rfl⟩ := hempty
    have hsame : (p.jobs.filter fun s' => place s' = place s) =
        p.jobs.filter fun s' => s'.sequence / jobsPerBucket = s.sequence / jobsPerBucket :=
      List.filter_congr fun s' hs' => decide_eq_decide.2 (hplace s' hs' s hs)
    rw [hsame]
    exact length_bucket_le h _
  · have hnone : (p.jobs.filter fun s => place s = dir) = [] := by
      rw [List.filter_eq_nil_iff]
      exact fun s hs heq => hempty ⟨s, hs, by simpa using heq⟩
    rw [hnone]
    exact Nat.zero_le _

/-- **Jobs in buckets.**  In every plan, the directories of each job are those of the task with a
slash and the bucket of the job behind them, at first and in the end; and the directory of the task
at first is the one that stands in the submit file, whatever machine and limit it is made for and
whatever URLs the jobs have.  Two jobs share a directory if and only if their numbers have the same
quotient by a thousand, and so no directory has more than a thousand jobs, however many the plan
has. -/
theorem directories_by_bucket (c : Compiler) (r : Request) (p : Plan) (h : c.plan r = .ok p) :
    let home := Destinations.ofTask p.task
    (∀ ctx throttle urls, ∃ a text, Assembly.ofJobs ctx p.task throttle (p.placed urls) = .ok a ∧
      ⟨Artifact.submitFile, text⟩ ∈ a.artifacts ∧
      (Text.split '\n' text).filter (fun l => SubmitFile.key l = "+CRAB_Dest") =
        ["+CRAB_Dest = " ++ Json.quote home.temp]) ∧
    (∀ s ∈ p.jobs, s.directories.temp = home.temp ++ "/" ++ bucket s.sequence ∧
      s.directories.dest = home.dest ++ "/" ++ bucket s.sequence) ∧
    (∀ s ∈ p.jobs, ∀ s' ∈ p.jobs,
      (s.directories.temp = s'.directories.temp ↔ s.sequence / 1000 = s'.sequence / 1000) ∧
      (s.directories.dest = s'.directories.dest ↔ s.sequence / 1000 = s'.sequence / 1000)) ∧
    ∀ dir, (p.jobs.filter fun s => s.directories.temp = dir).length ≤ 1000 ∧
      (p.jobs.filter fun s => s.directories.dest = dir).length ≤ 1000 := by
  intro home
  obtain ⟨htask, -, hjobs⟩ := of_plan_eq_ok h
  have hdirectories : ∀ s ∈ p.jobs, s.directories.temp = home.temp ++ "/" ++ bucket s.sequence ∧
      s.directories.dest = home.dest ++ "/" ++ bucket s.sequence :=
    fun s hs => directories_eq h hs
  have htemp : ∀ s ∈ p.jobs, ∀ s' ∈ p.jobs, s.directories.temp = s'.directories.temp ↔
      s.sequence / jobsPerBucket = s'.sequence / jobsPerBucket := by
    intro s hs s' hs'
    rw [(hdirectories s hs).1, (hdirectories s' hs').1, String.append_right_inj, bucket_eq_iff]
  have hdest : ∀ s ∈ p.jobs, ∀ s' ∈ p.jobs, s.directories.dest = s'.directories.dest ↔
      s.sequence / jobsPerBucket = s'.sequence / jobsPerBucket := by
    intro s hs s' hs'
    rw [(hdirectories s hs).2, (hdirectories s' hs').2, String.append_right_inj, bucket_eq_iff]
  refine ⟨fun ctx throttle urls => ?_, hdirectories, fun s hs s' hs' =>
    ⟨htemp s hs s' hs', hdest s hs s' hs'⟩, fun dir =>
    ⟨length_sharing_le h htemp dir, length_sharing_le h hdest dir⟩⟩
  have hplaced : p.placed urls ≠ [] := fun hnil => hjobs (List.map_eq_nil_iff.1 hnil)
  obtain ⟨a, ha, hmem⟩ := Assembly.exists_ofJobs ctx p.task throttle hplaced
  exact ⟨a, _, ha, hmem, SubmitFile.filter_dest (Task.checked_of_ofRecord htask)⟩

/-- The sample request with a group of a thousand jobs that are all the same. -/
def thousand : Request :=
  { Request.sample with
    groups := [⟨⟨"#1", ["T2_US"]⟩, List.replicate 1000 ⟨[], .unrestricted, false⟩⟩] }

/-- The last two of a thousand jobs do not share their directories. -/
theorem directories_by_bucket_thousand :
    ∃ p, (Compiler.sample .external).plan thousand = .ok p ∧ ∃ s ∈ p.jobs, ∃ s' ∈ p.jobs,
      s.sequence = 999 ∧ s'.sequence = 1000 ∧ s.directories.temp ≠ s'.directories.temp ∧
      (p.jobs.filter fun s' => s'.directories.dest = s.directories.dest).length ≤ 1000 := by
  have hlength : ((Compiler.sample .external).plan thousand).toOption.map (fun p =>
      p.jobs.length) = some 1000 := by decide +kernel
  obtain ⟨p, hp, hlength⟩ := exists_of_map_toOption hlength
  obtain ⟨-, -, hshare, hbound⟩ := directories_by_bucket (Compiler.sample .external) thousand p hp
  have hnumber : ∀ n ∈ [999, 1000], ∃ s ∈ p.jobs, s.sequence = n := by
    intro n hn
    have hmem : n ∈ p.jobs.map (·.sequence) := by
      rw [map_sequence_jobs hp, hlength, List.mem_range'_1]
      simp only [List.mem_cons, List.not_mem_nil, or_false] at hn
      omega
    exact List.mem_map.1 hmem
  obtain ⟨s, hs, hsequence⟩ := hnumber 999 (by simp)
  obtain ⟨s', hs', hsequence'⟩ := hnumber 1000 (by simp)
  refine ⟨p, hp, s, hs, s', hs', hsequence, hsequence', fun hsame => ?_, (hbound _).2⟩
  have hquotient := (hshare s hs s' hs').1.1 hsame
  rw [hsequence, hsequence'] at hquotient
  cases hquotient

end Plan

end JobGraph
