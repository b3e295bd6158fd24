import JobGraph.Proofs.Compilation.Asking
import JobGraph.Rehearsal.Sample
import JobGraph.Rehearsal.Stage

/-!
# What the dashboard is offered

Once its artifacts are written, a task is entered at the dashboard, and then its jobs are, one after
another.  Each entry is offered until it is accepted or the attempts are used up, whatever comes of
the others.  So what the dashboard accepts are entries of the task in their order, each of them
once, and those that it never accepts are counted in one warning.

The main result is `Compiler.entries_offered`.
-/

namespace JobGraph

open Attempts (Tried callsFor isAnswered outcome?)

/-- What the dashboard is told: the entry of a task, or that of a job. -/
inductive Dashboard.Entry where
  | task (entry : Dashboard.TaskEntry)
  | job (entry : Dashboard.JobEntry)
deriving DecidableEq

/-- The entries of what was made for a task: its own entry, and then those of its jobs. -/
def Assembly.entries (a : Assembly) : List Dashboard.Entry :=
  .task a.taskEntry :: a.jobEntries.map .job

/-- The entry that the dashboard was offered in an event, with its answer. -/
def Event.entry? : Event → Option (Dashboard.Entry × Except Error Unit)
  | ⟨.enterTask entry, answer⟩ => some (.task entry, answer)
  | ⟨.enterJob entry, answer⟩ => some (.job entry, answer)
  | _ => none

/-- What the dashboard is offered during a run, with its answers. -/
def World.offers {σ α : Type} (w : World σ) (p : Program α) (s : σ) :
    List (Dashboard.Entry × Except Error Unit) :=
  w.seen Event.entry? p s

/-- Entries are made at the dashboard of the world, and no other service calls it. -/
structure Services.Entering (v : Services) : Prop where
  enterTask : ∀ entry, v.enterTask entry = .perform (.enterTask entry)
  enterJob : ∀ entry, v.enterJob entry = .perform (.enterJob entry)
  resolve : ∀ sites paths,
    (v.resolve sites paths).Within (Effect.Unseen Event.entry?) fun _ => True
  noteFailure : ∀ notice,
    (v.noteFailure notice).Within (Effect.Unseen Event.entry?) fun _ => True

namespace Compiler

variable {σ : Type} {w : World σ} {c : Compiler}

/-- The error with which the last of some offers was refused, if it was. -/
def refusal? (calls : List (Dashboard.Entry × Except Error Unit)) : Option Error :=
  (outcome? calls).bind errorOf

/-- An entry is refused for good if none of its offers is accepted. -/
lemma isSome_refusal? {limit : ℕ} {e : Dashboard.Entry}
    {calls : List (Dashboard.Entry × Except Error Unit)} (h : Tried limit e calls) :
    (refusal? calls).isSome = !isAnswered calls := by
  obtain ⟨front, answer, -, houtcome, -⟩ := h.exists_eq_append
  rw [h.isAnswered_eq houtcome, refusal?, houtcome]
  cases answer <;> rfl

lemma filterMap_refusal? (calls : List (Dashboard.Entry × Except Error Unit))
    (rounds : List (List (Dashboard.Entry × Except Error Unit))) :
    (refusal? calls).toList ++ rounds.filterMap refusal? =
      (calls :: rounds).filterMap refusal? := by
  rw [List.filterMap_cons]
  cases refusal? calls <;> rfl

/-! ### Entries one after another -/

/-- An entry is offered up to the limit, and the result is that of the last offer. -/
lemma offers_retry {call : Program (Except Error Unit)} {e : Dashboard.Entry}
    (hcall : ∀ s, ∃ answer, w.offers call s = [(e, answer)] ∧ (w.run call s).1 = answer) (s : σ) :
    Tried (max 1 c.retry.limit) e (w.offers (c.retry.run call) s) ∧
      errorOf (w.run (c.retry.run call) s).1 = refusal? (w.offers (c.retry.run call) s) := by
  have hone : ∀ s, ∃ answer : Except Error Unit, w.seen Event.entry? call s = [(e, answer)] ∧
      (w.run call s).1 = answer.map id := by
    intro s
    obtain ⟨answer, hoffers, hrun⟩ := hcall s
    exact ⟨answer, hoffers, by rw [hrun, Except.map_id, id]⟩
  obtain ⟨htried, answer, houtcome, hrun⟩ := Attempts.tried_run hone c.retry s
  refine ⟨htried, ?_⟩
  rw [hrun, Except.map_id, id, refusal?, World.offers, houtcome]
  rfl

lemma offers_enterJobs (hv : c.services.Entering) (entries : List Dashboard.JobEntry) (s : σ) :
    ∃ rounds, w.offers (c.enterJobs entries) s = rounds.flatten ∧
      List.Forall₂ (Tried (max 1 c.retry.limit)) (entries.map .job) rounds ∧
      (w.run (c.enterJobs entries) s).1 = rounds.filterMap refusal? := by
  induction entries generalizing s with
  | nil => exact ⟨[], rfl, .nil, rfl⟩
  | cons r rs ih =>
    have hcall : ∀ s, ∃ answer, w.offers (c.services.enterJob r) s = [(.job r, answer)] ∧
        (w.run (c.services.enterJob r) s).1 = answer := by
      intro s
      rw [hv.enterJob]
      exact ⟨_, rfl, rfl⟩
    obtain ⟨htried, herror⟩ := offers_retry (c := c) hcall s
    obtain ⟨rounds, hoffers, hrounds, hrun⟩ := ih (w.run (c.retry.run (c.services.enterJob r)) s).2
    refine ⟨w.offers (c.retry.run (c.services.enterJob r)) s :: rounds, ?_,
      .cons htried hrounds, ?_⟩
    · rw [enterJobs, World.offers, World.seen_bind, World.seen_bind, World.seen_pure,
        List.append_nil, List.flatten_cons, ← hoffers]
      rfl
    · rw [enterJobs, World.run_bind, World.run_bind, World.run_pure, hrun, herror,
        filterMap_refusal?]

/-- The warning about entries that were not accepted, if there are any: how many of them there are,
and the last error. -/
def shortfall (total : ℕ) (errors : List Error) : List Warning :=
  match errors.getLast? with
  | none => []
  | some last =>
    [.degraded Dashboard.service
      s!"{errors.length} of {total} records not delivered: {last.message}"]

/-- A task and its jobs are offered one after another, and the errors of those that were refused for
good go into one warning. -/
lemma offers_enterAll (hv : c.services.Entering) (a : Assembly) (s : σ) :
    ∃ rounds, w.offers (c.enterAll a) s = rounds.flatten ∧
      List.Forall₂ (Tried (max 1 c.retry.limit)) a.entries rounds ∧
      (w.run (c.enterAll a) s).1 = shortfall a.entries.length (rounds.filterMap refusal?) := by
  have hcall : ∀ s, ∃ answer,
      w.offers (c.services.enterTask a.taskEntry) s = [(.task a.taskEntry, answer)] ∧
        (w.run (c.services.enterTask a.taskEntry) s).1 = answer := by
    intro s
    rw [hv.enterTask]
    exact ⟨_, rfl, rfl⟩
  obtain ⟨htried, herror⟩ := offers_retry (c := c) hcall s
  obtain ⟨rounds, hoffers, hrounds, hrun⟩ := offers_enterJobs (w := w) hv a.jobEntries
    (w.run (c.retry.run (c.services.enterTask a.taskEntry)) s).2
  have hlength : a.entries.length = a.jobEntries.length + 1 := by
    rw [Assembly.entries, List.length_cons, List.length_map]
  refine ⟨w.offers (c.retry.run (c.services.enterTask a.taskEntry)) s :: rounds, ?_,
    .cons htried hrounds, ?_⟩
  · rw [enterAll, World.offers, World.seen_bind, World.seen_bind, List.flatten_cons, ← hoffers]
    dsimp only
    split
    all_goals rw [World.seen_pure, List.append_nil, World.offers, World.offers]
  · rw [enterAll, World.run_bind, World.run_bind, hrun, herror, filterMap_refusal?, shortfall,
      hlength]
    dsimp only
    generalize (rounds.cons _).filterMap refusal? = errors
    cases errors.getLast? with
    | none => rfl
    | some last => rfl

/-! ### The entries of a task -/

/-- The entries of the jobs bear the numbers of the jobs. -/
lemma map_bossId_assembled (w : World σ) {r : Request} {p : Plan} (hp : c.plan r = .ok p) (s : σ) :
    (c.assembled w p s).jobEntries.map (·.bossId) = (List.range' 1 p.jobCount).map toString := by
  have hnumbers := map_sequence_located w c p s
  rw [Plan.map_sequence_jobs hp] at hnumbers
  rw [Plan.jobCount, ← hnumbers, assembled, List.map_map, List.map_map]
  rfl

/-- No entry is made twice. -/
lemma nodup_entries (w : World σ) {r : Request} {p : Plan} (hp : c.plan r = .ok p) (s : σ) :
    (c.assembled w p s).entries.Nodup := by
  have hids : ((c.assembled w p s).jobEntries.map (·.bossId)).Nodup := by
    rw [map_bossId_assembled w hp]
    refine List.Nodup.map (fun m n h => ?_) List.nodup_range'
    exact Text.toDigits_inj (by simpa using congrArg String.toList h)
  rw [Assembly.entries, List.nodup_cons]
  refine ⟨by simp, ?_⟩
  exact (List.Nodup.of_map _ hids).map fun _ _ h => Dashboard.Entry.job.inj h

/-- Every job has one entry, and so has the task. -/
lemma length_entries (w : World σ) {r : Request} {p : Plan} (hp : c.plan r = .ok p) (s : σ) :
    (c.assembled w p s).entries.length = p.jobCount + 1 := by
  have hcount := congrArg List.length (map_bossId_assembled w hp s)
  rw [List.length_map, List.length_map, List.length_range'] at hcount
  rw [Assembly.entries, List.length_cons, List.length_map, hcount]

/-! ### What is offered during a compilation -/

/-- Until the emission has been answered, the dashboard is not offered anything. -/
lemma filterMap_entry?_prepared (hv : c.services.Entering) (token : String) (p : Plan) (s : σ) :
    (c.prepared w token p s).filterMap Event.entry? = [] := by
  rw [filterMap_prepared (fun _ _ => rfl)]
  exact World.seen_eq_nil (within_resolveUrls hv.resolve _ _) s

/-- If the emission fails, the dashboard is not offered anything at all. -/
lemma offers_compile_of_refused (hv : c.services.Entering) {token : String} {r : Request} {p : Plan}
    (hp : c.plan r = .ok p) {s s' : σ} {f : Failure}
    (h : c.emitted w token p s = (.error f, s')) :
    w.offers (c.compile token r) s = [] := by
  have hreport := World.seen_eq_nil (w := w)
    (within_report (c := c) hv.noteFailure r.task (.other f)) s'
  rw [World.offers, World.seen, history_compile_of_refused hp h, List.filterMap_append,
    filterMap_entry?_prepared hv, List.nil_append]
  exact hreport

/-- If the emission succeeds, what was made is offered, and nothing else is. -/
lemma offers_compile_of_emitted (hv : c.services.Entering) {token : String} {r : Request} {p : Plan}
    (hp : c.plan r = .ok p) {s s' : σ} (h : c.emitted w token p s = (.ok (), s')) :
    w.offers (c.compile token r) s = w.offers (c.enterAll (c.assembled w p s)) s' := by
  rw [World.offers, World.seen, history_compile_of_emitted hp h, List.filterMap_append,
    filterMap_entry?_prepared hv, List.nil_append]
  rfl

/-! ### The entries that are never accepted -/

/-- The warning counts the entries that are never accepted, and quotes what the last of them was
answered at last. -/
lemma shortfall_filterMap (total : ℕ) {limit : ℕ} {entries : List Dashboard.Entry}
    {offers : List (Dashboard.Entry × Except Error Unit)}
    (h : ∀ e ∈ entries, Tried limit e (callsFor offers e)) :
    let refused := entries.filter fun e => !isAnswered (callsFor offers e)
    let warnings := shortfall total (entries.filterMap fun e => refusal? (callsFor offers e))
    (refused = [] → warnings = []) ∧
    (refused ≠ [] → ∃ last error, refused.getLast? = some last ∧
      outcome? (callsFor offers last) = some (.error error) ∧
      warnings = [.degraded Dashboard.service
        s!"{refused.length} of {total} records not delivered: {error.message}"]) := by
  intro refused warnings
  have herrors : entries.filterMap (fun e => refusal? (callsFor offers e)) =
      refused.filterMap fun e => refusal? (callsFor offers e) := by
    rw [List.filterMap_filter]
    refine List.filterMap_congr fun e he => ?_
    have hsome := isSome_refusal? (h e he)
    split
    · rfl
    · next hanswered => simpa [hanswered] using hsome
  have hall : ∀ e ∈ refused, (refusal? (callsFor offers e)).isSome := by
    intro e he
    obtain ⟨hmem, hrefused⟩ := List.mem_filter.1 he
    rw [isSome_refusal? (h e hmem)]
    exact hrefused
  constructor
  · intro hnil
    have hwarnings : warnings = shortfall total [] := by
      rw [← List.filterMap_nil (f := fun e => refusal? (callsFor offers e)), ← hnil, ← herrors]
    exact hwarnings
  · intro hne
    obtain ⟨front, last, hlast⟩ : ∃ front last, refused = front ++ [last] :=
      ⟨_, _, (List.dropLast_append_getLast hne).symm⟩
    obtain ⟨error, herror⟩ := Option.isSome_iff_exists.1
      (hall last (hlast ▸ List.mem_append_right _ (List.mem_singleton_self last)))
    have houtcome : outcome? (callsFor offers last) = some (.error error) := by
      obtain ⟨answer, hanswer, herrorOf⟩ := Option.bind_eq_some_iff.1 herror
      rw [hanswer]
      cases answer with
      | ok u => cases herrorOf
      | error e =>
        cases herrorOf
        rfl
    refine ⟨last, error, by rw [hlast, List.getLast?_concat], houtcome, ?_⟩
    have hlength : (refused.filterMap fun e => refusal? (callsFor offers e)).length =
        refused.length := List.filterMap_length_eq_length.2 hall
    have hgetLast : (refused.filterMap fun e => refusal? (callsFor offers e)).getLast? =
        some error := by
      rw [hlast, List.filterMap_append, List.filterMap_cons, herror, List.filterMap_nil,
        List.getLast?_concat]
    show shortfall total _ = _
    rw [herrors, shortfall, hgetLast, hlength]

/-- The warnings of the placement service are not those of the dashboard. -/
lemma ne_of_mem_placementWarnings {p : Plan} {s : σ} {warning : Warning}
    (h : warning ∈ c.placementWarnings w p s) (message : String) :
    warning ≠ .degraded Dashboard.service message := by
  have hservice : placementName ≠ Dashboard.service := by decide
  rcases mem_warnings_resolveUrls _ _ _ h with ⟨job, unresolved, rfl⟩ | ⟨text, rfl⟩
  · nofun
  · exact fun heq => hservice (Warning.degraded.inj heq).1

/-- **Entries are offered one by one.**  In every world, whatever its dashboard answers, let a
request have a plan.  The entries of what is made for it are that of the task and those of its jobs
in the order of their numbers, no two of them the same.  If the emission fails, the dashboard is not
offered anything, and the compilation fails.  If it succeeds, so does the compilation, and all that
it does after the emission is to enter what was made.  The dashboard is then offered these entries
one after another, each of them at least once and at most as often as there are attempts, not again
after it was accepted, and up to the limit if it never is; what it accepts are entries in their
order, each of them once.  If it accepts all of them, no warning is added.  If not, one warning is
added at the end: it counts those that were never accepted among all of them, and quotes the error
with which the last of these was refused at last.  No other warning is about the dashboard. -/
theorem entries_offered (w : World σ) (c : Compiler) (hv : c.services.Entering)
    (process call : ℕ) (r : Request) (p : Plan) (hp : c.plan r = .ok p) (s : σ) :
    let token := Emission.token process call
    let made := c.assembled w p s
    let offers := w.offers (c.compile token r) s
    let refused := made.entries.filter fun e => !isAnswered (callsFor offers e)
    made.entries.Nodup ∧
    made.jobEntries.map (·.bossId) = (List.range' 1 p.jobCount).map toString ∧
    (∀ f, (c.emitted w token p s).1 = .error f →
      offers = [] ∧ (compiled w c process call r s).1 = .error (.other f)) ∧
    ((c.emitted w token p s).1 = .ok () →
      (∃ before, w.history (c.compile token r) s =
          before ++ w.history (c.enterAll made) (c.emitted w token p s).2 ∧
        ∀ event ∈ before, Event.entry? event = none) ∧
      offers = made.entries.flatMap (callsFor offers) ∧
      (∀ e ∈ made.entries, Tried (max 1 c.retry.limit) e (callsFor offers e)) ∧
      (offers.filter fun call => call.2.isOk).map Prod.fst =
        made.entries.filter (fun e => isAnswered (callsFor offers e)) ∧
      (∀ warning ∈ c.placementWarnings w p s, ∀ message,
        warning ≠ .degraded Dashboard.service message) ∧
      ∃ k, (compiled w c process call r s).1 = .ok k ∧
        (refused = [] → k.warnings = c.placementWarnings w p s) ∧
        (refused ≠ [] → ∃ last error, refused.getLast? = some last ∧
          outcome? (callsFor offers last) = some (.error error) ∧
          k.warnings = c.placementWarnings w p s ++ [.degraded Dashboard.service
            s!"{refused.length} of {p.jobCount + 1} records not delivered: {error.message}"])) := by
  intro token made offers refused
  have hnodup : made.entries.Nodup := nodup_entries w hp s
  have hids : made.jobEntries.map (·.bossId) = (List.range' 1 p.jobCount).map toString :=
    map_bossId_assembled w hp s
  refine ⟨hnodup, hids, fun f hf => ?_, fun hok => ?_⟩
  · have hemitted : c.emitted w token p s = (.error f, (c.emitted w token p s).2) :=
      Prod.ext hf rfl
    refine ⟨offers_compile_of_refused hv hp hemitted, ?_⟩
    rw [compiled, run_compile_of_plan _ hp, hf]
    rfl
  · have hemitted : c.emitted w token p s = (.ok (), (c.emitted w token p s).2) :=
      Prod.ext hok rfl
    obtain ⟨rounds, hrounds, htried, hwarnings⟩ :=
      offers_enterAll (w := w) hv made (c.emitted w token p s).2
    have hoffers : offers = rounds.flatten :=
      (offers_compile_of_emitted hv hp hemitted).trans hrounds
    have hmade : ∀ e ∈ made.entries, Tried (max 1 c.retry.limit) e (callsFor offers e) := by
      intro e he
      rw [hoffers]
      exact Attempts.tried_callsFor htried hnodup he
    have hwhole : offers = made.entries.flatMap (callsFor offers) := by
      rw [hoffers]
      exact Attempts.flatten_eq_flatMap htried hnodup
    have hdelivered := Attempts.map_filter_flatMap hmade
    rw [← hwhole] at hdelivered
    have herrors : rounds.filterMap refusal? =
        made.entries.filterMap fun e => refusal? (callsFor offers e) := by
      rw [Attempts.eq_map_callsFor htried hnodup, ← hoffers, List.filterMap_map]
      rfl
    have hrun := run_compile_of_plan (w := w) token hp s
    rw [hok, hwarnings, length_entries w hp, herrors] at hrun
    obtain ⟨hall, hsome⟩ := shortfall_filterMap (p.jobCount + 1) hmade
    refine ⟨⟨_, history_compile_of_emitted hp hemitted,
        List.filterMap_eq_nil_iff.1 (filterMap_entry?_prepared hv token p s)⟩, hwhole, hmade,
      hdelivered, fun warning hw => ne_of_mem_placementWarnings hw, _, hrun, fun hnil => ?_,
      fun hne => ?_⟩
    · rw [hall hnil, List.append_nil]
    · obtain ⟨last, error, hlast, houtcome, hwarning⟩ := hsome hne
      exact ⟨last, error, hlast, houtcome, by rw [hwarning]⟩

lemma entering_external : Services.external.Entering :=
  { enterTask := fun _ => rfl
    enterJob := fun _ => rfl
    resolve := fun _ _ => Program.within_perform fun _ => rfl
    noteFailure := fun _ => Program.within_perform fun _ => rfl }

/-- A world in which the dashboard refuses the entry of the second job. -/
def choosy : World Stage := Stage.world ⟨[], .first 0, .refuseJob "2", .first 0⟩

/-- The sample request has three jobs, and there is one warning about a dashboard that refuses one
of them. -/
theorem entries_offered_choosy :
    ∃ p k, ∃ error : Error, (sample .external).plan .sample = .ok p ∧
      (compiled choosy (sample .external) 1 0 .sample .empty).1 = .ok k ∧
      k.warnings = (sample .external).placementWarnings choosy p .empty ++
        [.degraded Dashboard.service s!"{1} of {4} records not delivered: {error.message}"] := by
  have hcompiled : (compiled choosy (sample .external) 1 0 .sample .empty).1.isOk = true := by
    decide +kernel
  have hrefused : ((sample .external).plan .sample).toOption.map (fun p =>
      (p.jobCount, (((sample .external).assembled choosy p .empty).entries.filter fun e =>
        !isAnswered (callsFor (choosy.offers ((sample .external).compile (Emission.token 1 0)
          .sample) .empty) e)).length)) = some (3, 1) := by decide +kernel
  obtain ⟨p, hp, hcounts⟩ := exists_of_map_toOption hrefused
  obtain ⟨hjobs, hone⟩ := Prod.mk.inj hcounts
  obtain ⟨-, -, herror, hok⟩ :=
    entries_offered choosy (sample .external) entering_external 1 0 .sample p hp .empty
  cases hemitted : ((sample .external).emitted choosy (Emission.token 1 0) p .empty).1 with
  | error f =>
    rw [(herror f hemitted).2] at hcompiled
    cases hcompiled
  | ok u =>
    obtain ⟨-, -, -, -, -, k, hk, -, hwarnings⟩ := hok hemitted
    have hne := List.ne_nil_of_length_pos (Nat.lt_of_lt_of_eq Nat.zero_lt_one hone.symm)
    obtain ⟨last, error, -, -, hwarning⟩ := hwarnings hne
    rw [hone, hjobs] at hwarning
    exact ⟨p, k, error, hp, hk, hwarning⟩

end Compiler

end JobGraph
