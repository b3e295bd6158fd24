import JobGraph.Proofs.Compilation.Asking
import JobGraph.Proofs.Plan.Outputs
import JobGraph.Rehearsal.Sample
import JobGraph.Rehearsal.Stage

/-!
# Outages of the placement service

The placement service is asked for the URLs of one job after another, and again while it fails.  A
service with a state of its own can fail whenever it likes; if the answers that it does give depend
on the query alone, then it is compared with the service that gives the same answers and never
fails.  As long as it does not fail too often for a job, the two cannot be told apart by what is
compiled.  Once it does, the jobs from that one on go without URLs, and the service is not asked any
more.

The main result is `Compiler.outage_degrades`.
-/

namespace JobGraph

open Attempts (Tried GivenUp callsFor isAnswered outcome?)

/-- A placement service with a state of its own. -/
abbrev PlacementService (τ : Type) : Type :=
  List String → List String → τ → Except Error UrlMap × τ

namespace PlacementService

/-- The answers of the service, when it does not fail, depend on the query alone. -/
def Steady {τ : Type} (service : PlacementService τ) (urls : List String → List String → UrlMap) :
    Prop :=
  ∀ sites paths t m, (service sites paths t).1 = .ok m → m = urls sites paths

/-- The service that gives these answers and never fails. -/
def unfailing (urls : List String → List String → UrlMap) : PlacementService Unit :=
  fun sites paths t => (.ok (urls sites paths), t)

end PlacementService

/-- What the placement service was asked in an event, with its answer. -/
def Event.query? : Event → Option ((List String × List String) × Except Error UrlMap)
  | ⟨.resolve sites paths, answer⟩ => some ((sites, paths), answer)
  | _ => none

/-- The effect is a call of the placement service. -/
def Effect.IsQuery (e : Effect) : Prop := ∃ sites paths, e = .resolve sites paths

/-- URLs are asked for at the placement service of the world, and no other service calls it. -/
structure Services.Placing (v : Services) : Prop where
  resolve : ∀ sites paths, v.resolve sites paths = .perform (.resolve sites paths)
  enterTask : ∀ entry,
    (v.enterTask entry).Within (Effect.Unseen Event.query?) fun _ => True
  enterJob : ∀ entry,
    (v.enterJob entry).Within (Effect.Unseen Event.query?) fun _ => True
  noteFailure : ∀ notice,
    (v.noteFailure notice).Within (Effect.Unseen Event.query?) fun _ => True

variable {σ τ α : Type}

namespace World

variable {w : World σ}

/-- What the placement service is asked during a run, with its answers. -/
def queries (w : World σ) (p : Program α) (s : σ) :
    List ((List String × List String) × Except Error UrlMap) :=
  w.seen Event.query? p s

/-- The world with another placement service, which has a state of its own. -/
def placing (w : World σ) (service : PlacementService τ) : World (σ × τ) where
  answer
    | .resolve sites paths, (s, t) =>
      let (answer, t) := service sites paths t
      (answer, (s, t))
    | e, (s, t) =>
      let (answer, s) := w.answer e s
      (answer, (s, t))

/-- A program that does not ask the placement service is run as it would be without it. -/
lemma run_placing (service : PlacementService τ) {P : α → Prop} {p : Program α}
    (hp : p.Within (Effect.Unseen Event.query?) P) (s : σ) (t : τ) :
    (w.placing service).run p (s, t) = ((w.run p s).1, ((w.run p s).2, t)) := by
  induction p generalizing s with
  | done a => rfl
  | step e next ih =>
    obtain ⟨he, hnext⟩ := hp
    cases e with
    | resolve sites paths => cases he (.ok ⟨fun _ _ => none⟩)
    | _ => exact ih _ (hnext _) _

/-- All answers to queries are answers of the service. -/
lemma answer_of_mem_queries (service : PlacementService τ) (p : Program α) (st : σ × τ) :
    ∀ call ∈ (w.placing service).queries p st, ∃ t, call.2 = (service call.1.1 call.1.2 t).1 := by
  induction p generalizing st with
  | done a => exact fun call hcall => absurd hcall List.not_mem_nil
  | step e next ih =>
    cases e with
    | resolve sites paths =>
      intro call hcall
      rcases List.mem_cons.1 hcall with rfl | hcall
      · exact ⟨st.2, rfl⟩
      · exact ih _ _ call hcall
    | _ => exact ih _ _

end World

/-! ### One job after another -/

namespace PlannedJob

variable (urls : List String → List String → UrlMap) (site : String) (job : PlannedJob)

/-- What the placement service is asked for a job. -/
def query : List String × List String :=
  (Placement.variants site, Placement.logicalPaths job.directories.dest job.manifest)

/-- The files of a job with and without a URL, as the service answers the query. -/
def resolvedAt : Placement.Resolved :=
  Placement.resolve (urls (job.query site).1 (job.query site).2) (job.query site).1
    (job.query site).2

/-- The job with its URLs. -/
def locatedAt : PlannedJob :=
  { job with urls := (job.resolvedAt urls site).urls }

/-- The warning about files of the job without a URL, if there are any. -/
def unplacedAt : List Warning :=
  Compiler.unplacedWarnings site job (job.resolvedAt urls site)

end PlannedJob

namespace Compiler

variable {w : World σ} {c : Compiler} {service : PlacementService τ}
  {urls : List String → List String → UrlMap} {site : String} {limit : ℕ}

/-- How jobs are asked for: what is asked for each of them, and what comes of it.  The first job for
which the service fails to the last is the last one that is asked for. -/
inductive Asked (limit : ℕ) (urls : List String → List String → UrlMap) (site : String) :
    List PlannedJob → List (List ((List String × List String) × Except Error UrlMap)) →
      List PlannedJob × List Warning → Prop where
  | done : Asked limit urls site [] [] ([], [])
  | failed {job : PlannedJob} {jobs : List PlannedJob}
      {calls : List ((List String × List String) × Except Error UrlMap)} {e : Error}
      (h : Tried limit (job.query site) calls) (hlast : outcome? calls = some (.error e)) :
      Asked limit urls site (job :: jobs) [calls]
        (job :: jobs, [.degraded placementName e.message])
  | answered {job : PlannedJob} {jobs : List PlannedJob}
      {calls : List ((List String × List String) × Except Error UrlMap)}
      {rounds : List (List ((List String × List String) × Except Error UrlMap))}
      {located : List PlannedJob} {warnings : List Warning} {m : UrlMap}
      (h : Tried limit (job.query site) calls) (hlast : outcome? calls = some (.ok m))
      (hrest : Asked limit urls site jobs rounds (located, warnings)) :
      Asked limit urls site (job :: jobs) (calls :: rounds)
        (job.locatedAt urls site :: located, job.unplacedAt urls site ++ warnings)

/-- Asking once for the URLs of a job is one call of the service. -/
lemma queries_askUrls (hv : c.services.Placing) (site : String) (job : PlannedJob) (st : σ × τ) :
    ∃ answer, (w.placing service).seen Event.query? (c.askUrls site job) st =
        [(job.query site, answer)] ∧
      ((w.placing service).run (c.askUrls site job) st).1 =
        answer.map fun m => Placement.resolve m (job.query site).1 (job.query site).2 := by
  refine ⟨((w.placing service).run (c.services.resolve (job.query site).1 (job.query site).2) st).1,
    ?_, ?_⟩
  · rw [askUrls, Services.locate, hv.resolve, hv.resolve, World.seen_bind]
    split
    all_goals rfl
  · rw [askUrls, Services.locate, World.run_bind]
    split
    all_goals
      next hanswer =>
      exact (congrArg (Except.map fun m => Placement.resolve m (job.query site).1
        (job.query site).2) hanswer).symm

/-- **One job after another.**  What jobs come to is told by what is asked for them. -/
theorem asked_resolveUrls (hv : c.services.Placing) (hsteady : service.Steady urls) (site : String)
    (jobs : List PlannedJob) (st : σ × τ) :
    ∃ rounds, (w.placing service).queries (c.resolveUrls site jobs) st = rounds.flatten ∧
      Asked (max 1 c.retry.limit) urls site jobs rounds
        ((w.placing service).run (c.resolveUrls site jobs) st).1 := by
  induction jobs generalizing st with
  | nil => exact ⟨[], rfl, .done⟩
  | cons job jobs ih =>
    obtain ⟨htried, answer, houtcome, hrun⟩ :=
      Attempts.tried_run (w := w.placing service) (queries_askUrls hv site job) c.retry st
    rw [resolveUrls, World.queries, World.seen_bind, World.run_bind, hrun]
    cases answer with
    | error e =>
      refine ⟨[(w.placing service).queries (c.retry.run (c.askUrls site job)) st], ?_,
        .failed htried houtcome⟩
      rw [List.flatten_singleton]
      exact List.append_nil _
    | ok m =>
      obtain ⟨rounds, hqueries, hasked⟩ :=
        ih ((w.placing service).run (c.retry.run (c.askUrls site job)) st).2
      -- the answer is one of the service
      have hm : m = urls (job.query site).1 (job.query site).2 := by
        obtain ⟨front, last, hcalls, hlast, -⟩ := htried.exists_eq_append
        obtain rfl : last = .ok m := Option.some.inj (hlast.symm.trans houtcome)
        obtain ⟨t, ht⟩ := World.answer_of_mem_queries service (c.retry.run (c.askUrls site job)) st
          (job.query site, .ok m) (by rw [World.queries, hcalls]; simp)
        exact hsteady _ _ t m ht.symm
      subst hm
      refine ⟨(w.placing service).queries (c.retry.run (c.askUrls site job)) st :: rounds, ?_, ?_⟩
      · dsimp only [Except.map]
        rw [World.seen_bind, World.seen_pure, List.append_nil, List.flatten_cons, ← hqueries]
        rfl
      · dsimp only [Except.map]
        rw [World.run_bind, World.run_pure]
        exact .answered htried houtcome hasked

/-- The service is asked for one job after another, each time until it answers. -/
structure Served (limit : ℕ) (site : String) (jobs : List PlannedJob)
    (rounds : List (List ((List String × List String) × Except Error UrlMap))) : Prop where
  tried : List.Forall₂ (Tried limit) (jobs.map (·.query site)) rounds
  answered : ∀ calls ∈ rounds, isAnswered calls = true

lemma Served.nil (limit : ℕ) (site : String) : Served limit site [] [] :=
  ⟨.nil, nofun⟩

lemma Served.cons {job : PlannedJob} {jobs : List PlannedJob}
    {calls : List ((List String × List String) × Except Error UrlMap)}
    {rounds : List (List ((List String × List String) × Except Error UrlMap))}
    (htried : Tried limit (job.query site) calls) (hcalls : isAnswered calls = true)
    (h : Served limit site jobs rounds) : Served limit site (job :: jobs) (calls :: rounds) :=
  ⟨.cons htried h.tried, List.forall_mem_cons.2 ⟨hcalls, h.answered⟩⟩

namespace Asked

variable {jobs : List PlannedJob}
  {rounds : List (List ((List String × List String) × Except Error UrlMap))}
  {result : List PlannedJob × List Warning}

/-- Either the service answers for all jobs, or there is a first one for which it fails to the last,
and that is the end. -/
lemma cases_failed (h : Asked limit urls site jobs rounds result) :
    (Served limit site jobs rounds ∧
      result = (jobs.map (·.locatedAt urls site), jobs.flatMap (·.unplacedAt urls site))) ∨
    ∃ before job rest earlier calls e, jobs = before ++ job :: rest ∧
      rounds = earlier ++ [calls] ∧ Served limit site before earlier ∧
      Tried limit (job.query site) calls ∧ outcome? calls = some (.error e) ∧
      result = (before.map (·.locatedAt urls site) ++ job :: rest,
        before.flatMap (·.unplacedAt urls site) ++ [.degraded placementName e.message]) := by
  induction h with
  | done => exact Or.inl ⟨.nil limit site, rfl⟩
  | @failed job jobs calls e h hlast =>
    exact Or.inr ⟨[], job, jobs, [], calls, e, rfl, rfl, .nil limit site, h, hlast, rfl⟩
  | @answered job jobs calls rounds located warnings m h hlast hrest ih =>
    have hcalls : isAnswered calls = true := h.isAnswered_eq hlast
    rcases ih with ⟨hserved, hresult⟩ |
      ⟨before, job', rest, earlier, last, e, hjobs, hrounds, hserved, hjob, he, hresult⟩
    · obtain ⟨rfl, rfl⟩ := Prod.mk.inj hresult
      exact Or.inl ⟨hserved.cons h hcalls, rfl⟩
    · obtain ⟨rfl, rfl⟩ := Prod.mk.inj hresult
      refine Or.inr ⟨job :: before, job', rest, calls :: earlier, last, e, by rw [hjobs]; rfl,
        by rw [hrounds]; rfl, hserved.cons h hcalls, hjob, he, ?_⟩
      rw [List.flatMap_cons, List.append_assoc]
      rfl

end Asked

/-! ### The service that never fails -/

lemma steady_unfailing (urls : List String → List String → UrlMap) :
    (PlacementService.unfailing urls).Steady urls :=
  fun _ _ _ _ h => (Except.ok.inj h).symm

/-- If the service never fails, it is asked for all jobs. -/
lemma run_resolveUrls_unfailing (hv : c.services.Placing)
    (urls : List String → List String → UrlMap) (site : String) (jobs : List PlannedJob) (s : σ) :
    ((w.placing (.unfailing urls)).run (c.resolveUrls site jobs) (s, ())).1 =
      (jobs.map (·.locatedAt urls site), jobs.flatMap (·.unplacedAt urls site)) := by
  obtain ⟨rounds, hqueries, hasked⟩ :=
    asked_resolveUrls (w := w) hv (steady_unfailing urls) site jobs (s, ())
  rcases hasked.cases_failed with ⟨-, hresult⟩ |
    ⟨before, job, rest, earlier, calls, e, -, hrounds, -, -, he, -⟩
  · exact hresult
  · exfalso
    -- a last answer would be an error, and the service gives none
    obtain ⟨call, hcall, herror⟩ : ∃ call ∈ calls, call.2 = .error e := by
      obtain ⟨call, hcall, herror⟩ := Option.map_eq_some_iff.1 he
      exact ⟨call, List.mem_of_getLast? hcall, herror⟩
    have hmem : call ∈ (w.placing (.unfailing urls)).queries (c.resolveUrls site jobs) (s, ()) := by
      rw [hqueries, hrounds, List.flatten_append, List.flatten_singleton]
      exact List.mem_append_right _ hcall
    obtain ⟨t, ht⟩ := World.answer_of_mem_queries _ _ _ call hmem
    rw [herror] at ht
    cases ht

/-! ### Whole compilations -/

/-- Asking for URLs leaves everything else as it is. -/
lemma fst_run_resolveUrls (hv : c.services.Placing) (service : PlacementService τ) (site : String)
    (jobs : List PlannedJob) (s : σ) (t : τ) :
    ((w.placing service).run (c.resolveUrls site jobs) (s, t)).2.1 = s := by
  have hresolve : ∀ sites paths,
      (c.services.resolve sites paths).Within Effect.IsQuery fun _ => True := by
    intro sites paths
    rw [hv.resolve]
    exact Program.within_perform ⟨sites, paths, rfl⟩
  have hkeep : ∀ (e : Effect) (st : σ × τ), e.IsQuery → st.1 = s →
      ((w.placing service).answer e st).2.1 = s := by
    rintro e st ⟨sites, paths, rfl⟩ hst
    exact hst
  exact (within_resolveUrls hresolve site jobs).after (I := fun st : σ × τ => st.1 = s) hkeep rfl

/-- What a compilation asks the placement service are the queries for the jobs of its plan. -/
lemma queries_compile (hv : c.services.Placing) (token : String) {r : Request} {p : Plan}
    (hp : c.plan r = .ok p) (st : σ × τ) :
    (w.placing service).queries (c.compile token r) st =
      (w.placing service).queries (c.resolveUrls p.task.asyncDest p.jobs) st := by
  rw [compile_eq_bind token hp, World.queries, World.seen_bind]
  have hrest := within_guarded hv.noteFailure r.task (within_carryOn hv.enterTask hv.enterJob
    (fun _ _ => rfl) token p
    ((w.placing service).run (c.resolveUrls p.task.asyncDest p.jobs) st).1)
  rw [World.seen_eq_nil hrest, List.append_nil, World.queries]

/-- What the jobs of a compilation come to is told by what it asks the placement service. -/
lemma asked_compile (hv : c.services.Placing) (hsteady : service.Steady urls) (token : String)
    {r : Request} {p : Plan} (hp : c.plan r = .ok p) (st : σ × τ) :
    ∃ rounds, (w.placing service).queries (c.compile token r) st = rounds.flatten ∧
      Asked (max 1 c.retry.limit) urls p.task.asyncDest p.jobs rounds
        ((w.placing service).run (c.resolveUrls p.task.asyncDest p.jobs) st).1 := by
  obtain ⟨rounds, hqueries, hasked⟩ := asked_resolveUrls (w := w) hv hsteady
    p.task.asyncDest p.jobs st
  exact ⟨rounds, (queries_compile hv token hp st).trans hqueries, hasked⟩

/-- What a compilation comes to is settled by what its jobs come to. -/
lemma compiled_placing (hv : c.services.Placing) (process call : ℕ) {r : Request} {p : Plan}
    (hp : c.plan r = .ok p) {s : σ} {t : τ} {located : List PlannedJob × List Warning}
    (h : ((w.placing service).run (c.resolveUrls p.task.asyncDest p.jobs) (s, t)).1 = located) :
    let result := w.run (FailureReport.guarded c.services.noteFailure c.retry r.task
      (c.carryOn (Emission.token process call) p located)) s
    ∃ t', compiled (w.placing service) c process call r (s, t) = (result.1, (result.2, t')) := by
  have hstate := fst_run_resolveUrls (w := w) hv service p.task.asyncDest p.jobs s t
  have hrest := within_guarded hv.noteFailure r.task (within_carryOn hv.enterTask hv.enterJob
    (fun _ _ => rfl) (Emission.token process call) p located)
  rw [compiled, compile_eq_bind _ hp, World.run_bind]
  generalize (w.placing service).run (c.resolveUrls p.task.asyncDest p.jobs) (s, t) = asked at *
  obtain ⟨located', s', t'⟩ := asked
  obtain rfl : located' = located := h
  obtain rfl : s' = s := hstate
  exact ⟨t', World.run_placing service hrest s' t'⟩

/-- A request without a plan does not ask the placement service. -/
lemma compiled_placing_of_error (hv : c.services.Placing) (process call : ℕ) {r : Request}
    {e : Error} (h : c.plan r = .error e) (s : σ) (t : τ) :
    compiled (w.placing service) c process call r (s, t) =
      ((compiled w c process call r s).1, ((compiled w c process call r s).2, t)) := by
  have hwithin : (c.compile (Emission.token process call) r).Within
      (Effect.Unseen Event.query?) fun _ => True := by
    rw [compile, h]
    exact within_guarded hv.noteFailure r.task (Program.within_pure trivial)
  exact World.run_placing service hwithin s t

/-- The service is not asked the same for two jobs of a plan. -/
lemma nodup_query {r : Request} {p : Plan} (hp : c.plan r = .ok p) (site : String) :
    (p.jobs.map (·.query site)).Nodup := by
  refine List.Nodup.of_map Prod.snd ?_
  rw [List.map_map]
  exact Plan.nodup_paths hp

/-- If no job is given up, the service answers for all of them, and the jobs come to what they come
to without an outage. -/
lemma eq_of_not_givenUp {jobs : List PlannedJob}
    {rounds : List (List ((List String × List String) × Except Error UrlMap))}
    {result : List PlannedJob × List Warning} (hasked : Asked limit urls site jobs rounds result)
    (h : ∀ job ∈ jobs, ¬ GivenUp limit rounds.flatten (job.query site)) :
    Served limit site jobs rounds ∧
    result = (jobs.map (·.locatedAt urls site), jobs.flatMap (·.unplacedAt urls site)) := by
  rcases hasked.cases_failed with hserved |
    ⟨before, job, rest, earlier, failed, e, hjobs, hrounds, -, hlast, he, -⟩
  · exact hserved
  · -- asking ends at a job that is given up
    exfalso
    have hmem : job ∈ jobs := hjobs ▸ List.mem_append_cons_self
    have hwithin : failed <:+: rounds.flatten := by
      rw [hrounds]
      exact List.infix_of_mem_flatten (List.mem_append_right _ (List.mem_singleton_self _))
    exact h job hmem (hlast.givenUp (hlast.isAnswered_eq he) hwithin)

/-- A list is cut in one way at the first element with a property. -/
lemma eq_of_first {P : α → Prop} {as as' bs bs' : List α} {b b' : α}
    (h : as ++ b :: bs = as' ++ b' :: bs') (has : ∀ a ∈ as, ¬ P a) (hb : P b)
    (has' : ∀ a ∈ as', ¬ P a) (hb' : P b') : as = as' ∧ b = b' ∧ bs = bs' := by
  induction as generalizing as' with
  | nil =>
    cases as' with
    | nil =>
      obtain ⟨rfl, rfl⟩ := List.cons.inj h
      exact ⟨rfl, rfl, rfl⟩
    | cons a as' =>
      obtain rfl := (List.cons.inj h).1
      exact absurd hb (has' b List.mem_cons_self)
  | cons a as ih =>
    cases as' with
    | nil =>
      obtain rfl := (List.cons.inj h).1
      exact absurd hb' (has a List.mem_cons_self)
    | cons a' as' =>
      obtain ⟨rfl, htail⟩ := List.cons.inj h
      rw [List.forall_mem_cons] at has has'
      obtain ⟨rfl, rfl, rfl⟩ := ih htail has.2 has'.2
      exact ⟨rfl, rfl, rfl⟩

/-- The first job for which the service fails too often is the one at which asking ends. -/
lemma eq_of_first_givenUp {jobs before rest : List PlannedJob} {job : PlannedJob}
    {rounds : List (List ((List String × List String) × Except Error UrlMap))}
    {result : List PlannedJob × List Warning} (hlimit : 1 ≤ limit)
    (hasked : Asked limit urls site jobs rounds result)
    (hnodup : (jobs.map (·.query site)).Nodup) (hjobs : jobs = before ++ job :: rest)
    (hbefore : ∀ b ∈ before, ¬ GivenUp limit rounds.flatten (b.query site))
    (hjob : GivenUp limit rounds.flatten (job.query site)) :
    ∃ earlier failed e, rounds = earlier ++ [failed] ∧ Served limit site before earlier ∧
      Tried limit (job.query site) failed ∧ outcome? failed = some (.error e) ∧
      result = (before.map (·.locatedAt urls site) ++ job :: rest,
        before.flatMap (·.unplacedAt urls site) ++ [.degraded placementName e.message]) := by
  rcases hasked.cases_failed with ⟨hserved, -⟩ |
    ⟨before', job', rest', earlier, failed, e, hjobs', hrounds, hserved, hlast, he, hresult⟩
  · -- if the service answers for all jobs, none is given up
    exfalso
    obtain ⟨hmem, hrefused⟩ := (Attempts.givenUp_iff hserved.tried hnodup hlimit).1 hjob
    rw [Attempts.isAnswered_callsFor hserved.tried hserved.answered (List.Subset.refl _) hmem]
      at hrefused
    cases hrefused
  · have hflatten : rounds.flatten = earlier.flatten ++ failed := by
      rw [hrounds, List.flatten_append, List.flatten_singleton]
    have hwhole : List.Forall₂ (Tried limit) ((before' ++ [job']).map (·.query site)) rounds := by
      rw [hrounds, List.map_append]
      exact List.rel_append hserved.tried (.cons hlast .nil)
    have hnodup' : ((before' ++ [job']).map (·.query site)).Nodup := by
      rw [hjobs', List.append_cons before' job' rest', List.map_append] at hnodup
      exact (List.nodup_append.1 hnodup).1
    -- the job at which asking ends is given up, and none before it is
    have hjob' : GivenUp limit rounds.flatten (job'.query site) := by
      refine hlast.givenUp (hlast.isAnswered_eq he) ?_
      rw [hflatten]
      exact (List.suffix_append _ _).isInfix
    have hbefore' : ∀ b ∈ before', ¬ GivenUp limit rounds.flatten (b.query site) := by
      intro b hb hgiven
      have hrefused := ((Attempts.givenUp_iff hwhole hnodup' hlimit).1 hgiven).2
      have hsub : earlier.flatten ⊆ rounds.flatten := by
        rw [hflatten]
        exact List.subset_append_left _ _
      rw [Attempts.isAnswered_callsFor hserved.tried hserved.answered hsub
        (List.mem_map_of_mem hb)] at hrefused
      cases hrefused
    obtain ⟨rfl, rfl, rfl⟩ := eq_of_first (hjobs.symm.trans hjobs') hbefore hjob hbefore' hjob'
    exact ⟨earlier, failed, e, hrounds, hserved, hlast, he, hresult⟩

/-- Without an outage every job has the URLs that the answer to its query holds, and there are
warnings about all files without a URL. -/
lemma located_unfailing (hv : c.services.Placing) (urls : List String → List String → UrlMap)
    (p : Plan) (s : σ) :
    c.located (w.placing (.unfailing urls)) p (s, ()) =
      p.jobs.map (·.locatedAt urls p.task.asyncDest) ∧
    c.placementWarnings (w.placing (.unfailing urls)) p (s, ()) =
      p.jobs.flatMap (·.unplacedAt urls p.task.asyncDest) := by
  rw [located, placementWarnings, run_resolveUrls_unfailing hv]
  exact ⟨rfl, rfl⟩

/-- A compilation cannot tell two services apart if its jobs come to the same with both of them. -/
lemma compiled_congr {τ' : Type} {service' : PlacementService τ'} (hv : c.services.Placing)
    (process call : ℕ) {r : Request} {p : Plan} (hp : c.plan r = .ok p) {s : σ} {t : τ} {t' : τ'}
    (hlocated : c.located (w.placing service) p (s, t) = c.located (w.placing service') p (s, t'))
    (hwarnings : c.placementWarnings (w.placing service) p (s, t) =
      c.placementWarnings (w.placing service') p (s, t')) :
    (compiled (w.placing service) c process call r (s, t)).1 =
      (compiled (w.placing service') c process call r (s, t')).1 ∧
    (compiled (w.placing service) c process call r (s, t)).2.1 =
      (compiled (w.placing service') c process call r (s, t')).2.1 := by
  have hasked : ((w.placing service).run (c.resolveUrls p.task.asyncDest p.jobs) (s, t)).1 =
      ((w.placing service').run (c.resolveUrls p.task.asyncDest p.jobs) (s, t')).1 :=
    Prod.ext hlocated hwarnings
  obtain ⟨t₁, h₁⟩ := compiled_placing hv process call hp hasked
  obtain ⟨t₂, h₂⟩ := compiled_placing hv process call hp hasked.symm
  rw [h₁, h₂, hasked]
  exact ⟨rfl, rfl⟩

/-- **Outages of the placement service.**  In every world, let a placement service have a state of
its own, and let its answers depend on the query alone when it does not fail.  It is compared with
the service that gives the same answers and never fails, with which every job has the URLs that the
answer to its query holds.  If the service does not fail for any job as often in a row as it may be
asked, then it is asked for one job after another until it answers, and the compilation comes to the
same in all respects.  If it does, take the first such job.  The service is asked for the jobs
before it until it answers, and they have the URLs that they have without the outage; it is then
asked for this job as often as it may be, and not any more, and this job and the others have no
URLs.  The warnings about files without a URL are those about the jobs before it, and one warning
follows that quotes the error with which the service failed at last.  The compilation still succeeds
whenever its emission does, and the dashboard is all that it may also warn of. -/
theorem outage_degrades (w : World σ) (c : Compiler) (hv : c.services.Placing)
    (service : PlacementService τ) (urls : List String → List String → UrlMap)
    (hsteady : service.Steady urls) (process call : ℕ) (r : Request) (s : σ) (t : τ) :
    let faulty := w.placing service
    let sound := w.placing (.unfailing urls)
    let limit := max 1 c.retry.limit
    let token := Emission.token process call
    let queries := faulty.queries (c.compile token r) (s, t)
    (∀ p, c.plan r = .ok p →
      c.located sound p (s, ()) = p.jobs.map (·.locatedAt urls p.task.asyncDest) ∧
      c.placementWarnings sound p (s, ()) =
        p.jobs.flatMap (·.unplacedAt urls p.task.asyncDest)) ∧
    ((∀ p, c.plan r = .ok p →
        ∀ job ∈ p.jobs, ¬ GivenUp limit queries (job.query p.task.asyncDest)) →
      (compiled faulty c process call r (s, t)).1 =
        (compiled sound c process call r (s, ())).1 ∧
      (compiled faulty c process call r (s, t)).2.1 =
        (compiled sound c process call r (s, ())).2.1 ∧
      ∀ p, c.plan r = .ok p →
        c.assembled faulty p (s, t) = c.assembled sound p (s, ()) ∧
        c.located faulty p (s, t) = c.located sound p (s, ()) ∧
        c.placementWarnings faulty p (s, t) = c.placementWarnings sound p (s, ()) ∧
        ∃ rounds, queries = rounds.flatten ∧ Served limit p.task.asyncDest p.jobs rounds) ∧
    ∀ p before job rest, c.plan r = .ok p → p.jobs = before ++ job :: rest →
      (∀ b ∈ before, ¬ GivenUp limit queries (b.query p.task.asyncDest)) →
      GivenUp limit queries (job.query p.task.asyncDest) →
      c.located faulty p (s, t) =
        (c.located sound p (s, ())).take before.length ++ job :: rest ∧
      (∀ j ∈ job :: rest, j.urls = []) ∧
      ∃ rounds failed e, queries = rounds.flatten ++ failed ∧
        Served limit p.task.asyncDest before rounds ∧ failed.length = limit ∧
        (∀ call ∈ failed, call.1 = job.query p.task.asyncDest ∧ call.2.isOk = false) ∧
        outcome? failed = some (.error e) ∧
        c.placementWarnings faulty p (s, t) =
          before.flatMap (·.unplacedAt urls p.task.asyncDest) ++
            [.degraded placementName e.message] ∧
        ∃ warnings, (∀ warning ∈ warnings, ∃ message,
            warning = .degraded Dashboard.service message) ∧
          (compiled faulty c process call r (s, t)).1 =
            ((c.emitted faulty token p (s, t)).1.mapError Error.other).map fun _ =>
              ⟨p.task.name, c.workDir p.task.name, p.jobCount, p.throttle,
                c.placementWarnings faulty p (s, t) ++ warnings⟩ := by
  intro faulty sound limit token queries
  have hlimit : 1 ≤ limit := le_max_left 1 _
  have hsound := fun p : Plan => located_unfailing (w := w) hv urls p s
  refine ⟨fun p _ => hsound p, fun hnone => ?_, fun p before job rest hp hjobs hbefore hjob => ?_⟩
  · cases hplan : c.plan r with
    | error e =>
      rw [compiled_placing_of_error hv process call hplan,
        compiled_placing_of_error hv process call hplan]
      exact ⟨rfl, rfl, fun p hp => by cases hp⟩
    | ok p =>
      obtain ⟨rounds, hqueries, hrounds⟩ := asked_compile (w := w) hv hsteady token hplan (s, t)
      have hgiven : ∀ job ∈ p.jobs,
          ¬ GivenUp limit rounds.flatten (job.query p.task.asyncDest) := by
        rw [← hqueries]
        exact hnone p hplan
      obtain ⟨hserved, hasked⟩ := eq_of_not_givenUp hrounds hgiven
      have hlocated : c.located faulty p (s, t) = c.located sound p (s, ()) := by
        rw [(hsound p).1, located, hasked]
      have hwarnings : c.placementWarnings faulty p (s, t) =
          c.placementWarnings sound p (s, ()) := by
        rw [(hsound p).2, placementWarnings, hasked]
      obtain ⟨hresult, hstate⟩ := compiled_congr hv process call hplan hlocated hwarnings
      refine ⟨hresult, hstate, fun q hq => ?_⟩
      cases hq
      refine ⟨?_, hlocated, hwarnings, rounds, hqueries, hserved⟩
      rw [assembled, assembled, rendered, rendered, hlocated]
  · obtain ⟨rounds, hqueries, hrounds⟩ := asked_compile (w := w) hv hsteady token hp (s, t)
    replace hqueries : queries = rounds.flatten := hqueries
    rw [hqueries] at hbefore hjob
    obtain ⟨earlier, failed, e, hsplit, hserved, hlast, he, hresult⟩ :=
      eq_of_first_givenUp hlimit hrounds (nodup_query hp _) hjobs hbefore hjob
    have hfailed : ∀ call ∈ failed, call.2.isOk = false := by
      intro call hcall
      simpa using List.any_eq_false.1 (hlast.isAnswered_eq he) call hcall
    refine ⟨?_, fun j hj => ?_, earlier, failed, e, ?_, hserved, hlast.exhausted hfailed,
      fun call hcall => ⟨hlast.same call hcall, hfailed call hcall⟩, he,
      by rw [placementWarnings, hresult], _, fun warning => mem_warnings_enterAll _ _,
      run_compile_of_plan _ hp _⟩
    · rw [located, hresult, (hsound p).1, hjobs, List.map_append, List.take_left' (by simp)]
    · refine ((Plan.isMade_of_plan_eq_ok hp).1 j ?_).urls
      rw [hjobs]
      exact List.mem_append_right _ hj
    · rw [hqueries, hsplit, List.flatten_append, List.flatten_singleton]

/-- **A service that never answers.**  It is asked for the first job as often as it may be and for no
other one, the jobs go on as they are, and a single warning quotes the error with which it failed at
last. -/
theorem compile_of_dead (hv : c.services.Placing)
    (hdead : ∀ sites paths t, (service sites paths t).1.isOk = false) (token : String) {r : Request}
    {p : Plan} (hp : c.plan r = .ok p) {job : PlannedJob} {rest : List PlannedJob}
    (hjobs : p.jobs = job :: rest) (st : σ × τ) :
    ∃ e, ((w.placing service).queries (c.compile token r) st).length = max 1 c.retry.limit ∧
      (∀ call ∈ (w.placing service).queries (c.compile token r) st,
        call.1 = job.query p.task.asyncDest ∧ call.2.isOk = false) ∧
      outcome? ((w.placing service).queries (c.compile token r) st) = some (.error e) ∧
      c.located (w.placing service) p st = p.jobs ∧
      c.placementWarnings (w.placing service) p st = [.degraded placementName e.message] := by
  have hsteady : service.Steady fun _ _ => .empty := by
    intro sites paths t m h
    have hfails := hdead sites paths t
    rw [h] at hfails
    cases hfails
  have hfailed : ∀ call ∈ (w.placing service).queries (c.compile token r) st,
      call.2.isOk = false := by
    intro call hcall
    obtain ⟨t, ht⟩ := World.answer_of_mem_queries service _ st call hcall
    rw [ht]
    exact hdead _ _ t
  obtain ⟨rounds, hqueries, hasked⟩ := asked_compile (w := w) hv hsteady token hp st
  -- no round is answered, so asking ends with the first one
  have hnone : ∀ calls ∈ rounds, isAnswered calls ≠ true := by
    intro calls hcalls hanswered
    obtain ⟨call, hcall, hok⟩ := List.any_eq_true.1 hanswered
    have hmem := hqueries ▸ List.mem_flatten.2 ⟨calls, hcalls, hcall⟩
    rw [hfailed call hmem] at hok
    cases hok
  rw [hjobs] at hasked
  generalize hresult :
    ((w.placing service).run (c.resolveUrls p.task.asyncDest (job :: rest)) st).1 = result at hasked
  cases hasked with
  | @failed _ _ calls e htried hlast =>
    rw [List.flatten_singleton] at hqueries
    rw [hqueries] at hfailed ⊢
    refine ⟨e, htried.exhausted hfailed,
      fun call hcall => ⟨htried.same call hcall, hfailed call hcall⟩, hlast, ?_, ?_⟩
    · rw [located, hjobs, hresult]
    · rw [placementWarnings, hjobs, hresult]
  | @answered _ _ calls rounds located warnings m htried hlast hrest =>
    exact absurd (htried.isAnswered_eq hlast) (hnone calls List.mem_cons_self)

/-- A service that answers the first call, and fails ever after. -/
def answeringOnce : PlacementService ℕ := fun _ _ calls =>
  if calls = 0 then (.ok (Stage.staticUrls ["T2_US_N"]), calls + 1)
  else (.error (.unavailable placementName "timed out"), calls + 1)

lemma steady_answeringOnce : answeringOnce.Steady fun _ _ => Stage.staticUrls ["T2_US_N"] := by
  intro sites paths calls m h
  rw [answeringOnce] at h
  split at h
  · exact (Except.ok.inj h).symm
  · cases h

lemma placing_external : Services.external.Placing :=
  { resolve := fun _ _ => rfl
    enterTask := fun _ => Program.within_perform fun _ => rfl
    enterJob := fun _ => Program.within_perform fun _ => rfl
    noteFailure := fun _ => Program.within_perform fun _ => rfl }

/-- A world with that service, in which all others work. -/
def fading : World (Stage × ℕ) := Stage.obliging.placing answeringOnce

/-- What the sample request asks of it. -/
def faded : List ((List String × List String) × Except Error UrlMap) :=
  fading.queries ((sample .external).compile (Emission.token 1 0) .sample) (.empty, 0)

/-- The plan has three jobs, the service answers for the first one, and it fails three times for the
second one. -/
def fades (p : Plan) : Bool :=
  match p.jobs.map (·.query p.task.asyncDest) with
  | [a, b, _] =>
    a ≠ b ∧ faded.map (fun call => (call.1, call.2.isOk)) =
      [(a, true), (b, false), (b, false), (b, false)]
  | _ => false

lemma givenUp_of_fades {p : Plan} (h : fades p = true) :
    ∃ a b d, p.jobs = [a, b, d] ∧
      faded.map (fun call => (call.1, call.2.isOk)) =
        [(a.query p.task.asyncDest, true), (b.query p.task.asyncDest, false),
          (b.query p.task.asyncDest, false), (b.query p.task.asyncDest, false)] ∧
      ¬ GivenUp 3 faded (a.query p.task.asyncDest) ∧ GivenUp 3 faded (b.query p.task.asyncDest) := by
  rw [fades] at h
  split at h
  · next qa qb qd hqueries =>
    obtain ⟨hne, hcalls⟩ := of_decide_eq_true h
    obtain ⟨a, jobs, hjobs, rfl, htail⟩ := List.map_eq_cons_iff.1 hqueries
    obtain ⟨b, jobs, rfl, rfl, hlast⟩ := List.map_eq_cons_iff.1 htail
    obtain ⟨d, rfl, -⟩ := List.map_eq_singleton_iff.1 hlast
    refine ⟨a, b, d, hjobs, hcalls, ?_, faded.drop 1, (List.drop_suffix 1 _).isInfix, ?_, ?_⟩
    · rintro ⟨failed, hwithin, hlength, hfailed⟩
      have hpos : 0 < failed.length := by omega
      obtain ⟨call, hcall⟩ := List.exists_mem_of_length_pos hpos
      obtain ⟨hsame, hrefused⟩ := hfailed call hcall
      have hmem := List.mem_map_of_mem (f := fun call => (call.1, call.2.isOk))
        (hwithin.subset hcall)
      rw [hcalls, hsame, hrefused] at hmem
      simp [hne] at hmem
    · have hlength := congrArg List.length hcalls
      rw [List.length_map] at hlength
      rw [List.length_drop, hlength]
      rfl
    · intro call hcall
      have hmem := List.mem_map_of_mem (f := fun call => (call.1, call.2.isOk)) hcall
      rw [List.map_drop, hcalls] at hmem
      simpa using hmem
  · cases h

/-- The URLs of the first job, as the service answers for it. -/
def firstUrls (p : Plan) : List (List String) :=
  (p.jobs.take 1).map fun job =>
    (job.locatedAt (fun _ _ => Stage.staticUrls ["T2_US_N"]) p.task.asyncDest).urls

/-- With a service that answers once, the sample request is compiled with a single warning: the
service is asked once for the first job, which has its URL, and three times for the second one, and
it is not asked for the third one; neither of these has a URL. -/
theorem outage_degrades_answeringOnce :
    ∃ p k a b d, (sample .external).plan .sample = .ok p ∧ p.jobs = [a, b, d] ∧
      (compiled fading (sample .external) 1 0 .sample (.empty, 0)).1 = .ok k ∧
      k.warnings = [.degraded "placement" "placement unavailable: timed out"] ∧
      ((sample .external).located fading p (.empty, 0)).map (·.urls) =
        [["root://T2_US_N//store/user/j/ana/ana/130719_090932:x/0000/log/cmsRun_1.log.tar.gz"],
          [], []] ∧
      faded.map (fun call => (call.1, call.2.isOk)) =
        [(a.query p.task.asyncDest, true), (b.query p.task.asyncDest, false),
          (b.query p.task.asyncDest, false), (b.query p.task.asyncDest, false)] := by
  have hcompiled :
      (compiled fading (sample .external) 1 0 .sample (.empty, 0)).1.toOption.map (·.warnings) =
        some [.degraded "placement" "placement unavailable: timed out"] := by
    decide +kernel
  have hplanned : ((sample .external).plan .sample).toOption.map (fun p => (fades p, firstUrls p)) =
      some (true, [["root://T2_US_N//store/user/j/ana/ana/130719_090932:x/0000/log/" ++
        "cmsRun_1.log.tar.gz"]]) := by
    decide +kernel
  obtain ⟨k, hk, hwarnings⟩ := exists_of_map_toOption hcompiled
  obtain ⟨p, hp, hplan⟩ := exists_of_map_toOption hplanned
  obtain ⟨hfades, hurls⟩ := Prod.mk.inj hplan
  obtain ⟨a, b, d, hjobs, hcalls, hanswered, hgiven⟩ := givenUp_of_fades hfades
  obtain ⟨hsound, -, hfirst⟩ := outage_degrades Stage.obliging (sample .external) placing_external
    answeringOnce _ steady_answeringOnce 1 0 .sample .empty 0
  obtain ⟨hlocated, hbare, -⟩ :=
    hfirst p [a] b [d] hp hjobs (fun _ h => List.mem_singleton.1 h ▸ hanswered) hgiven
  refine ⟨p, k, a, b, d, hp, hjobs, hk, hwarnings, ?_, hcalls⟩
  rw [firstUrls, hjobs, List.take_succ_cons, List.take_zero, List.map_singleton,
    List.singleton_inj] at hurls
  rw [fading, hlocated, (hsound p hp).1, hjobs, List.map_cons, List.length_singleton,
    List.take_succ_cons, List.take_zero, List.singleton_append, List.map_cons, List.map_cons,
    List.map_singleton, hbare b (by simp), hbare d (by simp), hurls]
  rfl

end Compiler

end JobGraph
