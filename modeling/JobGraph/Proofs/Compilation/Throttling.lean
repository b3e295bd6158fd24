import Mathlib.Order.Bounds.Basic
import JobGraph.Config.Validity
import JobGraph.Proofs.Compilation.Files
import JobGraph.Proofs.Compilation.Prediction
import JobGraph.Proofs.Task.Settings

/-!
# The limit on closing scripts

The limit is worked out from the operator's setting and the number of jobs, and it is worked out
twice: when a request is planned, and when the files of its task are made.  The machine works with
words of 64 bits; a setting that has been read and found to have no defect keeps to them, and then
no step of the working out leaves them, whatever the number of jobs is.

The limits that a plan, a compilation and a submit file report are one number; this is
`Compiler.limits_agree`.
-/

namespace JobGraph

namespace Throttle

variable {t : Throttle}

/-! ### Settings -/

/-- The numbers of a throttle are words of the machine. -/
structure FitsWords (t : Throttle) : Prop where
  floor : t.floor < Nat.pow 2 64
  fixed : ∀ count, t.mode = .fixed count → count < Nat.pow 2 64

lemma fitsWords_standard : standard.FitsWords :=
  ⟨by decide, nofun⟩

/-- What the validator makes sure of besides. -/
structure Valid (t : Throttle) : Prop extends FitsWords t where
  floor_pos : 0 < t.floor
  fixed_pos : ∀ count, t.mode = .fixed count → 0 < count

namespace Mode

lemma lt_of_count? {s : List Char} {n : ℕ} (h : count? s = some n) : n < Nat.pow 2 64 := by
  obtain ⟨ds, hcount⟩ : ∃ ds : List Char, count? s =
      if ds.isEmpty || !ds.all Char.isDigit || Nat.pow 2 64 ≤ Nat.ofDigitChars 10 ds 0 then none
      else some (Nat.ofDigitChars 10 ds 0) := ⟨_, rfl⟩
  rw [hcount] at h
  split at h
  · cases h
  · next hsmall =>
    cases h
    simp only [Bool.or_eq_true, decide_eq_true_eq, not_or, not_le] at hsmall
    exact hsmall.2

/-- A number of scripts that is read is a word, whether it is given as a text or as a number. -/
lemma lt_of_ofDocument? {d : Document} {n : ℕ} (h : ofDocument? d = some (.fixed n)) :
    n < Nat.pow 2 64 := by
  unfold ofDocument? at h
  split at h
  · next s =>
    unfold parse at h
    split at h
    · cases h
    · cases h
    · split at h
      · next m hm =>
        cases h
        exact lt_of_count? hm
      · cases h
  · obtain ⟨m, hm, heq⟩ := Option.map_eq_some_iff.1 h
    cases heq
    exact Document.lt_of_nat? hm

end Mode

/-- The numbers of a throttle that has been read are words. -/
lemma fitsWords_of_ofDocument? {d : Document} (h : ofDocument? d = some t) : t.FitsWords := by
  rw [ofDocument?] at h
  obtain ⟨fields, -, h⟩ := Option.bind_eq_some_iff.1 h
  split at h
  · simp only [Option.bind_eq_bind, Option.bind_eq_some_iff] at h
    obtain ⟨mode, hmode, floor, hfloor, h⟩ := h
    cases h
    constructor
    · show floor < Nat.pow 2 64
      rcases Document.of_default? hfloor with rfl | ⟨d, hd⟩
      · exact fitsWords_standard.floor
      · exact Document.lt_of_nat? hd
    · intro count hcount
      have hread : mode = .fixed count := hcount
      rcases Document.of_default? hmode with rfl | ⟨d, hd⟩
      · cases hread
      · rw [hread] at hd
        exact Mode.lt_of_ofDocument? hd
  · cases h

end Throttle

namespace Config

lemma throttleDefect?_eq_none_iff {c : Config} :
    c.throttleDefect? = none ↔ c.throttle.floor ≠ 0 ∧ c.throttle.mode ≠ .fixed 0 := by
  rw [throttleDefect?]
  split
  · next hfloor => simp [hfloor]
  · next hfloor =>
    split
    · next hmode => simp [hmode]
    · next hmode => simp [hfloor, hmode]

/-- The throttle of a configuration is the standard one, or it was read. -/
lemma fitsWords_of_ofDocument? {d : Document} {c : Config} (h : ofDocument? d = some c) :
    c.throttle.FitsWords := by
  rw [ofDocument?] at h
  obtain ⟨fields, -, h⟩ := Option.bind_eq_some_iff.1 h
  split at h
  · simp only [Option.bind_eq_bind, Option.bind_eq_some_iff] at h
    obtain ⟨_, -, _, -, _, -, throttle, hthrottle, _, -, _, -, _, -, _, -, h⟩ := h
    cases h
    rcases Document.of_default? hthrottle with rfl | ⟨d, hd⟩
    · exact Throttle.fitsWords_standard
    · exact Throttle.fitsWords_of_ofDocument? hd
  · cases h

lemma valid_throttle {c : Config} (hwords : c.throttle.FitsWords)
    (hdefect : c.throttleDefect? = none) : c.throttle.Valid := by
  obtain ⟨hfloor, hmode⟩ := throttleDefect?_eq_none_iff.1 hdefect
  refine ⟨hwords, Nat.pos_of_ne_zero hfloor, fun count hcount => Nat.pos_of_ne_zero fun hzero => ?_⟩
  rw [hzero] at hcount
  exact hmode hcount

/-- A configuration that is used has a throttle without a defect, and its numbers are words. -/
lemma throttle_of_load {text : String} {c : Config} (h : load text = .ok c) :
    c.throttle.FitsWords ∧ c.throttleDefect? = none := by
  rw [load] at h
  split at h
  · cases h
  · split at h
    · cases h
    · next d c' hd =>
      rw [check] at h
      split at h
      · cases h
      · next hdefect =>
        cases h
        simp only [defect?, Option.orElse_eq_none] at hdefect
        exact ⟨fitsWords_of_ofDocument? hd, hdefect.2.1⟩

end Config

namespace Throttle

variable {t : Throttle}

/-! ### Words -/

/-- The next word, if there is one. -/
def next? (n : UInt64) : Option UInt64 :=
  if n.toNat + 1 < Nat.pow 2 64 then some (n + 1) else none

/-- The quotient of words, and one more if something is left over. -/
def divCeil? (n d : UInt64) : Option UInt64 :=
  if n % d = 0 then some (n / d) else next? (n / d)

/-- The limit, as it is worked out with words; there is none if a step leaves them. -/
def wordLimit? (t : Throttle) (jobs : UInt64) : Option UInt64 :=
  match t.mode with
  | .fixed count => some (.ofNat count)
  | .unbounded => some jobs
  | .auto => (divCeil? jobs 10).map (max (.ofNat t.floor))

/-- A tenth of a word is far from the last word. -/
lemma exists_divCeil? (n : UInt64) :
    ∃ m, divCeil? n 10 = some m ∧ m.toNat = (n.toNat + 9) / 10 := by
  have hn := n.toNat_lt
  have hten : (10 : UInt64).toNat = 10 := rfl
  have hquotient : (n / 10).toNat = n.toNat / 10 := by rw [UInt64.toNat_div, hten]
  have hzero : n % 10 = 0 ↔ n.toNat % 10 = 0 := by
    rw [← UInt64.toNat_inj, UInt64.toNat_mod, hten]
    rfl
  rw [divCeil?]
  split
  · next hleft =>
    rw [hzero] at hleft
    exact ⟨n / 10, rfl, by omega⟩
  · next hleft =>
    rw [hzero] at hleft
    have hroom : (n / 10).toNat + 1 < Nat.pow 2 64 := by
      rw [hquotient, Nat.pow_eq]
      omega
    refine ⟨n / 10 + 1, by rw [next?, if_pos hroom], ?_⟩
    have hone : (1 : UInt64).toNat = 1 := rfl
    rw [UInt64.toNat_add, hone, Nat.mod_eq_of_lt hroom, hquotient]
    omega

/-- Working with words leads to the limit. -/
lemma FitsWords.exists_wordLimit? (h : t.FitsWords) (n : UInt64) :
    ∃ m, t.wordLimit? n = some m ∧ m.toNat = t.limit n.toNat := by
  rw [wordLimit?, limit]
  cases hmode : t.mode with
  | fixed count =>
    exact ⟨.ofNat count, rfl, UInt64.toNat_ofNat'.trans (Nat.mod_eq_of_lt (h.fixed count hmode))⟩
  | unbounded => exact ⟨n, rfl, rfl⟩
  | auto =>
    obtain ⟨m, hm, hvalue⟩ := exists_divCeil? n
    refine ⟨max (.ofNat t.floor) m, by rw [hm, Option.map_some], ?_⟩
    rw [UInt64.toNat_max, hvalue, UInt64.toNat_ofNat', Nat.mod_eq_of_lt h.floor]

/-! ### The law -/

/-- In automatic mode the limit is the least number that reaches the floor and gives one script to
every ten jobs. -/
lemma isLeast_limit (h : t.mode = .auto) (n : ℕ) :
    IsLeast {c | t.floor ≤ c ∧ n ≤ 10 * c} (t.limit n) := by
  have hlimit : ∀ c, t.limit n ≤ c ↔ t.floor ≤ c ∧ n ≤ 10 * c := by
    intro c
    have hauto : t = ⟨.auto, t.floor⟩ := by rw [← h]
    rw [hauto]
    exact limit_auto_le_iff
  exact ⟨(hlimit _).1 le_rfl, fun c hc => (hlimit c).2 hc⟩

lemma limit_pos (h : t.Valid) {n : ℕ} (hn : 0 < n) : 0 < t.limit n := by
  rw [limit]
  split
  · next count hmode => exact h.fixed_pos count hmode
  · exact hn
  · exact h.floor_pos.trans_le (Nat.le_max_left _ _)

lemma limit_mono (t : Throttle) : Monotone t.limit := by
  intro m n hmn
  rw [limit, limit]
  split
  · exact le_rfl
  · exact hmn
  · omega

/-- How the limit depends on the setting and the number of jobs. -/
structure Lawful (t : Throttle) : Prop where
  /-- Words are enough for every number of jobs that is one. -/
  words : ∀ n : UInt64, ∃ m, t.wordLimit? n = some m ∧ m.toNat = t.limit n.toNat
  pos : ∀ n, 0 < n → 0 < t.limit n
  mono : Monotone t.limit
  auto : t.mode = .auto → ∀ n, IsLeast {c | t.floor ≤ c ∧ n ≤ 10 * c} (t.limit n)
  unbounded : t.mode = .unbounded → ∀ n, t.limit n = n
  fixed : ∀ count, t.mode = .fixed count → ∀ n, t.limit n = count

lemma Valid.lawful (h : t.Valid) : t.Lawful where
  words := h.exists_wordLimit?
  pos := fun _ hn => limit_pos h hn
  mono := limit_mono t
  auto := isLeast_limit
  unbounded := fun hmode n => by rw [limit, hmode]
  fixed := fun count hmode n => by rw [limit, hmode]

end Throttle

/-! ### Reports -/

namespace Compiler

open World (Filed Confined)

variable {σ : Type} {w : World σ} {store : σ → FileStore} {c : Compiler}
  {records notices : Path → Prop} {s : σ}

/-- A compilation that succeeds has carried out a plan, and reports what it says. -/
lemma exists_plan_of_compiled {process call : ℕ} {r : Request} {k : Compilation}
    (hk : (c.compiled w process call r s).1 = .ok k) :
    ∃ p, c.plan r = .ok p ∧ (c.emitted w (Emission.token process call) p s).1 = .ok () ∧
      k.workDir = c.workDir p.task.name ∧ k.jobCount = p.jobCount ∧ k.throttle = p.throttle := by
  rw [compiled] at hk
  cases hp : c.plan r with
  | error e =>
    have hfails := (within_compile_of_error (Emission.token process call) hp fun notice =>
      (c.services.noteFailure notice).within_true).run w s
    rw [hk] at hfails
    cases hfails
  | ok p =>
    obtain ⟨warnings, hrun⟩ := run_compile_of_ok (w := w) (s := s) (Emission.token process call) hp
    cases hemitted : (c.emitted w (Emission.token process call) p s).1 with
    | error f =>
      rw [hk, hemitted] at hrun
      cases hrun
    | ok u =>
      rw [hk, hemitted] at hrun
      cases hrun
      exact ⟨p, rfl, hemitted, rfl, rfl, rfl⟩

/-- After a compilation an artifact that was emitted is in its place, as the dashboard keeps to its
own files. -/
lemma contents?_compiled (hw : w.Filed store) (hv : Confined w store c.services records notices)
    {token : String} (ht : '/' ∉ token.toList) {r : Request} (hout : c.Outside r records) {p : Plan}
    (hp : c.plan r = .ok p) (hok : (c.emitted w token p s).1 = .ok ()) {a : Artifact}
    (ha : a ∈ c.rendered w p s) :
    (store (w.run (c.compile token r) s).2).contents?
      (Emission.place (c.workDir p.task.name) a.name) = some a.contents.toUTF8 := by
  have hname := isName_of_mem_names (List.mem_map_of_mem (f := Artifact.name) ha)
  have helsewhere := hout.not_own hp (Emission.isIn_place hname (c.workDir p.task.name))
  rw [run_compile_after_emission token hp hok,
    changesOnly_enterAll hv (c.assembled w p s) (c.emitted w token p s).2 _ helsewhere]
  exact contents?_emitted hw ht hok ha

/-- **The limit on closing scripts.**  Let a configuration have no defect in its throttle, whose
numbers are words of the machine.  Then the limit is worked out without leaving the words, it is at
least one, it does not fall when there are more jobs, and it is what the mode says.  A plan of the
compiler has at least one job and reports the limit for the number of its jobs; a compilation that
succeeds has a plan and reports the limit of this plan; and so does the one line of the submit file
that is made for it and is in its place in the end, where files are kept and the services keep to
their own. -/
theorem limits_agree {c : Config} (hwords : c.throttle.FitsWords)
    (hdefect : c.throttleDefect? = none) (services : Services) (w : World σ) (process call : ℕ)
    (r : Request) (s : σ) :
    c.throttle.Lawful ∧
    (∀ p, (ofConfig c services).plan r = .ok p →
      0 < p.jobCount ∧ p.throttle = c.throttle.limit p.jobCount) ∧
    ∀ k, ((ofConfig c services).compiled w process call r s).1 = .ok k →
      ∃ p, (ofConfig c services).plan r = .ok p ∧ k.jobCount = p.jobCount ∧
        k.throttle = c.throttle.limit p.jobCount ∧
        ∃ text, ⟨Artifact.submitFile, text⟩ ∈ (ofConfig c services).rendered w p s ∧
          (Text.split '\n' text).filter (fun l => SubmitFile.key l = "+CRAB_MaxPost") =
            ["+CRAB_MaxPost = " ++ toString (c.throttle.limit p.jobCount)] ∧
          ∀ (store : σ → FileStore) (records notices : Path → Prop), w.Filed store →
            Confined w store services records notices → (ofConfig c services).Outside r records →
            (store ((ofConfig c services).compiled w process call r s).2).contents?
              (Emission.place k.workDir Artifact.submitFile) = some text.toUTF8 := by
  have hlimit : ∀ p, (ofConfig c services).plan r = .ok p →
      0 < p.jobCount ∧ p.throttle = c.throttle.limit p.jobCount := by
    intro p hp
    obtain ⟨-, hthrottle, hjobs⟩ := Plan.of_plan_eq_ok hp
    exact ⟨List.length_pos_iff.2 hjobs, hthrottle⟩
  refine ⟨(Config.valid_throttle hwords hdefect).lawful, hlimit, ?_⟩
  intro k hk
  obtain ⟨p, hp, hok, hdir, hcount, hthrottle⟩ := exists_plan_of_compiled hk
  have hvalue := (hlimit p hp).2
  obtain ⟨text, hmem, hline⟩ := exists_submit_mem_rendered w (ofConfig c services) s
    (Task.checked_of_ofRecord (Plan.of_plan_eq_ok hp).1)
  rw [hvalue] at hthrottle hline
  refine ⟨p, hp, hcount, hthrottle, text, hmem, hline, ?_⟩
  intro store records notices hw hv hout
  have hplace := contents?_compiled hw hv (Emission.slash_not_mem_token process call) hout hp hok
    hmem
  rw [hdir, compiled]
  exact hplace

/-- With a floor of two, the three jobs of the sample request may close two at a time. -/
theorem limits_agree_floor :
    ∃ c p k text, Config.load "[throttle]\nfloor = 2\n" = .ok c ∧
      (ofConfig c (.ofFiles ⟨[]⟩ none none)).plan .sample = .ok p ∧ p.throttle = 2 ∧
      ((ofConfig c (.ofFiles ⟨[]⟩ none none)).compiled (.ofFiles FileStore.perform) 1 0 .sample
        .empty).1 = .ok k ∧ k.throttle = 2 ∧
      (Text.split '\n' text).filter (fun l => SubmitFile.key l = "+CRAB_MaxPost") =
        ["+CRAB_MaxPost = 2"] ∧
      ((ofConfig c (.ofFiles ⟨[]⟩ none none)).compiled (.ofFiles FileStore.perform) 1 0 .sample
        .empty).2.contents? (Emission.place k.workDir Artifact.submitFile) = some text.toUTF8 := by
  have heval : (Config.load "[throttle]\nfloor = 2\n").toOption.map (fun c =>
      (decide (c.throttle = ⟨.auto, 2⟩),
        ((ofConfig c (.ofFiles ⟨[]⟩ none none)).compiled (.ofFiles FileStore.perform) 1 0 .sample
          .empty).1.toOption.map (·.jobCount))) = some (true, some 3) := by
    decide +kernel
  obtain ⟨c, hload, heval⟩ := exists_of_map_toOption heval
  obtain ⟨hthrottle, hcompiled⟩ := Prod.ext_iff.1 heval
  obtain ⟨k, hk, hjobs⟩ := exists_of_map_toOption hcompiled
  obtain ⟨hwords, hdefect⟩ := Config.throttle_of_load hload
  obtain ⟨-, hplan, hcompilation⟩ := limits_agree hwords hdefect (.ofFiles ⟨[]⟩ none none)
    (.ofFiles FileStore.perform) 1 0 .sample .empty
  obtain ⟨p, hp, hcount, hlimit, text, -, hline, hfile⟩ := hcompilation k hk
  have htwo : c.throttle.limit p.jobCount = 2 := by
    have hthree : p.jobCount = 3 := hcount.symm.trans hjobs
    rw [of_decide_eq_true hthrottle, hthree]
    rfl
  have hv := World.confined_ofFiles World.filed_ofFiles ⟨[]⟩ none none
  have hout : (ofConfig c (.ofFiles ⟨[]⟩ none none)).Outside .sample
      fun q => ∃ f ∈ (none : Option Path), q.same f := by
    rintro p - q ⟨f, hf, -⟩
    cases hf
  rw [htwo] at hlimit hline
  exact ⟨c, p, k, text, hload, hp, (hplan p hp).2.trans htwo, hk, hlimit, hline,
    hfile id _ _ World.filed_ofFiles hv hout⟩

end Compiler

end JobGraph
