import Mathlib.Tactic.Common
import JobGraph.Site.Eligible

/-!
# How candidates are narrowed down

The choice of sites for a group, said without the steps that compute it: which sites are
considered at first, and what each of the three lists asks of a site.

The main result is `Site.eligible_characterized`: the sites that are chosen are exactly those that
meet every demand, and a failure names the first demand that nothing meets.
-/

namespace JobGraph

lemma NameSet.isEmpty_eq_false_iff {s : NameSet} : s.isEmpty = false ↔ ∃ x, x ∈ s := by
  rw [← Bool.not_eq_true, isEmpty_iff]
  push Not
  rfl

namespace Site

variable {locations : List String} {rules : SiteRules} {user : SitePreferences}

/-- The site is considered at first: it holds the data or, if the place of the data does not
matter, one of the two whitelists names it. -/
def IsCandidate (locations : List String) (rules : SiteRules) (user : SitePreferences)
    (site : String) : Prop :=
  if user.ignoreLocality then site ∈ rules.available ∨ site ∈ user.whitelist
  else site ∈ locations

/-- The operator's lists leave the site in use. -/
def IsAllowed (rules : SiteRules) (site : String) : Prop :=
  site ∉ rules.banned ∧ ((∀ x, x ∉ rules.available) ∨ site ∈ rules.available)

/-- The submitter's whitelist leaves the site in use. -/
def IsWanted (user : SitePreferences) (site : String) : Prop :=
  (∀ x, x ∉ user.whitelist) ∨ site ∈ user.whitelist

/-- The submitter's blacklist leaves the site in use; the whitelist overrides it. -/
def IsTolerated (user : SitePreferences) (site : String) : Prop :=
  site ∉ user.blacklist ∨ site ∈ user.whitelist

/-- The choice of sites fails, and the restriction is what it blames. -/
def Blames (locations : List String) (rules : SiteRules) (user : SitePreferences)
    (r : Restriction) : Prop :=
  ∃ e, eligible locations rules user = .error e ∧ e.restriction = r

/-! ### The members of each step -/

lemma mem_candidates {x : String} :
    x ∈ candidates locations rules user ↔ IsCandidate locations rules user x := by
  unfold candidates IsCandidate
  split
  · exact NameSet.mem_union
  · exact NameSet.mem_ofList

lemma allows_iff {x : String} : rules.allows x = true ↔ IsAllowed rules x := by
  simp only [SiteRules.allows, IsAllowed, Bool.and_eq_true, Bool.or_eq_true,
    Bool.not_eq_true', ← Bool.not_eq_true, NameSet.contains_iff, NameSet.isEmpty_iff]

lemma wants_iff {x : String} : user.wants x = true ↔ IsWanted user x := by
  simp only [SitePreferences.wants, IsWanted, Bool.or_eq_true, NameSet.contains_iff,
    NameSet.isEmpty_iff]

lemma tolerates_iff {x : String} : user.tolerates x = true ↔ IsTolerated user x := by
  simp only [SitePreferences.tolerates, IsTolerated, Bool.or_eq_true, Bool.not_eq_true',
    ← Bool.not_eq_true, NameSet.contains_iff]

/-! ### The steps -/

/-- What the choice of sites comes to, step by step: the first step that leaves nothing is blamed,
and otherwise what the last step leaves is chosen. -/
lemma eligible_cases (locations : List String) (rules : SiteRules) (user : SitePreferences) :
    ((∀ x, ¬ IsCandidate locations rules user x) ∧ Blames locations rules user .locality) ∨
    ((∃ x, IsCandidate locations rules user x) ∧
      (∀ x, IsCandidate locations rules user x → ¬ IsAllowed rules x) ∧
      Blames locations rules user .operator) ∨
    ((∃ x, IsCandidate locations rules user x ∧ IsAllowed rules x) ∧
      (∀ x, IsCandidate locations rules user x → IsAllowed rules x → ¬ IsWanted user x) ∧
      Blames locations rules user .whitelist) ∨
    ((∃ x, IsCandidate locations rules user x ∧ IsAllowed rules x ∧ IsWanted user x) ∧
      (∀ x, IsCandidate locations rules user x → IsAllowed rules x → IsWanted user x →
        ¬ IsTolerated user x) ∧
      Blames locations rules user .blacklist) ∨
    (∃ s, eligible locations rules user = .ok s ∧ ∀ x, x ∈ s.names ↔
      IsCandidate locations rules user x ∧ IsAllowed rules x ∧ IsWanted user x ∧
        IsTolerated user x) := by
  -- the four sets of the computation, with their members
  let start := candidates locations rules user
  let allowed := start.filter rules.allows
  let wanted := allowed.filter user.wants
  let left := wanted.filter user.tolerates
  have hstart : ∀ x, x ∈ start ↔ IsCandidate locations rules user x := fun x => mem_candidates
  have hallowed : ∀ x, x ∈ allowed ↔
      IsCandidate locations rules user x ∧ IsAllowed rules x := by
    intro x
    rw [NameSet.mem_filter, hstart, allows_iff]
  have hwanted : ∀ x, x ∈ wanted ↔
      IsCandidate locations rules user x ∧ IsAllowed rules x ∧ IsWanted user x := by
    intro x
    rw [NameSet.mem_filter, hallowed, wants_iff, and_assoc]
  have hleft : ∀ x, x ∈ left ↔ IsCandidate locations rules user x ∧ IsAllowed rules x ∧
      IsWanted user x ∧ IsTolerated user x := by
    intro x
    rw [NameSet.mem_filter, hwanted, tolerates_iff, and_assoc, and_assoc]
  by_cases h₁ : start.isEmpty = true
  · refine Or.inl ⟨fun x hx => NameSet.isEmpty_iff.1 h₁ x ((hstart x).2 hx), ?_⟩
    refine ⟨_, by rw [eligible, if_pos h₁], ?_⟩
    split <;> rfl
  have hsome : ∃ x, IsCandidate locations rules user x := by
    obtain ⟨x, hx⟩ := NameSet.isEmpty_eq_false_iff.1 (Bool.not_eq_true _ ▸ h₁)
    exact ⟨x, (hstart x).1 hx⟩
  by_cases h₂ : allowed.isEmpty = true
  · refine Or.inr (Or.inl ⟨hsome, fun x hc ha => ?_, ?_⟩)
    · exact NameSet.isEmpty_iff.1 h₂ x ((hallowed x).2 ⟨hc, ha⟩)
    · exact ⟨_, by rw [eligible, if_neg h₁, if_pos h₂], rfl⟩
  by_cases h₃ : wanted.isEmpty = true
  · refine Or.inr (Or.inr (Or.inl ⟨?_, fun x hc ha hw => ?_, ?_⟩))
    · obtain ⟨x, hx⟩ := NameSet.isEmpty_eq_false_iff.1 (Bool.not_eq_true _ ▸ h₂)
      exact ⟨x, (hallowed x).1 hx⟩
    · exact NameSet.isEmpty_iff.1 h₃ x ((hwanted x).2 ⟨hc, ha, hw⟩)
    · exact ⟨_, by rw [eligible, if_neg h₁, if_neg h₂, if_pos h₃], rfl⟩
  by_cases h₄ : left.isEmpty = true
  · refine Or.inr (Or.inr (Or.inr (Or.inl ⟨?_, fun x hc ha hw ht => ?_, ?_⟩)))
    · obtain ⟨x, hx⟩ := NameSet.isEmpty_eq_false_iff.1 (Bool.not_eq_true _ ▸ h₃)
      exact ⟨x, (hwanted x).1 hx⟩
    · exact NameSet.isEmpty_iff.1 h₄ x ((hleft x).2 ⟨hc, ha, hw, ht⟩)
    · exact ⟨_, by rw [eligible, if_neg h₁, if_neg h₂, if_neg h₃, dif_pos h₄], rfl⟩
  · refine Or.inr (Or.inr (Or.inr (Or.inr ⟨⟨left, Bool.not_eq_true _ ▸ h₄⟩, ?_, hleft⟩)))
    rw [eligible, if_neg h₁, if_neg h₂, if_neg h₃, dif_neg h₄]

/-- Only one restriction is blamed. -/
lemma Blames.iff_eq {r q : Restriction} (h : Blames locations rules user r) :
    Blames locations rules user q ↔ q = r := by
  obtain ⟨e, he, hr⟩ := h
  constructor
  · rintro ⟨e', he', hq⟩
    rw [he] at he'
    cases he'
    exact hq.symm.trans hr
  · rintro rfl
    exact ⟨e, he, hr⟩

/-- No sites are chosen if a restriction is blamed. -/
lemma Blames.ne_ok {r : Restriction} (h : Blames locations rules user r) (s : EligibleSites) :
    eligible locations rules user ≠ .ok s := by
  obtain ⟨e, he, -⟩ := h
  rw [he]
  simp

/-- No restriction is blamed if sites are chosen. -/
lemma not_blames {s : EligibleSites} (h : eligible locations rules user = .ok s)
    (r : Restriction) : ¬ Blames locations rules user r :=
  fun hb => hb.ne_ok s h

/-! ### The choice as a whole -/

/-- **The choice of sites.**  Sites are chosen if and only if some site meets every demand, and
then exactly the sites that do.  Otherwise the restriction that is blamed is the first one that
leaves nothing: the place of the data if no site is considered at all, the operator's lists if they
leave none of these, the submitter's whitelist if it leaves none of what is left, and the
submitter's blacklist if nothing is left but for it. -/
theorem eligible_characterized (locations : List String) (rules : SiteRules)
    (user : SitePreferences) :
    ((∃ s, eligible locations rules user = .ok s) ↔
      ∃ x, IsCandidate locations rules user x ∧ IsAllowed rules x ∧ IsWanted user x ∧
        IsTolerated user x) ∧
    (∀ s, eligible locations rules user = .ok s → ∀ x, x ∈ s.names ↔
      IsCandidate locations rules user x ∧ IsAllowed rules x ∧ IsWanted user x ∧
        IsTolerated user x) ∧
    (Blames locations rules user .locality ↔ ∀ x, ¬ IsCandidate locations rules user x) ∧
    (Blames locations rules user .operator ↔
      (∃ x, IsCandidate locations rules user x) ∧
      ∀ x, IsCandidate locations rules user x → ¬ IsAllowed rules x) ∧
    (Blames locations rules user .whitelist ↔
      (∃ x, IsCandidate locations rules user x ∧ IsAllowed rules x) ∧
      ∀ x, IsCandidate locations rules user x → IsAllowed rules x → ¬ IsWanted user x) ∧
    (Blames locations rules user .blacklist ↔
      (∃ x, IsCandidate locations rules user x ∧ IsAllowed rules x ∧ IsWanted user x) ∧
      ∀ x, IsCandidate locations rules user x → IsAllowed rules x → IsWanted user x →
        ¬ IsTolerated user x) := by
  rcases eligible_cases locations rules user with
    ⟨hnone, hb⟩ | ⟨hsome, hnone, hb⟩ | ⟨hsome, hnone, hb⟩ | ⟨hsome, hnone, hb⟩ | ⟨s, hs, hmem⟩
  case inl | inr.inl | inr.inr.inl | inr.inr.inr.inl =>
    -- one restriction is blamed, and what is known of it excludes the other cases
    have hok := hb.ne_ok
    simp only [hb.iff_eq, hok]
    grind
  case inr.inr.inr.inr =>
    have hchosen : ∃ x, x ∈ s.names := NameSet.isEmpty_eq_false_iff.1 s.nonempty
    simp only [not_blames hs, hs]
    grind

end Site

end JobGraph
