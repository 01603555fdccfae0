import Fixtures.Generation.Plan
import Fixtures.Proofs.Regex.KeptAnchors

namespace Fixtures.Generation

open Regex

variable {cs body : List Char} {pattern : String}

/-- A pattern without a circumflex at its start and without the anchor at its end. -/
def withoutAnchors (pattern : String) : String :=
  let cs := pattern.toList
  let cs := if cs.head? = some '^' then cs.tail else cs
  String.ofList (if endsInAnchor cs then cs.dropLast else cs)

theorem withoutStart_eq (cs : List Char) :
    withoutStart cs = if cs.head? = some '^' then cs.tail else cs := by
  unfold withoutStart
  split
  · rfl
  · next hstart =>
    rw [if_neg]
    intro hhead
    obtain ⟨tail, rfl⟩ := List.head?_eq_some_iff.mp hhead
    exact hstart tail rfl

theorem withoutEnd_concat (body : List Char) :
    withoutEnd (body ++ ['$']) = if closingBackslashes body = 0 then body else body ++ ['$'] := by
  simp only [withoutEnd, List.getLast?_concat, List.dropLast_concat, closingBackslashes_eq_zero_iff,
    ite_not]

theorem withoutEnd_of_getLast? (h : cs.getLast? ≠ some '$') : withoutEnd cs = cs := by
  unfold withoutEnd
  split
  · next hlast => exact absurd hlast h
  · rfl

theorem withoutStart_within (cs : List Char) : withoutStart cs <:+ cs := by
  unfold withoutStart
  split
  · exact List.suffix_cons _ _
  · exact List.suffix_rfl

theorem endsAfterPairs_withoutStart : EndsAfterPairs (withoutStart cs) ↔ EndsAfterPairs cs := by
  unfold withoutStart
  split
  · next cs => rw [endsAfterPairs_cons (by decide)]
  · rfl

theorem stripAnchors_of_not_endsAfterPairs (h : ¬ EndsAfterPairs pattern.toList) :
    stripAnchors pattern = withoutAnchors pattern := by
  rw [← endsAfterPairs_withoutStart] at h
  simp only [stripAnchors, withoutAnchors, ← withoutStart_eq]
  generalize withoutStart pattern.toList = cs at h
  congr 1
  by_cases hlast : cs.getLast? = some '$'
  · obtain ⟨body, rfl⟩ := List.getLast?_eq_some_iff.mp hlast
    rw [withoutEnd_concat, List.dropLast_concat]
    by_cases hzero : closingBackslashes body = 0
    · rw [if_pos hzero, if_pos ((endsInAnchor_concat body).mpr (by rw [hzero]))]
    · have hodd : ¬ endsInAnchor (body ++ ['$']) = true := fun heven =>
        h ⟨body, rfl, (endsInAnchor_concat body).mp heven, hzero⟩
      rw [if_neg hzero, if_neg hodd]
  · have hnone : ¬ endsInAnchor cs = true := by simp [endsInAnchor, hlast]
    rw [withoutEnd_of_getLast? hlast, if_neg hnone]

theorem stripAnchors_of_endsAfterPairs (h : EndsAfterPairs pattern.toList) :
    stripAnchors pattern = String.ofList (withoutStart pattern.toList) ∧
      stripAnchors pattern = withoutAnchors pattern ++ "$" := by
  obtain ⟨body, hbody, heven, hne⟩ := endsAfterPairs_withoutStart.mpr h
  have hanchor := (endsInAnchor_concat body).mpr heven
  have hkept : withoutEnd (body ++ ['$']) = body ++ ['$'] := by rw [withoutEnd_concat, if_neg hne]
  simp only [stripAnchors, withoutAnchors, ← withoutStart_eq, hbody, hkept, if_pos hanchor,
    List.dropLast_concat]
  exact ⟨trivial, String.ofList_append⟩

theorem compilePattern_of_endsAfterPairs (h : EndsAfterPairs pattern.toList)
    (hvisible : '#' ∉ pattern.toList)
    (maxRepeat : Nat) : ∃ reason, compilePattern pattern maxRepeat = .error reason := by
  obtain ⟨body, hbody, heven, hne⟩ := endsAfterPairs_withoutStart.mpr h
  refine Sampler.compile_of_anchorAhead ⟨?_, body, ?_, heven, fun hzero =>
    absurd hzero hne⟩ maxRepeat
  · rw [(stripAnchors_of_endsAfterPairs h).1, String.toList_ofList]
    exact fun hmem => hvisible ((withoutStart_within _).mem hmem)
  · rw [(stripAnchors_of_endsAfterPairs h).1, String.toList_ofList, hbody]

namespace TablePlan

variable {t : Model.Table} {f : Model.Field} {maxRepeat : Nat} {reason : SampleError}

theorem fieldPattern_of_own (hown : f.domain.patterns.head? = some pattern)
    (hfails : ∀ maxRepeat, ∃ reason, compilePattern pattern maxRepeat = .error reason)
    (strategy : Strategy) :
    fieldPattern t f strategy = .ok none := by
  have hnone : ∀ maxRepeat, (compilePattern pattern maxRepeat).toOption = none := by
    intro maxRepeat
    obtain ⟨reason, hreason⟩ := hfails maxRepeat
    rw [hreason]
    rfl
  unfold fieldPattern
  split
  · rfl
  · cases strategy <;> simp only [hown, hnone]

theorem fieldPattern_of_strategy (hstring : f.terminal.element = .string)
    (hown : f.domain.patterns = []) (hfails : compilePattern pattern maxRepeat = .error reason) :
    fieldPattern t f (.pattern (some pattern) maxRepeat) =
      .error (.directive (.badPattern t.name f.name pattern reason)) := by
  unfold fieldPattern
  rw [if_neg (not_not.mpr hstring)]
  simp only [hown, List.head?_nil, hfails]

end TablePlan

/-- The anchors of a pattern are left out, and nothing else, if it does not end in an anchor after
backslashes that escape each other. If it does, the anchor is kept. Then, unless a comment can hide
the anchor, a field with this pattern gets no sampler, and a strategy with it is refused. -/
theorem keeps_anchor_after_pairs (pattern : String) :
    (¬ EndsAfterPairs pattern.toList → stripAnchors pattern = withoutAnchors pattern) ∧
    (EndsAfterPairs pattern.toList → stripAnchors pattern = withoutAnchors pattern ++ "$") ∧
    (EndsAfterPairs pattern.toList → '#' ∉ pattern.toList →
      (∀ t f strategy, f.domain.patterns.head? = some pattern →
        TablePlan.fieldPattern t f strategy = .ok none) ∧
      ∀ t f maxRepeat, f.terminal.element = .string → f.domain.patterns = [] →
        ∃ reason, TablePlan.fieldPattern t f (.pattern (some pattern) maxRepeat) =
          .error (.directive (.badPattern t.name f.name pattern reason))) := by
  refine ⟨stripAnchors_of_not_endsAfterPairs, fun h => (stripAnchors_of_endsAfterPairs h).2,
    fun h hvisible => ⟨?_, ?_⟩⟩
  · intro t f strategy hown
    exact TablePlan.fieldPattern_of_own hown (compilePattern_of_endsAfterPairs h hvisible) strategy
  · intro t f maxRepeat hstring hown
    obtain ⟨reason, hreason⟩ := compilePattern_of_endsAfterPairs h hvisible maxRepeat
    exact ⟨reason, TablePlan.fieldPattern_of_strategy hstring hown hreason⟩

/-- Folders with the path of a drive. -/
theorem keeps_anchor_after_pairs_folders :
    let folders : Model.Table := ⟨"folders", [], none, [], [], [], {}, none⟩
    let path (patterns : List String) : Model.Field :=
      ⟨"path", .primitive .string, none, [], { terminal := .primitive .string, patterns }, false,
        none, none⟩
    stripAnchors "^[A-Z]:$" = withoutAnchors "^[A-Z]:$" ∧
    stripAnchors "^[A-Z]:\\\\$" = withoutAnchors "^[A-Z]:\\\\$" ++ "$" ∧
    TablePlan.fieldPattern folders (path ["^[A-Z]:\\\\$"]) .random = .ok none ∧
    ∃ reason, TablePlan.fieldPattern folders (path []) (.pattern (some "^[A-Z]:\\\\$") 32) =
      .error (.directive (.badPattern "folders" "path" "^[A-Z]:\\\\$" reason)) := by
  have hends : EndsAfterPairs "^[A-Z]:\\\\$".toList := by decide
  have hvisible : '#' ∉ "^[A-Z]:\\\\$".toList := by decide
  obtain ⟨-, hkept, hunusable⟩ := keeps_anchor_after_pairs "^[A-Z]:\\\\$"
  obtain ⟨hown, hstrategy⟩ := hunusable hends hvisible
  exact ⟨(keeps_anchor_after_pairs "^[A-Z]:$").1 (by decide), hkept hends, hown _ _ _ rfl,
    hstrategy _ _ 32 rfl rfl⟩

/-- After an escaped backslash the dollar sign is an anchor, but it is kept, and nothing can be
drawn from the pattern, though without the anchor it matches one text. -/
theorem anchor_after_pair_is_kept :
    endsInAnchor "a\\\\$".toList = true ∧
    withoutAnchors "a\\\\$" = "a\\\\" ∧ stripAnchors "a\\\\$" = "a\\\\$" ∧
    Sampler.compile "a\\\\" 32 = .ok (.text ['a', '\\']) ∧
      compilePattern "a\\\\$" 32 = .error .anchor :=
  ⟨by decide, by decide, by decide, rfl, rfl⟩

end Fixtures.Generation
