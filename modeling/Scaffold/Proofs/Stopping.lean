import Scaffold.Proofs.Attempts
import Scaffold.Proofs.Effects

/-!
# Stopping at a failure

Emission goes from artifact to artifact, and nothing but the files is handed on. So emission of a
list is emission of its first part and then, from the files as they are by then, of the rest. If a
failure is to stop it, it does just what emission of the artifacts up to this failure does.
-/
namespace Scaffold.Emitter

open Run

/-- The outcomes up to the first failure, which is the last of them. -/
def upToFailure (outcomes : List Outcome) : List Outcome :=
  outcomes.takeWhile (·.success) ++ (outcomes.dropWhile (·.success)).take 1

theorem upToFailure_of_success {outcome : Outcome} (h : outcome.success = true)
    (outcomes : List Outcome) :
    upToFailure (outcome :: outcomes) = outcome :: upToFailure outcomes := by
  simp [upToFailure, h]

theorem upToFailure_of_failure {outcome : Outcome} (h : outcome.success = false)
    (outcomes : List Outcome) : upToFailure (outcome :: outcomes) = [outcome] := by
  simp [upToFailure, h]

variable {e : Emitter} {a : Artifact} {artifacts before after : List Artifact} {w : World}
  {outcome : Outcome} {outcomes : List Outcome} {files : FileSystem}

/-! ## One artifact more -/

theorem effect_outcomes_nil (e : Emitter) (failFast : Bool) (w : World) :
    effect (e.outcomes failFast []) w = (.ok [], w.files) := rfl

theorem effect_outcomes_nil_eq_ok_iff :
    effect (e.outcomes false []) w = (.ok outcomes, files) ↔ outcomes = [] ∧ files = w.files := by
  rw [effect_outcomes_nil, Prod.mk.injEq, Except.ok.injEq, eq_comm, eq_comm (a := w.files)]

/-- What emission of a list comes to is what its first artifact comes to, and then the others. -/
theorem effect_outcomes_cons_eq_ok_iff :
    effect (e.outcomes false (a :: artifacts)) w = (.ok outcomes, files) ↔
      ∃ outcome mid others, effect (e.emitOne a) w = (.ok outcome, mid) ∧
        effect (e.outcomes false artifacts) { w with files := mid } = (.ok others, files) ∧
        outcomes = outcome :: others := by
  rw [effect_outcomes_step]
  rcases effect (e.emitOne a) w with ⟨stop | outcome, mid⟩
  · simp
  · simp only [Bool.and_false, Bool.false_eq_true, if_false, Prod.mk.injEq, Except.ok.injEq]
    constructor
    · intro h
      rcases hrest : effect (e.outcomes false artifacts) { w with files := mid } with
        ⟨stop | others, last⟩
      · simp [hrest] at h
      · rw [hrest] at h
        obtain ⟨houtcomes, rfl⟩ := Prod.mk.inj h
        exact ⟨outcome, mid, others, ⟨rfl, rfl⟩, hrest, (Except.ok.inj houtcomes).symm⟩
    · rintro ⟨_, _, others, ⟨rfl, rfl⟩, hrest, rfl⟩
      rw [hrest]

/-- A single artifact cannot be stopped by another. -/
theorem effect_outcomes_singleton (h : effect (e.emitOne a) w = (.ok outcome, files))
    (failFast : Bool) : effect (e.outcomes failFast [a]) w = (.ok [outcome], files) := by
  rw [effect_outcomes_step, h]
  dsimp only
  rw [effect_outcomes_nil]
  dsimp only
  rw [ite_self]

/-! ## A whole list -/

/-- Emission of a list is emission of its first part and then of the rest. -/
theorem effect_outcomes_append_eq_ok_iff :
    effect (e.outcomes false (before ++ after)) w = (.ok outcomes, files) ↔
      ∃ first mid others, effect (e.outcomes false before) w = (.ok first, mid) ∧
        effect (e.outcomes false after) { w with files := mid } = (.ok others, files) ∧
        outcomes = first ++ others := by
  induction before generalizing w outcomes with
  | nil =>
    constructor
    · intro h
      exact ⟨[], w.files, outcomes, rfl, h, rfl⟩
    · rintro ⟨first, mid, others, hfirst, hothers, rfl⟩
      obtain ⟨rfl, rfl⟩ := effect_outcomes_nil_eq_ok_iff.1 hfirst
      exact hothers
  | cons a before ih =>
    rw [List.cons_append, effect_outcomes_cons_eq_ok_iff]
    constructor
    · rintro ⟨outcome, mid, rest, hone, hrest, rfl⟩
      obtain ⟨first, mid', others, hfirst, hothers, rfl⟩ := ih.1 hrest
      refine ⟨outcome :: first, mid', others, ?_, hothers, rfl⟩
      exact effect_outcomes_cons_eq_ok_iff.2 ⟨outcome, mid, first, hone, hfirst, rfl⟩
    · rintro ⟨_, mid', others, hbefore, hothers, rfl⟩
      obtain ⟨outcome, mid, first, hone, hfirst, rfl⟩ := effect_outcomes_cons_eq_ok_iff.1 hbefore
      have hrest := ih.2 ⟨first, mid', others, hfirst, hothers, rfl⟩
      exact ⟨outcome, mid, first ++ others, hone, hrest, rfl⟩

theorem length_of_effect_outcomes
    (h : effect (e.outcomes false artifacts) w = (.ok outcomes, files)) :
    outcomes.length = artifacts.length := by
  induction artifacts generalizing w outcomes with
  | nil =>
    obtain ⟨rfl, -⟩ := effect_outcomes_nil_eq_ok_iff.1 h
    rfl
  | cons a artifacts ih =>
    obtain ⟨outcome, mid, others, -, hrest, rfl⟩ := effect_outcomes_cons_eq_ok_iff.1 h
    simp [ih hrest]

/-- Emission that a failure stops is emission of the artifacts up to this failure. -/
theorem exists_effect_upToFailure
    (h : effect (e.outcomes false artifacts) w = (.ok outcomes, files)) :
    ∃ files', effect (e.outcomes true artifacts) w = (.ok (upToFailure outcomes), files') ∧
      effect (e.outcomes false (artifacts.take (upToFailure outcomes).length)) w =
        (.ok (upToFailure outcomes), files') := by
  induction artifacts generalizing w outcomes with
  | nil =>
    obtain ⟨rfl, rfl⟩ := effect_outcomes_nil_eq_ok_iff.1 h
    exact ⟨w.files, rfl, rfl⟩
  | cons a artifacts ih =>
    obtain ⟨outcome, mid, others, hone, hrest, rfl⟩ := effect_outcomes_cons_eq_ok_iff.1 h
    cases hsuccess : outcome.success with
    | false =>
      rw [upToFailure_of_failure hsuccess]
      refine ⟨mid, ?_, effect_outcomes_singleton hone false⟩
      rw [effect_outcomes_cons, hone]
      simp [hsuccess]
    | true =>
      obtain ⟨files', hstopped, htaken⟩ := ih hrest
      rw [upToFailure_of_success hsuccess]
      refine ⟨files', ?_, ?_⟩
      · rw [effect_outcomes_cons, hone]
        simp only [hsuccess, if_true, hstopped]
      · rw [List.length_cons, List.take_succ_cons]
        exact effect_outcomes_cons_eq_ok_iff.2 ⟨outcome, mid, _, hone, htaken, rfl⟩

/-- Emission has an outcome for each artifact, which is that of the artifact alone, emitted from the
files that those before it left. Where a failure is to stop it, it has the same outcomes up to the
first failure and leaves the files that emission of just these artifacts leaves. -/
theorem failure_cuts_short (h : effect (e.emit false artifacts) w = (.ok outcomes, files)) :
    (∃ files', effect (e.emit true artifacts) w = (.ok (upToFailure outcomes), files') ∧
      effect (e.emit false (artifacts.take (upToFailure outcomes).length)) w =
        (.ok (upToFailure outcomes), files')) ∧
    outcomes.length = artifacts.length ∧
    ∀ before a after, artifacts = before ++ a :: after →
      ∃ outcome mid files', outcomes[before.length]? = some outcome ∧
        effect (e.emit false before) w = (.ok (outcomes.take before.length), mid) ∧
        (∀ failFast, effect (e.emit failFast [a]) { w with files := mid } =
          (.ok [outcome], files')) ∧
        effect (e.emit false (before ++ [a])) w =
          (.ok (outcomes.take (before.length + 1)), files') := by
  simp only [effect_emit] at h ⊢
  refine ⟨exists_effect_upToFailure h, length_of_effect_outcomes h, ?_⟩
  rintro before a after rfl
  obtain ⟨first, mid, rest, hfirst, hrest, rfl⟩ := effect_outcomes_append_eq_ok_iff.1 h
  obtain ⟨outcome, files', others, hone, -, rfl⟩ := effect_outcomes_cons_eq_ok_iff.1 hrest
  have halone := effect_outcomes_singleton hone
  rw [← length_of_effect_outcomes hfirst]
  refine ⟨outcome, mid, files', by simp, ?_, halone, ?_⟩
  · rw [List.take_left, hfirst]
  · have htake : (first ++ outcome :: others).take (first.length + 1) = first ++ [outcome] := by
      simp [List.take_append]
    rw [htake]
    exact effect_outcomes_append_eq_ok_iff.2 ⟨first, mid, [outcome], hfirst, halone false, rfl⟩

/-! ## A failure between two successes -/

/-- A letter that is there, between two that are not. -/
def letters : List Artifact :=
  [{ straight with path := .ofString "w" }, straight, { straight with path := .ofString "y" }]

theorem letters_cut_short : ∃ outcomes files files',
    effect (careful.emit false letters) letterWorld = (.ok outcomes, files) ∧
    outcomes.map (·.success) = [true, false, true] ∧
    effect (careful.emit true letters) letterWorld = (.ok (outcomes.take 2), files') ∧
    effect (careful.emit false (letters.take 2)) letterWorld = (.ok (outcomes.take 2), files') := by
  have hsuccess : ((careful.emit false letters).start letterWorld).1.toOption.map
      (fun outcomes => outcomes.map (·.success)) = some [true, false, true] := by
    decide +kernel
  rcases hemit : effect (careful.emit false letters) letterWorld with ⟨stop | outcomes, files⟩
  · obtain ⟨w', hstart, -⟩ := start_eq_of_effect hemit
    rw [hstart] at hsuccess
    cases hsuccess
  · obtain ⟨w', hstart, -⟩ := start_eq_of_effect hemit
    rw [hstart] at hsuccess
    replace hsuccess : outcomes.map (·.success) = [true, false, true] := Option.some.inj hsuccess
    obtain ⟨⟨files', hstopped, htaken⟩, -⟩ := failure_cuts_short hemit
    have hcut : upToFailure outcomes = outcomes.take 2 := by
      obtain ⟨first, rest, rfl, hfirst, hrest⟩ := List.map_eq_cons_iff.1 hsuccess
      obtain ⟨second, rest, rfl, hsecond, hrest⟩ := List.map_eq_cons_iff.1 hrest
      rw [upToFailure_of_success hfirst, upToFailure_of_failure hsecond]
      rfl
    have hlength : (upToFailure outcomes).length = 2 := by
      rw [hcut, List.length_take, ← List.length_map, hsuccess]
      rfl
    rw [hlength, hcut] at htaken
    rw [hcut] at hstopped
    exact ⟨outcomes, files, files', rfl, hsuccess, hstopped, htaken⟩

end Scaffold.Emitter
