import Scaffold.Proofs.Batch
import Scaffold.Proofs.Rehearsal
import Scaffold.Proofs.Stumbling

/-!
# What a run writes over

A run changes files only at the targets of outcomes that succeeded, whether it returns or fails. So
a file that is none of these is the same for the runs to come, and a configuration that was loaded
from it is loaded again.
-/
namespace Scaffold

open Run

/-! ## What a run writes -/

/-- Emission writes only to the targets of outcomes that succeeded. -/
theorem Emitter.Emitted.evolves {e : Emitter} {artifacts : List Artifact}
    {outcomes : List Outcome} {w w' : World} (h : e.Emitted artifacts w outcomes w') :
    FileSystem.Evolves {q | ∃ o ∈ outcomes, o.success = true ∧ q = o.target.location} .univ
      w.files w'.files := by
  rcases h with ⟨rfl, hreached⟩ | ⟨done, a, after, reason, rfl, rfl, hreached⟩
  · refine hreached.files.mono ?_ (Set.subset_univ _)
    rintro q ⟨b, hb, rfl⟩
    exact ⟨e.written b, List.mem_map_of_mem hb, rfl, rfl⟩
  · refine hreached.files.mono ?_ (Set.subset_univ _)
    rintro q ⟨b, hb, rfl⟩
    exact ⟨e.written b, List.mem_append_left _ (List.mem_map_of_mem hb), rfl, rfl⟩

namespace Generator

/-- The places that a run writes to. Its steps report them even if it fails in the end. -/
def writes (g : Generator) (source : Source) (w : World) : List Location :=
  if g.dryRun then []
  else match ((g.steps source {}).start w).1 with
    | .ok report => report.written.map Path.location
    | .error _ => []

/-- Whether the runs for some sources, one after the other, do not write to a place. -/
def spares (g : Generator) (place : Location) : List Source → World → Bool
  | [], _ => true
  | source :: rest, w =>
    !(g.writes source w).contains place && spares g place rest ((g.batchEntry source).start w).2

variable {g : Generator} {source : Source} {w : World}

theorem mem_writes {s : Schema} {artifacts : List Artifact} {outcomes : List Outcome}
    {files : FileSystem} (hwet : g.dryRun = false)
    (hprepared : g.prepared source w = .ok (s, artifacts))
    (hemit : effect ((g.rooted w.directory).outcomes true artifacts) w = (.ok outcomes, files))
    {o : Outcome} (ho : o ∈ outcomes) (hsuccess : o.success = true) :
    o.target.location ∈ g.writes source w := by
  have hroot : Loading.hasNull g.root.text = false := by
    rw [Bool.eq_false_iff]
    intro hnull
    rw [prepared, if_pos hnull] at hprepared
    cases hprepared
  have hsteps := effect_steps hroot source {} w
  rw [hprepared] at hsteps
  dsimp only at hsteps
  rw [hemit] at hsteps
  have hreport : ((g.steps source {}).start w).1 =
      .ok (counting {} s artifacts outcomes w.lapse) := congrArg Prod.fst hsteps
  rw [writes, hwet, if_neg Bool.false_ne_true, hreport]
  have hwritten : o.target ∈ (counting {} s artifacts outcomes w.lapse).written :=
    List.mem_map_of_mem (List.mem_filter.2 ⟨ho, hsuccess⟩)
  exact List.mem_map_of_mem hwritten

theorem Turn.files_eq {entry : BatchEntry} {w' : World} (h : g.Turn source w entry w') :
    w'.files = ((g.generate source).start w).2.files := by
  cases h with
  | done hrun hsaid => rw [hrun, hsaid.files]
  | failed hrun hsaid => rw [hrun, hsaid.files]

/-- A run changes files only where it writes. -/
theorem evolves_generate (h : orderly ((g.generate source).start w).1 = true) :
    FileSystem.Evolves {place | place ∈ g.writes source w} .univ w.files
      ((g.generate source).start w).2.files := by
  have heffect := g.effect_generate source w
  have hresult : ((g.generate source).start w).1 = (effect (g.generate source) w).1 := rfl
  change FileSystem.Evolves _ _ _ (effect (g.generate source) w).2
  rw [hresult] at h
  rw [heffect] at h ⊢
  rcases hprepared : g.prepared source w with stop | ⟨s, artifacts⟩
  · exact .refl ..
  rw [hprepared] at h
  dsimp only at h ⊢
  cases hdry : g.dryRun with
  | true =>
    have hdrawn : (effect ((g.rooted w.directory).outcomes true artifacts) w).2 = w.files := by
      rw [Emitter.effect_outcomes_of_dry hdry]
    rcases hemit : effect ((g.rooted w.directory).outcomes true artifacts) w with
      ⟨stop | outcomes, files⟩
    all_goals
      rw [hemit] at hdrawn
      obtain rfl : files = w.files := hdrawn
      exact .refl ..
  | false =>
    have hended := Emitter.ends_outcomes (writes_rooted hdry w.directory) artifacts w
    rcases hemit : effect ((g.rooted w.directory).outcomes true artifacts) w with
      ⟨stop | outcomes, files⟩
    · obtain ⟨w', hstart, _⟩ := start_eq_of_effect hemit
      rw [Ends, hstart] at hended
      obtain ⟨b, rfl⟩ := hended
      rw [hemit] at h
      cases h
    · obtain ⟨w', hstart, rfl⟩ := start_eq_of_effect hemit
      rw [Ends, hstart] at hended
      have hevolves := Emitter.Emitted.evolves hended
      refine hevolves.mono ?_ (Set.Subset.refl _)
      rintro q ⟨o, ho, hsuccess, rfl⟩
      exact mem_writes hdry hprepared hemit ho hsuccess

end Generator

/-! ## The configuration -/

namespace Loading

theorem steady_config (path : Option String) : Steady (config path) := by
  cases path with
  | none => exact .pure _
  | some path =>
    refine .bind (steady_document _) fun es => ?_
    exact .bind (steady_checked _ Config.read es) fun c => .bind (.note ..) fun _ => .pure c

/-- Where a path has the same text, it has the same document. -/
theorem fst_start_document {w w' : World} {p : Path} {s : String} (horder : w'.order = w.order)
    (h : Holds w p s) (h' : Holds w' p s) :
    (start (document p) w').1 = (start (document p) w).1 := by
  refine Blind.fst_start_bind (steady_text p) horder ?_ fun s =>
    .bind (steady_parse p _ s) (blind_parse p _ s) fun d => ?_
  · rw [start_text_of_holds h, start_text_of_holds h']
  · split
    · exact .pure _
    · exact .fail _

/-- A configuration that was loaded is loaded again, as long as its file is not written over. -/
theorem fst_start_config {path : Option String} {c : Config} {w w' : World}
    {written made : Set Location} (h : ((config path).start w).1 = .ok c)
    (hsetting : SameSetting w w') (hfiles : FileSystem.Evolves written made w.files w'.files)
    (hspared : ∀ p, path = some p → (Path.ofString p).placeFrom w.directory ∉ written) :
    ((config path).start w').1 = .ok c := by
  cases path with
  | none => exact h
  | some path =>
    have hrun : (config (some path)).start w = (.ok c, _) := Prod.ext h rfl
    obtain ⟨es, w₁, hdocument, _⟩ := exists_of_start_bind hrun
    obtain ⟨s, w₂, htext, _⟩ := exists_of_start_bind hdocument
    obtain ⟨hholds, _⟩ := start_text_eq_ok_iff.1 htext
    have hholds' : Holds w' (Path.ofString path) s := by
      obtain ⟨content, t, hfind, hdecode, hs⟩ := hholds.decoded
      refine ⟨hholds.named, content, t, ?_, hdecode, hs⟩
      rw [hsetting.directory]
      exact hfiles.find_placeFrom (hspared path rfl) hfind
    rw [← h]
    refine Blind.fst_start_bind (steady_document _) hsetting.order
      (fst_start_document hsetting.order hholds hholds') fun es => ?_
    exact .bind (steady_checked _ Config.read es) (blind_checked _ Config.read es) fun c =>
      .bind (.note ..) (.note ..) fun _ => .pure c

end Loading

end Scaffold
