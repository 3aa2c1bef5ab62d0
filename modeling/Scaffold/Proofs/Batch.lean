import Scaffold.Proofs.Breakdowns
import Scaffold.Proofs.Steadiness

/-!
# Batches

The sources of a batch have their turns one after the other, each in the world that the turns
before it left. A source that fails before it writes leaves that world as it was, so the batch goes
on as if the source had not been there.
-/
namespace Scaffold

namespace Run

variable {α β : Type}

theorem start_mapM_cons {f : α → Run β} {a : α} {rest : List α} {b : β} {results : List β}
    {w w₁ w₂ : World} (hfirst : start (f a) w = (.ok b, w₁))
    (hrest : start (rest.mapM f) w₁ = (.ok results, w₂)) :
    start ((a :: rest).mapM f) w = (.ok (b :: results), w₂) := by
  rw [List.mapM_cons, start_bind_of_ok hfirst, start_bind_of_ok hrest]
  rfl

theorem start_mapM_append {f : α → Run β} {items more : List α} {results others : List β}
    {w w₁ w₂ : World} (hfirst : start (items.mapM f) w = (.ok results, w₁))
    (hmore : start (more.mapM f) w₁ = (.ok others, w₂)) :
    start ((items ++ more).mapM f) w = (.ok (results ++ others), w₂) := by
  rw [List.mapM_append, start_bind_of_ok hfirst, start_bind_of_ok hmore]
  rfl

/-- Timing a run adds to the journal only. -/
theorem exists_start_timed {act : Run α} {a : α} {w w₁ : World} (label : String)
    (h : start act w = (.ok a, w₁)) :
    ∃ elapsed w₂, start (timed label act) w = (.ok (a, elapsed), w₂) ∧ Unchanged w₁ w₂ := by
  have hends : Ends act w fun result w' => result = .ok a ∧ w' = w₁ :=
    ⟨congrArg Prod.fst h, congrArg Prod.snd h⟩
  have htimed : Ends (timed label act) w fun result w₂ =>
      ∃ elapsed, result = .ok (a, elapsed) ∧ Unchanged w₁ w₂ := by
    refine hends.timed ?_ ?_
    · rintro a' elapsed _ w₂ ⟨⟨⟩, rfl⟩ hafter
      exact ⟨elapsed, rfl, hafter⟩
    · rintro stop _ w₂ ⟨⟨⟩, _⟩
  obtain ⟨elapsed, hresult, hafter⟩ := htimed
  exact ⟨elapsed, _, Prod.ext hresult rfl, hafter⟩

end Run

open Run

namespace Generator

/-- A run that ended with a result or with a failure. -/
def orderly {α : Type} : Except Stop α → Bool
  | .error (.breakdown _) => false
  | _ => true

/-! ## Turns -/

/-- A turn in a batch: the entry of a source tells the report that it came to, or its failure. -/
inductive Turn (g : Generator) (source : Source) (w : World) : BatchEntry → World → Prop
  | done {report : Report} {w₁ w' : World} (h : (g.generate source).start w = (.ok report, w₁))
      (hsaid : Unchanged w₁ w') : Turn g source w (.done source.label report) w'
  | failed {f : Failure} {w₁ w' : World}
      (h : (g.generate source).start w = (.error (.failure f), w₁))
      (hsaid : Unchanged w₁ w') : Turn g source w (.failed source.label f) w'

/-- The turns of a batch: every source has one, in the world that those before it left. -/
inductive Turns (g : Generator) : List Source → World → List BatchEntry → World → Prop
  | nil (w : World) : Turns g [] w [] w
  | cons {source : Source} {rest : List Source} {w w₁ w₂ : World} {entry : BatchEntry}
      {entries : List BatchEntry} (hfirst : g.Turn source w entry w₁)
      (hrest : Turns g rest w₁ entries w₂) : Turns g (source :: rest) w (entry :: entries) w₂

/-- The world when some sources have had their turns. -/
def worldAfter (g : Generator) (sources : List Source) (w : World) : World :=
  sources.foldl (fun w source => ((g.batchEntry source).start w).2) w

/-- No source breaks down when its turn comes. -/
def provided (g : Generator) : List Source → World → Bool
  | [], _ => true
  | source :: rest, w =>
    orderly ((g.generate source).start w).1 && provided g rest ((g.batchEntry source).start w).2

theorem provided_append (g : Generator) (before rest : List Source) (w : World) :
    g.provided (before ++ rest) w =
      (g.provided before w && g.provided rest (g.worldAfter before w)) := by
  induction before generalizing w with
  | nil => exact (Bool.true_and _).symm
  | cons source before ih =>
    rw [List.cons_append, provided, provided, ih, Bool.and_assoc]
    rfl

variable {g : Generator} {source : Source} {sources : List Source} {w w' : World}
  {entry : BatchEntry} {entries : List BatchEntry}

theorem Turn.source_eq (h : g.Turn source w entry w') : entry.source = source.label := by
  cases h <;> rfl

theorem Turns.map_source (h : g.Turns sources w entries w') :
    entries.map (·.source) = sources.map Source.label := by
  induction h with
  | nil => rfl
  | cons hfirst _ ih => rw [List.map_cons, List.map_cons, hfirst.source_eq, ih]

theorem start_batchEntry_of_report {report : Report} {w₁ : World}
    (h : (g.generate source).start w = (.ok report, w₁)) :
    (g.batchEntry source).start w = (.ok (.done source.label report), w₁) := by
  have hattempt : (attempt (g.generate source)).start w = (.ok (.ok report), w₁) := by
    rw [attempt, start_bind_of_ok (start_settle ..), h]
    rfl
  exact start_bind_of_ok hattempt

/-- A failure is recorded, and told. -/
theorem start_batchEntry_of_failure {f : Failure} {w₁ : World}
    (h : (g.generate source).start w = (.error (.failure f), w₁)) :
    ∃ w', (g.batchEntry source).start w = (.ok (.failed source.label f), w') ∧
      Unchanged w₁ w' := by
  have hattempt : (attempt (g.generate source)).start w = (.ok (.error f), w₁) := by
    rw [attempt, start_bind_of_ok (start_settle ..), h]
    rfl
  exact ⟨_, start_bind_of_ok hattempt, _, rfl⟩

theorem exists_turn (h : orderly ((g.generate source).start w).1 = true) :
    ∃ entry w', (g.batchEntry source).start w = (.ok entry, w') ∧ g.Turn source w entry w' := by
  rcases hrun : (g.generate source).start w with ⟨(f | b) | report, w₁⟩
  · obtain ⟨w', hentry, hsaid⟩ := start_batchEntry_of_failure hrun
    exact ⟨_, w', hentry, .failed hrun hsaid⟩
  · rw [hrun] at h
    cases h
  · exact ⟨_, w₁, start_batchEntry_of_report hrun, .done hrun (.refl w₁)⟩

/-- Sources that do not break down have their turns in order. -/
theorem exists_turns (h : g.provided sources w = true) :
    ∃ entries, (sources.mapM g.batchEntry).start w = (.ok entries, g.worldAfter sources w) ∧
      g.Turns sources w entries (g.worldAfter sources w) := by
  induction sources generalizing w with
  | nil => exact ⟨[], rfl, .nil w⟩
  | cons source rest ih =>
    obtain ⟨hfirst, hrest⟩ := Bool.and_eq_true_iff.1 h
    obtain ⟨entry, w₁, hentry, hturn⟩ := exists_turn hfirst
    have hworld : g.worldAfter (source :: rest) w = g.worldAfter rest w₁ := by
      rw [worldAfter, List.foldl_cons, hentry]
      rfl
    rw [hentry] at hrest
    obtain ⟨entries, hentries, hturns⟩ := ih hrest
    rw [hworld]
    exact ⟨entry :: entries, start_mapM_cons hentry hentries, .cons hturn hturns⟩

/-! ## The report -/

/-- A batch that returns: its report has an entry for each source, in order, and tells success if
and only if every entry does. -/
structure Reports (g : Generator) (sources : List Source) (w : World) (report : BatchReport)
    (w' : World) : Prop where
  returned : (g.batch sources).start w = (.ok report, w')
  turns : ∃ w₁, g.Turns sources w report.entries w₁ ∧ Unchanged w₁ w'
  sources : report.entries.map (·.source) = sources.map Source.label
  success : report.success = true ↔ ∀ entry ∈ report.entries, entry.success = true

/-- A batch whose sources do not break down returns. -/
theorem exists_reports (h : g.provided sources w = true) :
    ∃ report w', g.Reports sources w report w' ∧
      (sources.mapM g.batchEntry).start w = (.ok report.entries, g.worldAfter sources w) ∧
      Unchanged (g.worldAfter sources w) w' := by
  obtain ⟨entries, hentries, hturns⟩ := exists_turns h
  obtain ⟨elapsed, w₁, htimed, htime⟩ := exists_start_timed "generate_batch" hentries
  obtain ⟨w', hreturned, htold⟩ : ∃ w',
      (g.batch sources).start w = (.ok ⟨entries, elapsed⟩, w') ∧ Unchanged w₁ w' :=
    ⟨_, start_bind_of_ok htimed, _, rfl⟩
  have hsaid := htime.trans htold
  refine ⟨⟨entries, elapsed⟩, w', ?_, hentries, hsaid⟩
  exact ⟨hreturned, ⟨_, hturns, hsaid⟩, hturns.map_source, List.all_eq_true⟩

/-! ## Isolation -/

/-- A source that fails before it writes leaves the world as it was. -/
theorem unchanged_of_failure {f : Failure} {w₁ : World}
    (h : (g.generate source).start w = (.error (.failure f), w₁)) (hearly : ¬ f.isWriting) :
    Unchanged w w₁ := by
  have hsetting := (g.steady_generate source).setting w
  rw [h] at hsetting
  exact hsetting.unchanged (files_of_failure h hearly)

/-- What was said does not matter to a batch. -/
theorem provided_of_unchanged (h : Unchanged w w') :
    g.provided sources w' = g.provided sources w := by
  induction sources generalizing w w' with
  | nil => rfl
  | cons source rest ih =>
    have hresult := ((g.steady_generate source).deaf w w' h).1
    have hworlds := ((g.steady_batchEntry source).deaf w w' h).2
    rw [provided, provided, hresult, ih hworlds]

/-- The failure of a source that fails before it writes anything is all that tells a batch from the
batch without that source. -/
theorem batch_isolates {before rest : List Source} {f : Failure}
    (hprovided : g.provided (before ++ source :: rest) w = true)
    (hfails : ((g.generate source).start (g.worldAfter before w)).1 = .error (.failure f))
    (hearly : f.isDocument ∨ f.isRendering) :
    ∃ whole w₁ short w₂, g.Reports (before ++ source :: rest) w whole w₁ ∧
      g.Reports (before ++ rest) w short w₂ ∧ w₁.files = w₂.files ∧
      ∃ first others, first.length = before.length ∧ short.entries = first ++ others ∧
        whole.entries = first ++ .failed source.label f :: others := by
  have hparts := hprovided
  rw [provided_append, provided, Bool.and_eq_true_iff, Bool.and_eq_true_iff] at hparts
  obtain ⟨hbefore, _, hrest⟩ := hparts
  -- The failing source leaves the rest a world that differs in its journal only.
  have hrun : (g.generate source).start (g.worldAfter before w) = (.error (.failure f), _) :=
    Prod.ext hfails rfl
  obtain ⟨w₀, hentry, htold⟩ := start_batchEntry_of_failure hrun
  have hspared := (unchanged_of_failure hrun (Failure.not_isWriting hearly)).trans htold
  rw [hentry, provided_of_unchanged hspared] at hrest
  have hshorter : g.provided (before ++ rest) w = true := by
    rw [provided_append, hbefore, hrest]
    rfl
  obtain ⟨whole, w₁, hwhole, hentries, hafter⟩ := exists_reports hprovided
  obtain ⟨short, w₂, hshort, hentries', hafter'⟩ := exists_reports hshorter
  obtain ⟨first, hfirst, hturns⟩ := exists_turns hbefore
  obtain ⟨others, hothers, _⟩ := exists_turns hrest
  obtain ⟨hsame, hworlds⟩ := (Steady.mapM g.steady_batchEntry rest).deaf _ w₀ hspared
  rw [hothers] at hsame hworlds
  dsimp only at hsame hworlds
  have hothers' : (rest.mapM g.batchEntry).start w₀ = (.ok others, _) := Prod.ext hsame rfl
  rw [start_mapM_append hfirst (start_mapM_cons hentry hothers')] at hentries
  rw [start_mapM_append hfirst hothers] at hentries'
  obtain ⟨hwholeEntries, hwholeWorld⟩ := Prod.mk.inj hentries
  obtain ⟨hshortEntries, hshortWorld⟩ := Prod.mk.inj hentries'
  refine ⟨whole, w₁, short, w₂, hwhole, hshort, ?_, first, others, ?_, ?_, ?_⟩
  · rw [hafter.files, hafter'.files, ← hwholeWorld, ← hshortWorld]
    exact hworlds.files
  · have hlabels := congrArg List.length hturns.map_source
    simpa only [List.length_map] using hlabels
  · exact (Except.ok.inj hshortEntries).symm
  · exact (Except.ok.inj hwholeEntries).symm

/-- The path that a run could not read, and why. -/
def unread? {α : Type} : Except Stop α → Option (String × String)
  | .error (.failure (.unreadable path reason)) => some (path, reason)
  | _ => none

theorem eq_of_unread? {α : Type} {result : Except Stop α} {path reason : String}
    (h : unread? result = some (path, reason)) :
    result = .error (.failure (.unreadable path reason)) := by
  unfold unread? at h
  split at h
  · cases h
    rfl
  · cases h

/-- Between two notes, a schema that is not there. -/
theorem gone_isolated :
    ∃ whole w₁ short w₂,
      plain.Reports [.entries noteEntries, .file "gone.yaml", .entries noteEntries] bareWorld
        whole w₁ ∧
      plain.Reports [.entries noteEntries, .entries noteEntries] bareWorld short w₂ ∧
      w₁.files = w₂.files ∧ short.success = true ∧
      ∃ first others, first.length = 1 ∧ short.entries = first ++ others ∧ whole.entries =
        first ++ .failed "gone.yaml" (.unreadable "gone.yaml" "file not found") :: others := by
  have hprovided : plain.provided ([.entries noteEntries] ++ .file "gone.yaml" ::
      [.entries noteEntries]) bareWorld = true := by
    decide +kernel
  have hfails : unread? ((plain.generate (.file "gone.yaml")).start
      (plain.worldAfter [.entries noteEntries] bareWorld)).1 =
        some ("gone.yaml", "file not found") := by
    decide +kernel
  have hearly : (Failure.unreadable "gone.yaml" "file not found").isDocument ∨
      (Failure.unreadable "gone.yaml" "file not found").isRendering := .inl trivial
  obtain ⟨whole, w₁, short, w₂, hwhole, hshort, hfiles, hentries⟩ :=
    batch_isolates hprovided (eq_of_unread? hfails) hearly
  refine ⟨whole, w₁, short, w₂, hwhole, hshort, hfiles, ?_, hentries⟩
  have hsuccess : (((plain.batch [.entries noteEntries, .entries noteEntries]).start
      bareWorld).1.map BatchReport.success).toOption = some true := by
    decide +kernel
  have hreturned : (plain.batch [.entries noteEntries, .entries noteEntries]).start bareWorld =
      (.ok short, w₂) := hshort.returned
  rw [hreturned] at hsuccess
  exact Option.some.inj hsuccess

end Generator
end Scaffold
