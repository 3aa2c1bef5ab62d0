import Scaffold.Proofs.Breakdowns
import Scaffold.Proofs.Interference
import Scaffold.Proofs.Steadiness

/-!
# What a run comes to

A run that does not hear is known by its result and by the files that it leaves. This effect is
found part by part: that of a sequence is the effect of its first part and then of the rest, in the
same place and at the same time with the files as they are by then. For a run of a generator two
things are left: what is prepared from the source, without a look at the files but for the source
itself, and what becomes of the artifacts.
-/
namespace Scaffold

open Number

/-- How long a step takes by a clock that stands still. -/
def World.lapse (w : World) : Binary64 := w.reading.sub w.reading

namespace Run

variable {α β : Type}

/-- The result of a run, and the files as it leaves them. -/
def effect (act : Run α) (w : World) : Except Stop α × FileSystem :=
  ((start act w).1, (start act w).2.files)

@[simp] theorem effect_get_bind (next : World → Run β) (w : World) :
    effect (get >>= next) w = effect (next w) w := rfl

theorem start_eq_of_effect {act : Run α} {w : World} {result : Except Stop α}
    {files : FileSystem} (h : effect act w = (result, files)) :
    ∃ w', start act w = (result, w') ∧ w'.files = files := by
  obtain ⟨hresult, hfiles⟩ := Prod.mk.inj h
  exact ⟨_, Prod.ext hresult rfl, hfiles⟩

theorem effect_eq_of_start {act : Run α} {w w' : World} {result : Except Stop α}
    (h : start act w = (result, w')) : effect act w = (result, w'.files) := by
  rw [effect, h]

theorem Observes.effect_eq {allowed : Failure → Prop} {act : Run α} (h : Observes allowed act)
    (w : World) : effect act w = ((start act w).1, w.files) := by
  rw [effect, (h.unchanged w).files]

/-- A run that sees nothing of a world but the order of its sets. -/
structure Blind (act : Run α) : Prop where
  result : ∀ w w', w'.order = w.order → (start act w').1 = (start act w).1

namespace Blind

theorem pure (a : α) : Blind (pure a) := ⟨fun _ _ _ => rfl⟩

theorem fail (f : Failure) : Blind (fail f : Run α) := ⟨fun _ _ _ => rfl⟩

theorem breakDown (b : Breakdown) : Blind (breakDown b : Run α) := ⟨fun _ _ _ => rfl⟩

theorem note (level : Level) (speaker : Speaker) (message : String) :
    Blind (note level speaker message) := ⟨fun _ _ _ => rfl⟩

/-- What is blind does not make a difference between worlds in which its input is the same. -/
theorem fst_start_bind {act : Run α} {next : α → Run β} {w w' : World} (hact : Steady act)
    (horder : w'.order = w.order) (h : (start act w').1 = (start act w).1)
    (h' : ∀ a, Blind (next a)) : (start (act >>= next) w').1 = (start (act >>= next) w).1 := by
  have hafter : (start act w').2.order = (start act w).2.order :=
    ((hact.setting w').order.trans horder).trans (hact.setting w).order.symm
  rcases hrun : start act w with ⟨stop | a, v⟩
  · have hrun' : start act w' = (.error stop, (start act w').2) := Prod.ext (by rw [h, hrun]) rfl
    rw [start_bind_of_error hrun, start_bind_of_error hrun']
  · have hrun' : start act w' = (.ok a, (start act w').2) := Prod.ext (by rw [h, hrun]) rfl
    rw [start_bind_of_ok hrun, start_bind_of_ok hrun']
    rw [hrun] at hafter
    exact (h' a).result v _ hafter

theorem bind {act : Run α} {next : α → Run β} (hact : Steady act) (h : Blind act)
    (h' : ∀ a, Blind (next a)) : Blind (act >>= next) :=
  ⟨fun w w' horder => fst_start_bind hact horder (h.result w w' horder) h'⟩

end Blind

namespace Steady

variable {act : Run α} {next : α → Run β} {w : World} {files : FileSystem}

theorem effect_of_unchanged (h : Steady act) {w' : World} (hsame : Unchanged w w') :
    effect act w' = effect act w := by
  obtain ⟨hresult, hworlds⟩ := h.deaf w w' hsame
  rw [effect, effect, hresult, hworlds.files]

/-- A run that comes to a result stays in its place and its time. -/
theorem exists_start (h : Steady act) {result : Except Stop α}
    (hact : effect act w = (result, files)) :
    ∃ w', start act w = (result, w') ∧ w'.files = files ∧ SameSetting w w' := by
  obtain ⟨w', hstart, hfiles⟩ := start_eq_of_effect hact
  have hsetting := h.setting w
  rw [hstart] at hsetting
  exact ⟨w', hstart, hfiles, hsetting⟩

/-- A run that leaves the files leaves all that later runs depend on. -/
theorem exists_start_unchanged (h : Steady act) {result : Except Stop α}
    (hact : effect act w = (result, w.files)) :
    ∃ w', start act w = (result, w') ∧ Unchanged w w' := by
  obtain ⟨w', hstart, hfiles, hsetting⟩ := h.exists_start hact
  exact ⟨w', hstart, hsetting.unchanged hfiles⟩

/-- The rest of a run goes on with the files as they are by then. -/
theorem effect_bind_of_ok (h : Steady act) {a : α} (hnext : Steady (next a))
    (hact : effect act w = (.ok a, files)) :
    effect (act >>= next) w = effect (next a) { w with files } := by
  obtain ⟨w', hstart, rfl⟩ := start_eq_of_effect hact
  have hsetting := h.setting w
  rw [hstart] at hsetting
  have hsame : Unchanged { w with files := w'.files } w' :=
    SameSetting.unchanged ⟨hsetting.directory, hsetting.now, hsetting.reading, hsetting.order⟩ rfl
  rw [← hnext.effect_of_unchanged hsame, effect, effect, start_bind_of_ok hstart]

theorem effect_bind_of_error {stop : Stop} (hact : effect act w = (.error stop, files)) :
    effect (act >>= next) w = (.error stop, files) := by
  obtain ⟨w', hstart, rfl⟩ := start_eq_of_effect hact
  rw [effect, start_bind_of_error hstart]

theorem effect_bind (h : Steady act) (hnext : ∀ a, Steady (next a)) (w : World) :
    effect (act >>= next) w = match effect act w with
      | (.ok a, files) => effect (next a) { w with files }
      | (.error stop, files) => (.error stop, files) := by
  rcases hact : effect act w with ⟨stop | a, files⟩
  · exact effect_bind_of_error hact
  · exact h.effect_bind_of_ok (hnext a) hact

theorem effect_settle (act : Run α) (w : World) :
    effect (Run.settle act) w = (.ok (effect act w).1, (effect act w).2) := rfl

theorem effect_attempt (h : Steady act) (w : World) :
    effect (Run.attempt act) w = match effect act w with
      | (.ok a, files) => (.ok (.ok a), files)
      | (.error (.failure f), files) => (.ok (.error f), files)
      | (.error (.breakdown b), files) => (.error (.breakdown b), files) := by
  unfold Run.attempt
  rw [h.settle.effect_bind, effect_settle]
  · rcases effect act w with ⟨(f | b) | a, files⟩ <;> rfl
  · rintro ((f | b) | a)
    · exact .pure _
    · exact .breakDown b
    · exact .pure _

/-- Taking the time of a run adds the lapse to its result. -/
theorem effect_timed (h : Steady act) (label : String) (w : World) :
    effect (Run.timed label act) w =
      ((effect act w).1.map fun a => (a, w.lapse), (effect act w).2) := by
  have hreading := (h.setting w).reading
  unfold effect Run.timed
  rw [start_bind_of_ok (start_get w), start_bind_of_ok (start_settle act w)]
  rcases hrun : start act w with ⟨stop | a, w'⟩
  · rfl
  · rw [hrun] at hreading
    have helapsed : (Timer.between label w.reading w'.reading).elapsed = w.lapse :=
      congrArg (fun reading => reading.sub w.reading) hreading
    rw [← helapsed]
    rfl

/-- Items that leave the files alone are taken one by one. -/
theorem effect_mapM {f : α → Run β} {result : α → Except Stop β} (h : ∀ a, Steady (f a))
    (w : World) (hf : ∀ a, effect (f a) w = (result a, w.files)) (items : List α) :
    effect (items.mapM f) w = (items.mapM result, w.files) := by
  induction items with
  | nil => rfl
  | cons a rest ih =>
    rw [List.mapM_cons, List.mapM_cons]
    have hrest : Steady (rest.mapM f) := mapM h rest
    cases hresult : result a with
    | error stop =>
      rw [effect_bind_of_error ((hf a).trans (by rw [hresult]))]
      rfl
    | ok b =>
      have hfirst : effect (f a) w = (.ok b, w.files) := by rw [hf a, hresult]
      rw [(h a).effect_bind_of_ok (hrest.bind fun _ => .pure _) hfirst,
        hrest.effect_bind fun _ => .pure _, ih]
      cases rest.mapM result <;> rfl

end Steady
end Run

open Run
open Artifact (Kind)

/-! ## Loading -/

namespace Loading

theorem blind_ofYaml (p : Path) (s : String) : Blind (ofYaml p s) := by
  unfold ofYaml
  split
  · next d _ =>
    refine ⟨fun w w' horder => ?_⟩
    change Except.ok (d.arranged w'.order) = .ok (d.arranged w.order)
    rw [horder]
  · exact .fail _
  · exact .breakDown _

theorem blind_jsonOrWhy (s : String) : Blind (jsonOrWhy s) := by
  unfold jsonOrWhy
  split
  · exact .breakDown _
  · exact .breakDown _
  · exact .pure _

theorem blind_parse (p : Path) (suffix s : String) : Blind (parse p suffix s) := by
  unfold parse
  split
  · exact blind_ofYaml p s
  · refine .bind (steady_jsonOrWhy s) (blind_jsonOrWhy s) fun result => ?_
    cases result with
    | error e => exact .fail _
    | ok d => exact .pure d
  · refine .bind (.note ..) (.note ..) fun _ => ?_
    refine .bind (steady_jsonOrWhy s) (blind_jsonOrWhy s) fun result => ?_
    cases result with
    | error e => exact blind_ofYaml p s
    | ok d => exact .pure d

theorem blind_checked {α : Type} (source : Option String) (read : Reading α) (entries : Entries) :
    Blind (checked source read entries) := by
  unfold checked
  split
  · exact .pure _
  · exact .fail _

end Loading

/-! ## Emission -/

theorem effect_resolve {p : Path} (h : Loading.hasNull p.text = false) (w : World) :
    effect (resolve p) w =
      (.ok ⟨.absolute, (FileSystem.absolute w.directory p).names⟩, w.files) := by
  unfold resolve
  rw [h]
  rfl

theorem effect_resolve_of_hasNull {p : Path} (h : Loading.hasNull p.text = true) (w : World) :
    effect (resolve p) w = (.error (.breakdown .nullCharacter), w.files) := by
  unfold resolve
  rw [h]
  rfl

/-- Emission without a failure has written all artifacts. -/
theorem Emitter.reached_of_outcomes {e : Emitter} (h : e.Writes) {artifacts : List Artifact}
    {w w' : World} {outcomes : List Outcome}
    (hemit : (e.outcomes true artifacts).start w = (.ok outcomes, w'))
    (hnone : outcomes.findSome? (·.failure) = none) :
    outcomes = artifacts.map e.written ∧ e.Reached w artifacts [] w' := by
  have hended := ends_outcomes h artifacts w
  rw [Ends, hemit] at hended
  obtain hall | ⟨done, a, after, reason, rfl, rfl, _⟩ := hended
  · exact hall
  · rw [Generator.findSome?_failure_refused] at hnone
    cases hnone

/-- Artifacts are emitted one by one, all of them or up to the first that is not written. -/
theorem Emitter.effect_outcomes_step (e : Emitter) (failFast : Bool) (a : Artifact)
    (rest : List Artifact) (w : World) :
    effect (e.outcomes failFast (a :: rest)) w = match effect (e.emitOne a) w with
      | (.error stop, files) => (.error stop, files)
      | (.ok outcome, files) =>
        if !outcome.success && failFast then (.ok [outcome], files)
        else match effect (e.outcomes failFast rest) { w with files } with
          | (.error stop, files) => (.error stop, files)
          | (.ok outcomes, files) => (.ok (outcome :: outcomes), files) := by
  have hrest := e.steady_outcomes failFast rest
  have hnext (outcome : Outcome) : Steady (if (!outcome.success && failFast) = true then do
        Run.note .debug .emitter s!"fail_fast: stopping after {outcome.target.text}."
        return [outcome]
      else return outcome :: (← e.outcomes failFast rest)) := by
    split
    · exact .bind (.note ..) fun _ => .pure _
    · exact hrest.bind fun _ => .pure _
  rw [outcomes]
  rcases hemit : effect (e.emitOne a) w with ⟨stop | outcome, files⟩
  · exact Steady.effect_bind_of_error hemit
  rw [(e.steady_emitOne a).effect_bind_of_ok (hnext outcome) hemit]
  dsimp only
  split
  · rfl
  · rw [hrest.effect_bind fun _ => .pure _]
    rcases effect (e.outcomes failFast rest) { w with files } with ⟨stop | outcomes, files'⟩ <;> rfl

/-- Artifacts are emitted one by one, up to the first that is not written. -/
theorem Emitter.effect_outcomes_cons (e : Emitter) (a : Artifact) (rest : List Artifact)
    (w : World) :
    effect (e.outcomes true (a :: rest)) w = match effect (e.emitOne a) w with
      | (.error stop, files) => (.error stop, files)
      | (.ok outcome, files) =>
        if outcome.success then match effect (e.outcomes true rest) { w with files } with
          | (.error stop, files) => (.error stop, files)
          | (.ok outcomes, files) => (.ok (outcome :: outcomes), files)
        else (.ok [outcome], files) := by
  rw [effect_outcomes_step]
  rcases effect (e.emitOne a) w with ⟨stop | outcome, files⟩
  · rfl
  · cases hsuccess : outcome.success <;> simp [hsuccess]

/-- Emission of a list without a failure is that of its first artifact, and then of the others. -/
theorem Emitter.exists_of_effect_outcomes_cons {e : Emitter} {a : Artifact} {rest : List Artifact}
    {w : World} {outcomes : List Outcome} {files : FileSystem}
    (hemit : effect (e.outcomes true (a :: rest)) w = (.ok outcomes, files))
    (hnone : outcomes.findSome? (·.failure) = none) :
    ∃ outcome mid others, effect (e.emitOne a) w = (.ok outcome, mid) ∧ outcome.success = true ∧
      effect (e.outcomes true rest) { w with files := mid } = (.ok others, files) ∧
      others.findSome? (·.failure) = none := by
  rw [effect_outcomes_cons] at hemit
  rcases hfirst : effect (e.emitOne a) w with ⟨stop | outcome, mid⟩
  · rw [hfirst] at hemit
    cases hemit
  rw [hfirst] at hemit
  dsimp only at hemit
  split at hemit
  · next hsuccess =>
    rcases hrest : effect (e.outcomes true rest) { w with files := mid } with
      ⟨stop | others, after⟩
    all_goals
      rw [hrest] at hemit
      cases hemit
    rw [List.findSome?_cons, Option.isNone_iff_eq_none.1 hsuccess] at hnone
    exact ⟨outcome, mid, others, rfl, hsuccess, hrest, hnone⟩
  · next hfailed =>
    cases hemit
    rw [List.findSome?_singleton] at hnone
    exact absurd (Option.isNone_iff_eq_none.2 hnone) hfailed

theorem Emitter.half_of_effect_emitOne {e : Emitter} {a : Artifact} {w : World} {outcome : Outcome}
    {files : FileSystem} (h : effect (e.emitOne a) w = (.ok outcome, files)) : a.half = false := by
  by_contra hhalf
  rw [emitOne_of_half e (Bool.eq_true_of_not_eq_false hhalf)] at h
  cases h

/-- Emission without a failure came across no half of a character. -/
theorem Emitter.half_of_effect_outcomes {e : Emitter} {artifacts : List Artifact} {w : World}
    {outcomes : List Outcome} {files : FileSystem}
    (hemit : effect (e.outcomes true artifacts) w = (.ok outcomes, files))
    (hnone : outcomes.findSome? (·.failure) = none) : ∀ a ∈ artifacts, a.half = false := by
  induction artifacts generalizing w outcomes with
  | nil => exact List.forall_mem_nil _
  | cons a rest ih =>
    obtain ⟨_, _, _, hfirst, _, hrest, hnone⟩ := exists_of_effect_outcomes_cons hemit hnone
    exact List.forall_mem_cons.2 ⟨half_of_effect_emitOne hfirst, ih hrest hnone⟩

theorem Emitter.effect_emit (e : Emitter) (failFast : Bool) (artifacts : List Artifact)
    (w : World) :
    effect (e.emit failFast artifacts) w = effect (e.outcomes failFast artifacts) w := by
  unfold Emitter.emit
  have hsteady := e.steady_outcomes failFast artifacts
  rw [(Steady.timed "emit" hsteady).effect_bind, hsteady.effect_timed]
  · rcases effect (e.outcomes failFast artifacts) w with ⟨stop | outcomes, files⟩
    · rfl
    · dsimp only [Except.map]
      split <;> rfl
  · rintro ⟨outcomes, elapsed⟩
    dsimp only
    split
    · exact .bind (.note ..) fun _ => .pure _
    · exact .bind (.note ..) fun _ => .pure _

namespace Generator

theorem effect_start {g : Generator} (h : Loading.hasNull g.root.text = false) (w : World) :
    effect g.emitter.start w = (.ok (g.rooted w.directory), w.files) := by
  have hroot : Steady (resolve g.emitter.root) := steady_resolve g.root
  unfold Emitter.start
  rw [hroot.effect_bind_of_ok (.bind (.note ..) fun _ => .pure _) (effect_resolve h w)]
  rfl

/-! ## Preparing -/

/-- All artifacts of a schema, or what keeps the first one from being made. -/
def artifactResults (g : Generator) (timestamp : String) (s : Schema) :
    Except Stop (List Artifact) :=
  Kind.all.mapM (g.artifactResult timestamp s)

theorem effect_artifacts (g : Generator) (s : Schema) (w : World) :
    effect (g.artifacts none s) w =
      (g.artifactResults (w.now.format g.config.timestampFormat) s, w.files) := by
  rw [effect, start_artifacts]
  refine Steady.effect_mapM (g.steady_artifact _ s) w (fun kind => ?_) Kind.all
  rw [(g.observes_artifact _ s kind).effect_eq, fst_start_artifact]

/-- What a run makes of its source before it writes: a schema and its artifacts. -/
def prepared (g : Generator) (source : Source) (w : World) :
    Except Stop (Schema × List Artifact) :=
  if Loading.hasNull g.root.text then .error (.breakdown .nullCharacter)
  else match ((Loading.schema source).start w).1 with
    | .error stop => .error stop
    | .ok s => (g.artifactResults (w.now.format g.config.timestampFormat) s).map fun artifacts =>
      (s, artifacts.map (marked source w))

variable {g : Generator} {source : Source} {s : Schema} {artifacts : List Artifact} {w : World}

theorem prepared_of_error (hroot : Loading.hasNull g.root.text = false) {stop : Stop}
    (hload : ((Loading.schema source).start w).1 = .error stop) :
    g.prepared source w = .error stop := by
  rw [prepared, if_neg (Bool.eq_false_iff.1 hroot), hload]

theorem prepared_of_loaded (hroot : Loading.hasNull g.root.text = false)
    (hload : ((Loading.schema source).start w).1 = .ok s) : g.prepared source w =
      (g.artifactResults (w.now.format g.config.timestampFormat) s).map fun artifacts =>
        (s, artifacts.map (marked source w)) := by
  rw [prepared, if_neg (Bool.eq_false_iff.1 hroot), hload]

/-- A report with what became of the artifacts of a schema. -/
def counting (report : Report) (s : Schema) (artifacts : List Artifact) (outcomes : List Outcome)
    (lapse : Binary64) : Report :=
  let written := (outcomes.filter (·.success)).length
  { report with
    entity := s.name
    table := s.table
    outcomes
    steps := [
      ⟨"Load Schema", true, lapse,
        s!"{s.columns.length} columns, {s.operations.length} operations"⟩,
      ⟨"Render Templates", true, lapse, s!"{artifacts.length} artifacts"⟩,
      ⟨"Write Files", outcomes.all (·.success), lapse, s!"{written} written"⟩] }

/-- A report before anything is done. -/
def blank (g : Generator) (source : Source) (cwd : Location) : Report :=
  { source := source.label, root := (g.rooted cwd).root.text, dryRun := g.dryRun }

/-- The report of a run, not yet judged. -/
def account (g : Generator) (source : Source) (w : World) (s : Schema)
    (artifacts : List Artifact) (outcomes : List Outcome) : Report :=
  totalled (counting (g.blank source w.directory) s artifacts outcomes w.lapse) w.lapse

/-- A report is passed unless an artifact failed. -/
def judged (report : Report) : Except Stop Report :=
  match report.outcomes.findSome? (·.failure) with
  | some failure => .error (.failure failure)
  | none => .ok { report with success := true }

theorem judged_eq_ok_iff {report report' : Report} : judged report = .ok report' ↔
    report.outcomes.findSome? (·.failure) = none ∧ report' = { report with success := true } := by
  unfold judged
  cases report.outcomes.findSome? (·.failure) with
  | some failure => simp
  | none => simp [eq_comm]

theorem judged_eq_error_iff {report : Report} {f : Failure} :
    judged report = .error (.failure f) ↔ report.outcomes.findSome? (·.failure) = some f := by
  unfold judged
  cases report.outcomes.findSome? (·.failure) <;> simp

/-- Loading takes nothing from the files but the source. -/
theorem effect_schema (source : Source) (w : World) :
    effect (Loading.schema source) w = (((Loading.schema source).start w).1, w.files) :=
  (Loading.onlyReads_schema source).effect_eq w

/-- The last steps of a run: the artifacts are emitted, and a report is made of what became of
them. -/
def emission (g : Generator) (source : Source) (artifacts : List Artifact)
    (report : List Outcome × Binary64 → Report) : Run Report := do
  let w ← get
  let emitter ← g.emitter.start
  let emitted ← Run.timed "emit" (emitter.emit true (artifacts.map (marked source w)))
  return report emitted

theorem steady_emission (g : Generator) (source : Source) (artifacts : List Artifact)
    (report : List Outcome × Binary64 → Report) : Steady (g.emission source artifacts report) := by
  refine .look (fun w journal => ?_) fun w => ?_
  · rw [List.map_congr_left fun a _ => marked_of_unchanged source ⟨journal, rfl⟩ a]
  · exact g.emitter.steady_start.bind fun e =>
      .bind (.timed "emit" (e.steady_emit true _)) fun _ => .pure _

theorem effect_emission {g : Generator} (hroot : Loading.hasNull g.root.text = false)
    (source : Source) (artifacts : List Artifact) (report : List Outcome × Binary64 → Report)
    (w : World) :
    effect (g.emission source artifacts report) w =
      match effect ((g.rooted w.directory).outcomes true (artifacts.map (marked source w))) w with
      | (.error stop, files) => (.error stop, files)
      | (.ok outcomes, files) => (.ok (report (outcomes, w.lapse)), files) := by
  unfold emission
  rw [effect_get_bind]
  generalize artifacts.map (marked source w) = artifacts
  have hemit := (g.rooted w.directory).steady_emit true artifacts
  have hwrite := hemit.timed "emit"
  rw [g.emitter.steady_start.effect_bind_of_ok (hwrite.bind fun _ => .pure _)
      (effect_start hroot w), hwrite.effect_bind fun _ => .pure _, hemit.effect_timed,
    Emitter.effect_emit]
  rcases effect ((g.rooted w.directory).outcomes true artifacts) w with ⟨stop | outcomes, files⟩
  · rfl
  · rfl

/-- A report tells how many artifacts there are, and no more of them than what became of them. -/
theorem counting_map (report : Report) (s : Schema) (artifacts : List Artifact)
    (mark : Artifact → Artifact) (outcomes : List Outcome) (lapse : Binary64) :
    counting report s (artifacts.map mark) outcomes lapse =
      counting report s artifacts outcomes lapse := by
  rw [counting, List.length_map]
  rfl

/-- The steps of a run: what is prepared, then what becomes of the artifacts. -/
theorem effect_steps {g : Generator} (hroot : Loading.hasNull g.root.text = false)
    (source : Source) (report : Report) (w : World) :
    effect (g.steps source report) w = match g.prepared source w with
      | .error stop => (.error stop, w.files)
      | .ok (s, artifacts) =>
        match effect ((g.rooted w.directory).outcomes true artifacts) w with
        | (.error stop, files) => (.error stop, files)
        | (.ok outcomes, files) => (.ok (counting report s artifacts outcomes w.lapse), files) := by
  have hload := (Loading.steady_schema source).effect_timed "load" w
  rw [effect_schema] at hload
  unfold prepared
  rw [hroot, if_neg Bool.false_ne_true]
  rcases hschema : ((Loading.schema source).start w).1 with stop | s
  · rw [hschema] at hload
    exact Steady.effect_bind_of_error hload
  rw [hschema] at hload
  have hrender := (g.steady_artifacts s).effect_timed "render" w
  rw [effect_artifacts] at hrender
  unfold steps
  rw [(Steady.timed "load" (Loading.steady_schema source)).effect_bind_of_ok _ hload]
  · dsimp only
    rcases hmade : g.artifactResults (w.now.format g.config.timestampFormat) s with stop | artifacts
    · rw [hmade] at hrender
      exact Steady.effect_bind_of_error hrender
    rw [hmade] at hrender
    dsimp only [Except.map]
    simp only [counting_map]
    exact ((Steady.timed "render" (g.steady_artifacts s)).effect_bind_of_ok
      (g.steady_emission source artifacts _) hrender).trans
        (effect_emission hroot source artifacts _ w)
  · exact .bind (.timed "render" (g.steady_artifacts s)) fun rendered =>
      g.steady_emission source rendered.1 _

/-- A whole run: what is prepared, what becomes of the artifacts, and what is said of that. -/
theorem effect_generate (g : Generator) (source : Source) (w : World) :
    effect (g.generate source) w = match g.prepared source w with
      | .error stop => (.error stop, w.files)
      | .ok (s, artifacts) =>
        match effect ((g.rooted w.directory).outcomes true artifacts) w with
        | (.error stop, files) => (.error stop, files)
        | (.ok outcomes, files) => (judged (g.account source w s artifacts outcomes), files) := by
  unfold generate
  cases hroot : Loading.hasNull g.root.text with
  | true =>
    rw [Steady.effect_bind_of_error (effect_resolve_of_hasNull hroot w), prepared, if_pos hroot]
  | false =>
    have hsteps (report : Report) := g.steady_steps source report
    have hjudge (stepped : Report × Binary64) : Steady (do
        let report := totalled stepped.1 stepped.2
        match report.outcomes.findSome? (·.failure) with
        | some failure => Run.fail failure
        | none =>
          let report := { report with success := true }
          Run.note .info .generator report.description
          return report) := by
      dsimp only
      split
      · exact .fail _
      · exact .bind (.note ..) fun _ => .pure _
    rw [(steady_resolve g.root).effect_bind_of_ok _ (effect_resolve hroot w)]
    · refine ((Steady.timed "generate_one" (hsteps _)).effect_bind hjudge w).trans ?_
      rw [(hsteps _).effect_timed, effect_steps hroot]
      rcases g.prepared source w with stop | ⟨s, artifacts⟩
      · rfl
      dsimp only
      rcases effect ((g.rooted w.directory).outcomes true artifacts) w with ⟨stop | outcomes, files⟩
      · rfl
      · change effect (match outcomes.findSome? (·.failure) with
          | some failure => Run.fail failure
          | none => _) _ = (match outcomes.findSome? (·.failure) with
          | some failure => _
          | none => _, files)
        cases outcomes.findSome? (·.failure) <;> rfl
    · exact (Steady.timed "generate_one" (hsteps _)).bind hjudge

/-- A run that succeeds is one that was prepared and then wrote all artifacts. -/
theorem effect_generate_eq_ok_iff {g : Generator} {source : Source} {w : World} {report : Report}
    {files : FileSystem} :
    effect (g.generate source) w = (.ok report, files) ↔
      ∃ s artifacts outcomes, g.prepared source w = .ok (s, artifacts) ∧
        effect ((g.rooted w.directory).outcomes true artifacts) w = (.ok outcomes, files) ∧
        outcomes.findSome? (·.failure) = none ∧
        report = { g.account source w s artifacts outcomes with success := true } := by
  rw [effect_generate]
  rcases g.prepared source w with stop | ⟨s, artifacts⟩
  · simp
  dsimp only
  generalize hemit : effect ((g.rooted w.directory).outcomes true artifacts) w = emitted
  obtain ⟨stop | outcomes, files'⟩ := emitted
  · simp [hemit]
  constructor
  · intro h
    obtain ⟨hreport, rfl⟩ := Prod.mk.inj h
    obtain ⟨hnone, hreport⟩ := judged_eq_ok_iff.1 hreport
    exact ⟨s, artifacts, outcomes, rfl, hemit, hnone, hreport⟩
  · rintro ⟨_, _, _, ⟨⟩, hemit', hnone, hreport⟩
    rw [hemit] at hemit'
    cases hemit'
    exact Prod.ext (judged_eq_ok_iff.2 ⟨hnone, hreport⟩) rfl

/-- Once all is prepared, a run can only fail to write. -/
theorem isWriting_of_prepared (hprepared : g.prepared source w = .ok (s, artifacts)) {f : Failure}
    {w' : World} (h : (g.generate source).start w = (.error (.failure f), w')) : f.isWriting := by
  have heffect := effect_eq_of_start h
  rw [effect_generate, hprepared] at heffect
  dsimp only at heffect
  have hgives := ((g.rooted w.directory).gives_outcomes true artifacts).ends w
  unfold Ends at hgives
  rcases hemit : effect ((g.rooted w.directory).outcomes true artifacts) w with
    ⟨stop | outcomes, files⟩
  · obtain ⟨w₁, hstart, _⟩ := start_eq_of_effect hemit
    rw [hstart] at hgives
    obtain ⟨⟨b, rfl⟩, _⟩ := hgives
    rw [hemit] at heffect
    cases heffect
  · obtain ⟨w₁, hstart, _⟩ := start_eq_of_effect hemit
    rw [hstart] at hgives
    rw [hemit] at heffect
    have hjudged : judged (g.account source w s artifacts outcomes) = .error (.failure f) :=
      congrArg Prod.fst heffect
    obtain ⟨o, ho, hfailure⟩ := List.exists_of_findSome?_eq_some (judged_eq_error_iff.1 hjudged)
    exact hgives o ho f hfailure

/-- A run fails to load its source, or else to render or to write. -/
theorem cases_of_failure {f : Failure} {w' : World}
    (h : (g.generate source).start w = (.error (.failure f), w')) :
    ((Loading.schema source).start w).1 = .error (.failure f) ∨
      ∃ s, ((Loading.schema source).start w).1 = .ok s ∧ (f.isRendering ∨ f.isWriting) := by
  have heffect := effect_eq_of_start h
  rw [effect_generate] at heffect
  cases hroot : Loading.hasNull g.root.text with
  | true =>
    have hprepared : g.prepared source w = .error (.breakdown .nullCharacter) := if_pos hroot
    rw [hprepared] at heffect
    cases heffect
  | false =>
    cases hload : ((Loading.schema source).start w).1 with
    | error stop =>
      rw [prepared_of_error hroot hload] at heffect
      obtain rfl := Except.error.inj (congrArg Prod.fst heffect)
      exact .inl rfl
    | ok s =>
      refine .inr ⟨s, rfl, ?_⟩
      cases hmade : g.artifactResults (w.now.format g.config.timestampFormat) s with
      | error stop =>
        rw [prepared_of_loaded hroot hload, hmade] at heffect
        obtain rfl := Except.error.inj (congrArg Prod.fst heffect)
        have hartifacts := g.effect_artifacts s w
        rw [hmade] at hartifacts
        exact .inl ((g.observes_artifacts s).failure w f (congrArg Prod.fst hartifacts))
      | ok artifacts =>
        have hprepared := prepared_of_loaded hroot hload
        rw [hmade] at hprepared
        exact .inr (isWriting_of_prepared hprepared h)

end Generator
end Scaffold
