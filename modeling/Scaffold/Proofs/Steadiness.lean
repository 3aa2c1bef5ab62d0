import Scaffold.Generation
import Scaffold.Proofs.Running

/-!
# Runs do not hear

A run neither moves to another directory nor turns the clock, and what was said before it makes no
difference to it: in two worlds that differ in their journals only it has the same result, and
afterwards the worlds differ in their journals only. This holds of every part of a run, so it holds
of the making of one schema's files and of its entry in a batch.
-/
namespace Scaffold

namespace Run

variable {α β : Type}

/-- The same place and the same time; files and journal may be others. -/
structure SameSetting (w w' : World) : Prop where
  directory : w'.directory = w.directory
  now : w'.now = w.now
  reading : w'.reading = w.reading
  order : w'.order = w.order

theorem SameSetting.refl (w : World) : SameSetting w w := ⟨rfl, rfl, rfl, rfl⟩

theorem SameSetting.trans {w₁ w₂ w₃ : World} (h : SameSetting w₁ w₂) (h' : SameSetting w₂ w₃) :
    SameSetting w₁ w₃ :=
  ⟨h'.directory.trans h.directory, h'.now.trans h.now, h'.reading.trans h.reading,
    h'.order.trans h.order⟩

theorem SameSetting.symm {w w' : World} (h : SameSetting w w') : SameSetting w' w :=
  ⟨h.directory.symm, h.now.symm, h.reading.symm, h.order.symm⟩

theorem Unchanged.sameSetting {w w' : World} (h : Unchanged w w') : SameSetting w w' := by
  obtain ⟨_, rfl⟩ := h
  exact ⟨rfl, rfl, rfl, rfl⟩

theorem SameSetting.unchanged {w w' : World} (h : SameSetting w w') (hfiles : w'.files = w.files) :
    Unchanged w w' := by
  obtain ⟨hdirectory, hnow, hreading, horder⟩ := h
  refine ⟨w'.journal, ?_⟩
  cases w'
  cases w
  simp_all

/-- A run that stays where it is and does not hear what was said. -/
structure Steady (act : Run α) : Prop where
  setting : ∀ w, SameSetting w (start act w).2
  deaf : ∀ w w', Unchanged w w' →
    (start act w').1 = (start act w).1 ∧ Unchanged (start act w).2 (start act w').2

namespace Steady

theorem pure (a : α) : Steady (pure a) :=
  ⟨fun w => .refl w, fun _ _ h => ⟨rfl, h⟩⟩

theorem stopped (stop : Stop) : Steady (throw stop : Run α) :=
  ⟨fun w => .refl w, fun _ _ h => ⟨rfl, h⟩⟩

theorem fail (f : Failure) : Steady (fail f : Run α) := stopped (.failure f)

theorem breakDown (b : Breakdown) : Steady (breakDown b : Run α) := stopped (.breakdown b)

theorem note (level : Level) (speaker : Speaker) (message : String) :
    Steady (note level speaker message) := by
  constructor
  · intro w
    exact ⟨rfl, rfl, rfl, rfl⟩
  · intro w w' h
    obtain ⟨journal, rfl⟩ := h
    exact ⟨rfl, journal ++ [⟨level, speaker, message⟩], rfl⟩

theorem change (c : Change α) : Steady (change c) := by
  constructor
  · intro w
    exact ⟨rfl, rfl, rfl, rfl⟩
  · intro w w' h
    obtain ⟨journal, rfl⟩ := h
    exact ⟨rfl, journal, rfl⟩

theorem inquire (p : Path) (answer : Except Refused α) : Steady (inquire p answer) := by
  cases answer with
  | ok a => exact pure a
  | error reason => exact breakDown _

theorem bind {act : Run α} {next : α → Run β} (h : Steady act) (h' : ∀ a, Steady (next a)) :
    Steady (act >>= next) := by
  constructor
  · intro w
    have hsetting := h.setting w
    rcases hrun : start act w with ⟨stop | a, mid⟩
    · rw [start_bind_of_error hrun]
      rwa [hrun] at hsetting
    · rw [start_bind_of_ok hrun]
      rw [hrun] at hsetting
      exact hsetting.trans ((h' a).setting mid)
  · intro w w' hsame
    obtain ⟨hresult, hworlds⟩ := h.deaf w w' hsame
    rcases hrun : start act w with ⟨stop | a, mid⟩
    · have hrun' : start act w' = (.error stop, (start act w').2) :=
        Prod.ext (by rw [hresult, hrun]) rfl
      rw [start_bind_of_error hrun, start_bind_of_error hrun']
      rw [hrun] at hworlds
      exact ⟨rfl, hworlds⟩
    · have hrun' : start act w' = (.ok a, (start act w').2) :=
        Prod.ext (by rw [hresult, hrun]) rfl
      rw [start_bind_of_ok hrun, start_bind_of_ok hrun']
      rw [hrun] at hworlds
      exact (h' a).deaf mid _ hworlds

/-- A run may look at the world, but not at its journal. -/
theorem look {next : World → Run β} (hsame : ∀ w journal, next { w with journal } = next w)
    (h : ∀ w, Steady (next w)) : Steady (get >>= next) := by
  have hstart (w : World) : start (get >>= next) w = start (next w) w :=
    start_bind_of_ok (start_get w)
  constructor
  · intro w
    rw [hstart]
    exact (h w).setting w
  · intro w w' hworlds
    rw [hstart, hstart]
    obtain ⟨journal, rfl⟩ := hworlds
    rw [hsame]
    exact (h w).deaf w _ ⟨journal, rfl⟩

theorem settle {act : Run α} (h : Steady act) : Steady (settle act) := by
  constructor
  · intro w
    exact h.setting w
  · intro w w' hsame
    obtain ⟨hresult, hworlds⟩ := h.deaf w w' hsame
    rw [start_settle, start_settle, hresult]
    exact ⟨rfl, hworlds⟩

theorem attempt {act : Run α} (h : Steady act) : Steady (attempt act) := by
  refine bind h.settle fun result => ?_
  rcases result with (f | b) | a
  · exact pure _
  · exact breakDown b
  · exact pure _

theorem timed {act : Run α} (label : String) (h : Steady act) : Steady (timed label act) := by
  refine look (fun _ _ => rfl) fun before => bind h.settle fun result => ?_
  refine look (fun _ _ => rfl) fun after => bind (note ..) fun _ => ?_
  rcases result with (f | b) | a
  · exact fail f
  · exact breakDown b
  · exact pure _

/-- A run that stops unless a condition holds. -/
theorem guarded {stop : Run Unit} {act : Run α} (c : Bool) (hstop : Steady stop)
    (hact : Steady act) : Steady (if c = true then act else stop >>= fun _ => act) := by
  split
  · exact hact
  · exact bind hstop fun _ => hact

/-- A run that stops if a condition holds. -/
theorem unlessStopped {c : Prop} [Decidable c] {stop : Run Unit} {act : Run α}
    (hstop : Steady stop) (hact : Steady act) :
    Steady (if c then stop >>= fun _ => act else act) := by
  split
  · exact bind hstop fun _ => hact
  · exact hact

theorem forIn (items : List α) (init : β) {body : α → β → Run (ForInStep β)}
    (h : ∀ a b, Steady (body a b)) : Steady (forIn items init body) := by
  induction items generalizing init with
  | nil => exact pure init
  | cons a rest ih =>
    rw [List.forIn_cons]
    refine bind (h a init) fun step => ?_
    cases step with
    | done b => exact pure b
    | yield b => exact ih b

theorem mapM {f : α → Run β} (h : ∀ a, Steady (f a)) (items : List α) :
    Steady (items.mapM f) := by
  induction items with
  | nil => exact pure []
  | cons a rest ih =>
    rw [List.mapM_cons]
    exact bind (h a) fun _ => bind ih fun _ => pure _

end Steady
end Run

open Run

/-! ## Loading -/

namespace Loading

theorem steady_isThere (p : Path) : Steady (isThere p) := by
  refine .look (fun _ _ => rfl) fun w => ?_
  split
  · exact .pure false
  · exact .inquire p _

theorem steady_text (p : Path) : Steady (text p) := by
  refine .bind (steady_isThere p) fun there => ?_
  refine .guarded there (.fail _) (.look (fun _ _ => rfl) fun w => ?_)
  split
  · split
    · exact .pure _
    · exact .fail _
  · exact .fail _

theorem steady_ofYaml (p : Path) (s : String) : Steady (ofYaml p s) := by
  unfold ofYaml
  split
  · exact .look (fun _ _ => rfl) fun _ => .pure _
  · exact .fail _
  · exact .breakDown _

theorem steady_jsonOrWhy (s : String) : Steady (jsonOrWhy s) := by
  unfold jsonOrWhy
  split
  · exact .breakDown _
  · exact .breakDown _
  · exact .pure _

theorem steady_parse (p : Path) (suffix s : String) : Steady (parse p suffix s) := by
  unfold parse
  split
  · exact steady_ofYaml p s
  · refine .bind (steady_jsonOrWhy s) fun result => ?_
    cases result with
    | error e => exact .fail _
    | ok d => exact .pure d
  · refine .bind (.note ..) fun _ => .bind (steady_jsonOrWhy s) fun result => ?_
    cases result with
    | error e => exact steady_ofYaml p s
    | ok d => exact .pure d

theorem steady_document (p : Path) : Steady (document p) := by
  refine .bind (steady_text p) fun s => .bind (steady_parse p _ s) fun d => ?_
  split
  · exact .pure _
  · exact .fail _

/-- What was said makes no difference to what is in a file. -/
theorem isWhole_of_unchanged (source : Source) {w w' : World} (h : Unchanged w w') :
    isWhole source w' = isWhole source w := by
  cases source with
  | entries es => rfl
  | file path =>
    unfold isWhole
    dsimp only
    rw [((steady_document _).deaf w w' h).1]

theorem steady_checked {α : Type} (source : Option String) (read : Reading α)
    (entries : Entries) : Steady (checked source read entries) := by
  unfold checked
  split
  · exact .pure _
  · exact .fail _

theorem steady_schema (source : Source) : Steady (schema source) := by
  cases source with
  | entries es => exact steady_checked none Schema.read es
  | file path =>
    refine .bind (steady_document _) fun es => ?_
    exact .bind (steady_checked _ Schema.read es) fun s => .bind (.note ..) fun _ => .pure s

end Loading

/-! ## Writing -/

theorem steady_writeText (atomic : Bool) (p : Path) (s : String) :
    Steady (writeText atomic p s) := by
  refine .look (fun _ _ => rfl) fun w => ?_
  refine .unlessStopped (.breakDown _) (.unlessStopped (.breakDown _) ?_)
  refine .bind (.change _) fun made => ?_
  cases made with
  | error fault => exact .pure _
  | ok _ =>
    refine .bind (.note ..) fun _ => .unlessStopped (.breakDown _) ?_
    refine .bind (.change _) fun result => ?_
    cases result with
    | error fault => exact .pure _
    | ok _ => exact .bind (.note ..) fun _ => .pure _

theorem steady_resolve (p : Path) : Steady (resolve p) :=
  .unlessStopped (.breakDown _) (.look (fun _ _ => rfl) fun _ => .pure _)

namespace Emitter

theorem steady_start (e : Emitter) : Steady e.start :=
  .bind (steady_resolve e.root) fun _ => .bind (.note ..) fun _ => .pure _

theorem steady_refused (a : Artifact) (target : Path) (reason : String) :
    Steady (refused a target reason) := .bind (.note ..) fun _ => .pure _

theorem steady_write (e : Emitter) (a : Artifact) (target : Path) :
    Steady (e.write a target) := by
  refine .bind (steady_writeText ..) fun result => ?_
  cases result with
  | error fault => exact steady_refused a target _
  | ok bytes => exact .bind (.note ..) fun _ => .pure _

theorem steady_emitWhole (e : Emitter) (a : Artifact) : Steady (e.emitWhole a) := by
  unfold emitWhole
  dsimp only
  by_cases hdry : e.dryRun = true
  · rw [if_pos hdry]
    exact .bind (.note ..) fun _ => .pure _
  rw [if_neg hdry]
  by_cases hoverwrite : e.overwrite = true
  · rw [if_pos hoverwrite]
    exact steady_write e a _
  rw [if_neg hoverwrite]
  refine .bind (Loading.steady_isThere _) fun there => ?_
  cases there with
  | true => exact steady_refused a _ _
  | false => exact steady_write e a _

theorem steady_emitOne (e : Emitter) (a : Artifact) : Steady (e.emitOne a) := by
  cases hhalf : a.half with
  | true =>
    rw [emitOne_of_half e hhalf]
    exact .breakDown _
  | false =>
    rw [emitOne_of_whole e hhalf]
    exact e.steady_emitWhole a

theorem steady_outcomes (e : Emitter) (failFast : Bool) (artifacts : List Artifact) :
    Steady (e.outcomes failFast artifacts) := by
  induction artifacts with
  | nil => exact .pure []
  | cons a rest ih =>
    rw [outcomes]
    refine .bind (steady_emitOne e a) fun outcome => ?_
    split
    · exact .bind (.note ..) fun _ => .pure _
    · exact .bind ih fun _ => .pure _

theorem steady_emit (e : Emitter) (failFast : Bool) (artifacts : List Artifact) :
    Steady (e.emit failFast artifacts) := by
  refine .bind (.timed "emit" (steady_outcomes e failFast artifacts)) fun result => ?_
  dsimp only
  split
  · exact .bind (.note ..) fun _ => .pure _
  · exact .bind (.note ..) fun _ => .pure _

end Emitter

/-! ## Generating -/

namespace Generator

theorem steady_rendered (g : Generator) (timestamp : String) (s : Schema) (kind : Artifact.Kind) :
    Steady (g.rendered timestamp s kind) := by
  unfold rendered
  split
  · exact .stopped _
  · exact .bind (.note ..) fun _ => .pure _

theorem steady_artifact (g : Generator) (timestamp : String) (s : Schema) (kind : Artifact.Kind) :
    Steady (g.artifact timestamp s kind) := by
  refine .bind (.forIn _ _ fun _ _ => .bind (.note ..) fun _ => .pure _) fun _ => ?_
  exact .unlessStopped (.breakDown _) (steady_rendered g timestamp s kind)

theorem steady_artifacts (g : Generator) (s : Schema) : Steady (g.artifacts none s) := by
  have htimestamp : Steady g.timestamp := .look (fun _ _ => rfl) fun _ => .pure _
  exact .bind htimestamp fun timestamp => .mapM (g.steady_artifact timestamp s) _

theorem marked_of_unchanged (source : Source) {w w' : World} (h : Unchanged w w') (a : Artifact) :
    marked source w' a = marked source w a := by
  rw [marked, marked, Loading.isWhole_of_unchanged source h]

theorem steady_steps (g : Generator) (source : Source) (report : Report) :
    Steady (g.steps source report) := by
  refine .bind (.timed "load" (Loading.steady_schema source)) fun loaded => ?_
  refine .bind (.timed "render" (g.steady_artifacts loaded.1)) fun rendered => ?_
  refine .look (fun w journal => ?_) fun w => ?_
  · rw [List.map_congr_left fun a _ => marked_of_unchanged source ⟨journal, rfl⟩ a]
  · refine .bind g.emitter.steady_start fun e => ?_
    exact .bind (.timed "emit" (e.steady_emit true _)) fun _ => .pure _

theorem steady_generate (g : Generator) (source : Source) : Steady (g.generate source) := by
  refine .bind (steady_resolve g.root) fun root => ?_
  refine .bind (.timed "generate_one" (g.steady_steps source _)) fun stepped => ?_
  dsimp only
  split
  · exact .fail _
  · exact .bind (.note ..) fun _ => .pure _

theorem steady_batchEntry (g : Generator) (source : Source) : Steady (g.batchEntry source) := by
  refine .bind (.attempt (g.steady_generate source)) fun result => ?_
  cases result with
  | error f => exact .bind (.note ..) fun _ => .pure _
  | ok report => exact .pure _

end Generator
end Scaffold
