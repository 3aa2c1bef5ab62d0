import Mathlib.Algebra.BigOperators.Group.List.Basic
import Mathlib.Algebra.Ring.Nat
import Scaffold.Generation
import Scaffold.Proofs.Emitting
import Scaffold.Proofs.Rendering

/-!
# The stages of a run

A run loads, renders and only then writes. Before it writes, the files are as they were; what it
leaves when it stops while writing is what emission leaves.
-/
namespace Scaffold

open Run
open Artifact (Kind Templates)

/-! ## Rendering -/

/-- A complaint about a template. -/
def Failure.isRendering : Failure → Prop
  | .unrendered .. => True
  | _ => False

/-- A run that stops while rendering complains about a template, or breaks down. -/
theorem Artifact.isRendering_of_render {templates : Templates} {kind : Kind} {view : View}
    {f : Failure} (h : render templates kind view = .error (.failure f)) : f.isRendering := by
  unfold render at h
  split at h
  · cases h
    trivial
  · split at h
    · cases h
    · cases h
      trivial
    · cases h

namespace Generator

/-- An artifact as a schema gives it. -/
structure Renders (g : Generator) (timestamp : String) (s : Schema) (kind : Kind) (a : Artifact) :
    Prop where
  ofKind : a.kind = kind
  content : Artifact.render g.templates kind ⟨kind, s⟩ = .ok a.content
  path : a.path = g.config.layout.path timestamp s.name s.table kind

theorem observes_rendered (g : Generator) (timestamp : String) (s : Schema) (kind : Kind) :
    Observes Failure.isRendering (g.rendered timestamp s kind) := by
  unfold rendered
  split
  · next stop hrender =>
    cases stop with
    | failure f => exact .fail (Artifact.isRendering_of_render hrender)
    | breakdown b => exact .breakDown b
  · exact .bind (.note ..) fun _ => .pure _

theorem observes_artifact (g : Generator) (timestamp : String) (s : Schema) (kind : Kind) :
    Observes Failure.isRendering (g.artifact timestamp s kind) := by
  refine .bind (.forIn _ _ fun _ _ => .bind (.note ..) fun _ => .pure _) fun _ => ?_
  split
  · exact .bind (.breakDown _) fun _ => observes_rendered g timestamp s kind
  · exact observes_rendered g timestamp s kind

theorem renders_of_artifact {g : Generator} {timestamp : String} {s : Schema} {kind : Kind}
    {a : Artifact} {w w' : World} (h : (g.artifact timestamp s kind).start w = (.ok a, w')) :
    g.Renders timestamp s kind a := by
  obtain ⟨_, w₁, _, h⟩ := exists_of_start_bind h
  split at h
  · obtain ⟨_, w₂, hstop, _⟩ := exists_of_start_bind h
    cases hstop
  · unfold rendered at h
    split at h
    · cases h
    · next content hrender =>
      cases h
      exact ⟨rfl, hrender, rfl⟩

theorem observes_artifacts (g : Generator) (s : Schema) :
    Observes Failure.isRendering (g.artifacts none s) :=
  .bind (.bind .get fun _ => .pure _) fun _ => .mapM (g.observes_artifact _ s) _

/-- Without a time that is given, the clock's is taken. -/
theorem start_artifacts (g : Generator) (s : Schema) (w : World) :
    (g.artifacts none s).start w =
      start (Kind.all.mapM (g.artifact (w.now.format g.config.timestampFormat) s)) w := by
  unfold artifacts timestamp
  rw [Option.filter_none]
  exact start_bind_of_ok (start_bind_of_ok (start_get w))

theorem renders_of_artifacts {g : Generator} {s : Schema} {artifacts : List Artifact}
    {w w' : World} (h : (g.artifacts none s).start w = (.ok artifacts, w')) :
    List.Forall₂ (g.Renders (w.now.format g.config.timestampFormat) s) Kind.all artifacts := by
  rw [start_artifacts] at h
  exact forall₂_of_start_mapM (fun _ _ _ _ => renders_of_artifact) h

/-! ## Writing -/

theorem ends_resolve (p : Path) (w : World) :
    Ends (resolve p) w fun result w' => w' = w ∧ match result with
      | .ok q => q = ⟨.absolute, (FileSystem.absolute w.directory p).names⟩
      | .error stop => ∃ b, stop = .breakdown b := by
  unfold resolve
  split
  · exact .bind_of_error (start_breakDown ..) ⟨rfl, _, rfl⟩
  · exact ⟨rfl, rfl⟩

/-- The emitter of a run, below the root as it is seen from the working directory. -/
def rooted (g : Generator) (cwd : Location) : Emitter :=
  { g.emitter with root := ⟨.absolute, (FileSystem.absolute cwd g.root).names⟩ }

theorem writes_rooted {g : Generator} (hwet : g.dryRun = false) (cwd : Location) :
    (g.rooted cwd).Writes := ⟨hwet, rfl, Anchor.noConfusion⟩

theorem ends_start (g : Generator) (w : World) :
    Ends g.emitter.start w fun result w' => Unchanged w w' ∧ match result with
      | .ok e => e = g.rooted w.directory
      | .error stop => ∃ b, stop = .breakdown b := by
  refine (ends_resolve g.root w).bind ?_ ?_
  · rintro root w' ⟨rfl, rfl⟩
    exact .bind_of_ok (start_note ..) ⟨⟨_, rfl⟩, rfl⟩
  · rintro stop w' ⟨rfl, hstop⟩
    exact ⟨.refl _, hstop⟩

/-! ## A whole run -/

/-- What a run makes of its source before it writes: a schema, and an artifact of each kind. -/
structure Prepares (g : Generator) (source : Source) (w : World) (s : Schema)
    (artifacts : List Artifact) : Prop where
  loaded : ((Loading.schema source).start w).1 = .ok s
  rendered :
    List.Forall₂ (g.Renders (w.now.format g.config.timestampFormat) s) Kind.all artifacts

theorem map_of_renders {g : Generator} {timestamp : String} {s : Schema} {kinds : List Kind}
    {artifacts : List Artifact} (h : List.Forall₂ (g.Renders timestamp s) kinds artifacts) :
    artifacts.map (·.kind) = kinds ∧
      artifacts.map (·.path) = kinds.map (g.config.layout.path timestamp s.name s.table) := by
  induction h with
  | nil => exact ⟨rfl, rfl⟩
  | cons hfirst _ ih =>
    rw [List.map_cons, List.map_cons, List.map_cons, hfirst.ofKind, hfirst.path, ih.1, ih.2]
    exact ⟨rfl, rfl⟩

/-- What is known of halves in the texts makes them no other texts. -/
theorem Prepares.marked {g : Generator} {source : Source} {w : World} {s : Schema}
    {artifacts : List Artifact} (h : g.Prepares source w s artifacts) (w' : World) :
    g.Prepares source w s (artifacts.map (marked source w')) where
  loaded := h.loaded
  rendered := by
    rw [List.forall₂_map_right_iff]
    exact h.rendered.imp fun kind a ha => ⟨ha.ofKind, ha.content, ha.path⟩

/-- Emission as a step of a run, which says more but does no more. -/
theorem ends_timed_emit {e : Emitter} (h : e.Writes) (artifacts : List Artifact) {w w₁ : World}
    (hsame : Unchanged w w₁) :
    Ends (timed "emit" (e.emit true artifacts)) w₁ fun result w' =>
      e.Ended artifacts w (result.map Prod.fst) w' := by
  have hemit : Ends (e.emit true artifacts) w₁ (e.Ended artifacts w) :=
    Emitter.Ended.unchanged (Emitter.ends_emit h artifacts w₁) hsame (.refl _)
  exact hemit.timed_of_unchanged "emit" fun _ _ _ hended hafter => hended.unchanged (.refl w) hafter

/-- What the steps of a run come to, before its report is judged. -/
def Stepped (g : Generator) (source : Source) (w : World) (result : Except Stop Report)
    (w' : World) : Prop :=
  match result with
  | .ok report => ∃ s artifacts, g.Prepares source w s artifacts ∧
      (g.rooted w.directory).Emitted artifacts w report.outcomes w'
  | .error (.failure f) => (f.isDocument ∨ f.isRendering) ∧ w'.files = w.files
  | .error (.breakdown _) => True

theorem Stepped.unchanged {g : Generator} {source : Source} {result : Except Stop Report}
    {w w₁ w₂ : World} (h : g.Stepped source w result w₁) (hafter : Unchanged w₁ w₂) :
    g.Stepped source w result w₂ := by
  rcases result with (f | b) | report
  · exact ⟨h.1, hafter.files.trans h.2⟩
  · trivial
  · obtain ⟨s, artifacts, hprepares, hemitted⟩ := h
    exact ⟨s, artifacts, hprepares, hemitted.unchanged (.refl w) hafter⟩

theorem ends_steps {g : Generator} (hwet : g.dryRun = false) (source : Source) (report : Report)
    (w : World) : Ends (g.steps source report) w (g.Stepped source w) := by
  unfold steps
  refine ((Loading.onlyReads_schema source).ends_timed "load" w).bind ?_ ?_
  · rintro ⟨s, loading⟩ w₁ ⟨hload, hloaded⟩
    refine ((g.observes_artifacts s).ends_timed "render" w₁).bind ?_ ?_
    · rintro ⟨artifacts, rendering⟩ w₂ ⟨hrender, hrendered⟩
      have hprepares : g.Prepares source w s artifacts :=
        ⟨hloaded, hload.now ▸ renders_of_artifacts (Prod.ext hrendered rfl)⟩
      have hsame := hload.trans hrender
      refine .bind_of_ok (start_get w₂) ((g.ends_start w₂).bind ?_ ?_)
      · rintro e w₃ ⟨hstart, rfl⟩
        rw [hsame.directory]
        have hemit := ends_timed_emit (writes_rooted hwet w.directory)
          (artifacts.map (marked source w₂)) (hsame.trans hstart)
        refine hemit.bind ?_ ?_
        · rintro ⟨outcomes, writing⟩ w' hemitted
          exact ⟨s, _, hprepares.marked w₂, hemitted⟩
        · rintro stop w' ⟨b, rfl⟩
          trivial
      · rintro stop w₃ ⟨_, b, rfl⟩
        trivial
    · rintro (f | b) w₂ ⟨hrender, hstop⟩
      · exact ⟨.inr hstop, (hload.trans hrender).files⟩
      · trivial
  · rintro (f | b) w₁ ⟨hload, hstop⟩
    · exact ⟨.inl hstop, hload.files⟩
    · trivial

theorem ends_timed_steps {g : Generator} (hwet : g.dryRun = false) (source : Source)
    (report : Report) (w : World) :
    Ends (timed "generate_one" (g.steps source report)) w fun result w' =>
      g.Stepped source w (result.map Prod.fst) w' :=
  (ends_steps hwet source report w).timed_of_unchanged "generate_one"
    fun _ _ _ hstepped hafter => hstepped.unchanged hafter

/-! ## The report -/

theorem findSome?_failure_written (e : Emitter) (artifacts : List Artifact) :
    (artifacts.map e.written).findSome? (·.failure) = none := by
  simp [Emitter.written]

theorem findSome?_failure_refused (e : Emitter) (reason : String) (done : List Artifact)
    (a : Artifact) : (done.map e.written ++ [e.refusal reason a]).findSome? (·.failure) =
      some (.unwritten (e.target a).text reason) := by
  rw [List.findSome?_append, findSome?_failure_written]
  rfl

theorem totalBytes_written (e : Emitter) (artifacts : List Artifact) :
    (artifacts.map e.written).foldr (fun o total => (o.bytes : Int) + total) 0 =
      (artifacts.map fun a => a.content.toUTF8.size).sum := by
  induction artifacts with
  | nil => rfl
  | cons a rest ih =>
    rw [List.map_cons, List.foldr_cons, ih, List.map_cons, List.sum_cons]
    rfl

/-- The artifacts of a run have targets that do not get in each other's way. -/
def TargetsApart (g : Generator) (cwd : Location) (artifacts : List Artifact) : Prop :=
  artifacts.Pairwise fun a b => ((g.rooted cwd).target a).Apart ((g.rooted cwd).target b)

theorem targetsApart_iff (g : Generator) (cwd : Location) (artifacts : List Artifact) :
    g.TargetsApart cwd artifacts ↔ (artifacts.map (·.path)).Pairwise fun p q =>
      ((g.rooted cwd).root.join p).Apart ((g.rooted cwd).root.join q) := by
  rw [List.pairwise_map]
  rfl

/-- A run that does write goes through its stages. Before the first file is written, a failure
leaves all files as they were. A failure to write names the target of one artifact: those before it
are on disk, it and those after it are spared. A run that succeeds has written all artifacts, and
reports them in order. -/
theorem generate_stages {g : Generator} (hwet : g.dryRun = false) (source : Source) (w : World) :
    Ends (g.generate source) w fun result w' => match result with
      | .error (.failure (.unwritten path _)) => ∃ s artifacts,
          g.Prepares source w s artifacts ∧
          (g.TargetsApart w.directory artifacts → ∃ done a after,
            artifacts = done ++ a :: after ∧ path = ((g.rooted w.directory).target a).text ∧
            (∀ b ∈ done, (g.rooted w.directory).Holds w.directory w'.files b) ∧
            ∀ b ∈ a :: after, (g.rooted w.directory).Spares (done ++ [a]) w.files w'.files b)
      | .error (.failure _) => w'.files = w.files
      | .error (.breakdown _) => True
      | .ok report => ∃ s artifacts, g.Prepares source w s artifacts ∧
          report.outcomes = artifacts.map (g.rooted w.directory).written ∧
          report.outcomes.map (·.artifact.kind) = Kind.all ∧
          report.totalBytes = (artifacts.map fun a => a.content.toUTF8.size).sum ∧
          (g.TargetsApart w.directory artifacts →
            ∀ a ∈ artifacts, (g.rooted w.directory).Holds w.directory w'.files a) := by
  unfold generate
  refine (ends_resolve g.root w).bind ?_ ?_
  · rintro root w₁ ⟨hsame, _⟩
    subst w₁
    refine (ends_timed_steps hwet source _ w).bind ?_ ?_
    · rintro ⟨report, elapsed⟩ w' ⟨s, artifacts, hprepares, hemitted⟩
      dsimp only
      rcases hemitted with ⟨hwritten, hreached⟩ |
        ⟨done, a, after, reason, rfl, hrefused, hreached⟩
      · have hnone : (totalled report elapsed).outcomes.findSome? (·.failure) = none := by
          change report.outcomes.findSome? (·.failure) = none
          rw [hwritten, findSome?_failure_written]
        rw [hnone]
        refine .bind_of_ok (start_note ..) ⟨s, artifacts, hprepares, hwritten, ?_, ?_, ?_⟩
        · change report.outcomes.map (·.artifact.kind) = Kind.all
          rw [hwritten, List.map_map, ← (map_of_renders hprepares.rendered).1]
          rfl
        · change report.outcomes.foldr (fun o total => (o.bytes : Int) + total) 0 = _
          rw [hwritten, totalBytes_written]
        · intro hapart
          exact hreached.held (hapart.imp Path.Apart.location_ne)
      · have hsome : (totalled report elapsed).outcomes.findSome? (·.failure) =
            some (.unwritten ((g.rooted w.directory).target a).text reason) := by
          change report.outcomes.findSome? (·.failure) = _
          rw [hrefused, findSome?_failure_refused]
        rw [hsome]
        refine ⟨s, _, hprepares, fun hapart => ⟨done, a, after, rfl, rfl, ?_, ?_⟩⟩
        · have hdone := (List.pairwise_append.1 hapart).1
          exact hreached.held (hdone.imp Path.Apart.location_ne)
        · exact hreached.spares hapart
    · rintro (f | b) w' hstop
      · cases f with
        | unwritten => exact absurd hstop.1 (by simp [Failure.isDocument, Failure.isRendering])
        | _ => exact hstop.2
      · trivial
  · rintro stop _ ⟨rfl, b, rfl⟩
    trivial

/-! ## A note -/

/-- A schema without fields of its own. -/
def note : Schema where
  name := "N"
  table := "t"
  fields := []
  operations := []
  policies := []

def noteEntries : Entries := [
  (.text "name", .text "N"),
  (.text "tableName", .text "t"),
  (.text "fields", .list []),
  (.text "operations", .list []),
  (.text "rls", .list [])]

/-- A generator with few directories, and a time that is the same for all migrations. -/
def plain : Generator where
  root := ⟨.absolute, []⟩
  config.timestampFormat := "0"
  config.layout := {
    migrations := "m", functions := "f", repositories := "r", models := "m", services := "s",
    hooks := "h", adminPages := "a", features := "d", clients := "c" }

theorem note_generated : plain.dryRun = false ∧
    Ends (plain.generate (.entries noteEntries)) bareWorld fun result w' =>
      ∃ (report : Report) (artifacts : List Artifact), result = .ok report ∧
        report.outcomes = artifacts.map (plain.rooted []).written ∧
        artifacts.map (·.kind) = Kind.all ∧
        ∀ a ∈ artifacts, (plain.rooted []).Holds [] w'.files a := by
  have hok : ((plain.generate (.entries noteEntries)).start bareWorld).1.isOk = true := by
    decide +kernel
  refine ⟨rfl, (generate_stages rfl (.entries noteEntries) bareWorld).imp ?_⟩
  rintro (stop | report) w' hrun hall
  · rw [hrun] at hok
    cases hok
  · obtain ⟨s, artifacts, hprepares, houtcomes, _, _, hheld⟩ := hall
    obtain rfl : note = s := Except.ok.inj hprepares.loaded
    have hapart : plain.TargetsApart [] artifacts := by
      rw [targetsApart_iff, (map_of_renders hprepares.rendered).2]
      decide +kernel
    exact ⟨report, artifacts, rfl, houtcomes, (map_of_renders hprepares.rendered).1, hheld hapart⟩

/-- A generator whose migrations have a directory of their own name to step back from. -/
def detour : Generator :=
  { plain with config.layout.migrations := "0_create_t_table.sql/.." }

/-- The artifacts of the note. -/
def noteArtifact (kind : Kind) : Artifact where
  kind
  path := detour.config.layout.path (bareWorld.now.format "0") "N" "t" kind
  content := kind.text note
  description := kind.description

/-- The path that a run could not write. -/
def unwrittenPath? {α : Type} : Except Stop α → Option String
  | .error (.failure (.unwritten path _)) => some path
  | _ => none

theorem exists_of_unwrittenPath? {α : Type} {result : Except Stop α} {path : String}
    (h : unwrittenPath? result = some path) :
    ∃ reason, result = .error (.failure (.unwritten path reason)) := by
  unfold unwrittenPath? at h
  split at h
  · cases h
    exact ⟨_, rfl⟩
  · cases h

/-- The directory is made where the migration should go, which then cannot be written: nothing was
there, and now a directory is. -/
theorem detour_not_kept : detour.dryRun = false ∧
    detour.Prepares (.entries noteEntries) bareWorld note (Kind.all.map noteArtifact) ∧
    detour.TargetsApart [] (Kind.all.map noteArtifact) ∧
    Ends (detour.generate (.entries noteEntries)) bareWorld fun result w' => ∃ path reason,
      result = .error (.failure (.unwritten path reason)) ∧
      ¬ ∃ done a after, Kind.all.map noteArtifact = done ++ a :: after ∧
        path = ((detour.rooted []).target a).text ∧
        (∀ b ∈ done, (detour.rooted []).Holds [] w'.files b) ∧
        ∀ b ∈ a :: after, w'.files.get? ((detour.rooted []).target b).location =
          bareWorld.files.get? ((detour.rooted []).target b).location := by
  refine ⟨rfl, ⟨rfl, ?_⟩, ?_, ?_⟩
  · rw [List.forall₂_map_right_iff, List.forall₂_same]
    intro kind _
    refine ⟨rfl, ?_, rfl⟩
    exact Artifact.render_shipped kind note
  · rw [targetsApart_iff]
    decide +kernel
  · have hfailed : unwrittenPath? ((detour.generate (.entries noteEntries)).start bareWorld).1 =
        some "/0_create_t_table.sql/../0_create_t_table.sql" := by
      decide +kernel
    have hmade : (((detour.generate (.entries noteEntries)).start bareWorld).2.files.get?
        ["0_create_t_table.sql"]).isSome = true := by
      decide +kernel
    have honly : ∀ kind ∈ Kind.all, "/0_create_t_table.sql/../0_create_t_table.sql" =
        ((detour.rooted []).target (noteArtifact kind)).text → kind = .migration := by
      decide +kernel
    obtain ⟨reason, hresult⟩ := exists_of_unwrittenPath? hfailed
    refine ⟨_, reason, hresult, ?_⟩
    rintro ⟨done, a, after, hsplit, hpath, _, hkept⟩
    have ha : a ∈ Kind.all.map noteArtifact := by
      rw [hsplit]
      exact List.mem_append_right done List.mem_cons_self
    obtain ⟨kind, hkind, rfl⟩ := List.mem_map.1 ha
    obtain rfl := honly kind hkind hpath
    have hplace : ((detour.rooted []).target (noteArtifact .migration)).location =
        ["0_create_t_table.sql"] := by
      decide +kernel
    have hnone := hkept _ List.mem_cons_self
    rw [hplace] at hnone
    rw [hnone] at hmade
    cases hmade

end Generator
end Scaffold
