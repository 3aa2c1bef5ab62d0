import Scaffold.Proofs.Batch
import Scaffold.Proofs.Targets

/-!
# Batches that come to their end

With the standard configuration, what can keep a batch of mappings from its report is a null
character in a name, a path that is too deep, a numeral that is too long or half of a character.
Where there are none, all its sources have their turns.
-/
namespace Scaffold

open Run
open Artifact (Kind)
open Loading (hasNull)

theorem Run.Gives.ends_in_setting {α : Type} {allowed : Stop → Prop} {act : Run α}
    {stated : α → Prop} (h : Gives allowed act stated) (hsteady : Steady act) (w : World) :
    Ends act w fun result w' => SameSetting w w' ∧ match result with
      | .ok a => stated a
      | .error stop => allowed stop := ⟨hsteady.setting w, h.ends w⟩

/-- A stop that a batch records. -/
def Stop.isFailure (stop : Stop) : Prop := ∃ f, stop = .failure f

theorem Loading.gives_schema (es : Entries) :
    Gives Stop.isFailure (schema (.entries es)) fun s => Schema.read (.map es) = .valid s := by
  change Gives Stop.isFailure (checked none Schema.read es) _
  unfold checked
  split
  · next s hread => exact .pure hread
  · exact .fail ⟨_, rfl⟩

/-- The path of a root that can be resolved. -/
theorem start_resolve {p : Path} (h : p.Clean) (w : World) :
    (resolve p).start w = (.ok ⟨.absolute, (FileSystem.absolute w.directory p).names⟩, w) := by
  unfold resolve
  rw [if_neg (Bool.eq_false_iff.1 h.hasNull_text)]
  rfl

namespace Generator

/-- A schema whose names have no null characters and do not lead too deep below the root, whose
numerals can be written, and on which the templates do not break off with an error of their own. -/
structure Manages (g : Generator) (cwd : Location) (s : Schema) : Prop where
  name : hasNull s.name = false
  table : hasNull s.table = false
  depth : (g.rooted cwd).root.names.length + slashes s.name + slashes s.table + 6 ≤
    FileSystem.depthLimit
  numerals : ∀ kind ∈ Kind.all, ∀ n ∈ Artifact.numerals g.templates kind s,
    (Number.numeral? n).isSome = true
  templates : ∀ kind b, Artifact.render g.templates kind ⟨kind, s⟩ ≠ .error (.breakdown b)

/-- The shipped templates do not break off. -/
theorem render_shipped_ne (kind : Kind) (s : Schema) (b : Breakdown) :
    Artifact.render .shipped kind ⟨kind, s⟩ ≠ .error (.breakdown b) := by
  rw [Artifact.render_shipped]
  exact nofun

variable {g : Generator} {cwd : Location} {s : Schema}

/-! ## Rendering -/

theorem gives_rendered (hs : g.Manages cwd s) (timestamp : String) (kind : Kind) :
    Gives Stop.isFailure (g.rendered timestamp s kind)
      fun a => a.path = g.config.layout.path timestamp s.name s.table kind := by
  unfold rendered
  split
  · next stop hrender =>
    cases stop with
    | failure f => exact .fail ⟨f, rfl⟩
    | breakdown b => exact absurd hrender (hs.templates kind b)
  · exact .bind (.note ..) fun _ _ => .pure rfl

theorem gives_artifact (hs : g.Manages cwd s) (timestamp : String) {kind : Kind}
    (hkind : kind ∈ Kind.all) :
    Gives Stop.isFailure (g.artifact timestamp s kind)
      fun a => a.path = g.config.layout.path timestamp s.name s.table kind := by
  refine .bind (.forIn _ _ fun _ _ => .bind (.note ..) fun _ _ => .pure trivial) fun _ _ => ?_
  refine .guarded (fun hlong => ?_) fun _ => gives_rendered hs timestamp kind
  obtain ⟨n, hn, hnone⟩ := List.any_eq_true.1 hlong
  have hsome := hs.numerals kind hkind n hn
  rw [Option.isNone_iff_eq_none] at hnone
  rw [hnone] at hsome
  cases hsome

theorem gives_timestamp (g : Generator) :
    Gives Stop.isFailure g.timestamp fun timestamp =>
      ∃ t : Calendar.DateTime, timestamp = t.format g.config.timestampFormat :=
  .look fun w => .pure ⟨w.now, rfl⟩

theorem gives_artifacts (hs : g.Manages cwd s) :
    Gives Stop.isFailure (g.artifacts none s) fun artifacts => ∀ a ∈ artifacts,
      ∃ (t : Calendar.DateTime) (kind : Kind),
        a.path = g.config.layout.path (t.format g.config.timestampFormat) s.name s.table kind := by
  refine .bind (gives_timestamp g) ?_
  rintro _ ⟨t, rfl⟩
  refine .mapM fun kind hkind => (gives_artifact hs _ hkind).mono (fun _ h => h) ?_
  intro a ha
  exact ⟨t, kind, ha⟩

/-! ## Targets -/

/-- A generator with the standard configuration, whose root and working directory have no null
characters in their names. -/
structure IsStandard (g : Generator) (cwd : Location) : Prop where
  config : g.config = .standard
  root : g.root.Clean
  directory : ∀ name ∈ cwd, hasNull name = false

theorem IsStandard.fits (hg : g.IsStandard cwd) (hs : g.Manages cwd s) (t : Calendar.DateTime)
    (kind : Kind) {a : Artifact}
    (ha : a.path = g.config.layout.path (t.format g.config.timestampFormat) s.name s.table kind) :
    ((g.rooted cwd).target a).Fits := by
  have hroot : (g.rooted cwd).root.Clean := FileSystem.clean_absolute hg.directory hg.root
  have hpath : a.path.Within (slashes s.name + slashes s.table + 7) := by
    rw [ha, hg.config]
    have htime : Spells (t.format Config.standard.timestampFormat) 0 :=
      ⟨Calendar.hasNull_format t, (Calendar.slashes_format t).le⟩
    exact Layout.within_path kind htime ⟨hs.name, le_rfl⟩ ⟨hs.table, le_rfl⟩
  refine (hroot.join hpath.clean).fits ?_
  have hjoin := Path.length_names_join_le (g.rooted cwd).root a.path
  have hlength := hpath.length
  have hdepth := hs.depth
  omega

/-! ## A whole run -/

theorem start_emitter_start (hg : g.IsStandard cwd) (w : World) :
    ∃ w', g.emitter.start.start w = (.ok (g.rooted w.directory), w') :=
  ⟨_, start_bind_of_ok (start_resolve hg.root w)⟩

theorem gives_emit (hg : g.IsStandard cwd) {artifacts : List Artifact}
    (hfits : ∀ a ∈ artifacts, ((g.rooted cwd).target a).Fits ∧ a.half = false) :
    Gives Stop.isFailure ((g.rooted cwd).emit true artifacts) fun _ => True := by
  refine ((g.rooted cwd).gives_emit true artifacts).mono ?_ fun _ _ => trivial
  rintro stop ⟨_, hspares | ⟨a, ha, hunfit | hhalf⟩⟩
  · have hoverwrite : (g.rooted cwd).overwrite = g.config.overwrite := rfl
    rw [hoverwrite, hg.config] at hspares
    cases hspares
  · exact absurd (hfits a ha).1 hunfit
  · rw [(hfits a ha).2] at hhalf
    cases hhalf

/-- A source without halves shows none. -/
theorem half_marked {source : Source} {w : World} (h : Loading.isWhole source w = true)
    (a : Artifact) : (marked source w a).half = false := by
  rw [marked, h]
  rfl

theorem ends_steps_orderly {es : Entries} {w : World} (hg : g.IsStandard w.directory)
    (hwhole : (Document.map es).isWhole = true)
    (hs : ∀ s, Schema.read (.map es) = .valid s → g.Manages w.directory s) (report : Report) :
    Ends (g.steps (.entries es) report) w fun result _ => orderly result = true := by
  unfold steps
  have hload := ((Loading.gives_schema es).timed "load").ends_in_setting
    (.timed "load" (Loading.steady_schema _)) w
  refine hload.bind ?_ ?_
  · rintro ⟨s, loading⟩ w₁ ⟨hsetting, hread⟩
    -- From here on the schema is one that can be managed, in the directory of the start.
    have hmanages := hs s hread
    have hrender := ((gives_artifacts hmanages).timed "render").ends_in_setting
      (.timed "render" (g.steady_artifacts s)) w₁
    refine hrender.bind ?_ ?_
    · rintro ⟨artifacts, rendering⟩ w₂ ⟨hsetting', hpaths⟩
      obtain ⟨w₃, hstart⟩ := start_emitter_start hg w₂
      rw [(hsetting.trans hsetting').directory] at hstart
      refine .bind_of_ok (start_get w₂) (.bind_of_ok hstart ?_)
      have hfits : ∀ a ∈ artifacts.map (marked (.entries es) w₂),
          ((g.rooted w.directory).target a).Fits ∧ a.half = false := by
        intro b hb
        obtain ⟨a, ha, rfl⟩ := List.mem_map.1 hb
        obtain ⟨t, kind, hpath⟩ := hpaths a ha
        have hsource : Loading.isWhole (.entries es) w₂ = true := hwhole
        exact ⟨hg.fits hmanages t kind hpath, half_marked hsource a⟩
      refine (((gives_emit hg hfits).timed "emit").ends w₃).bind ?_ ?_
      · intro _ _ _
        rfl
      · rintro _ _ ⟨f, rfl⟩
        rfl
    · rintro _ _ ⟨_, f, rfl⟩
      rfl
  · rintro _ _ ⟨_, f, rfl⟩
    rfl

theorem orderly_generate {es : Entries} {w : World} (hg : g.IsStandard w.directory)
    (hwhole : (Document.map es).isWhole = true)
    (hs : ∀ s, Schema.read (.map es) = .valid s → g.Manages w.directory s) :
    orderly ((g.generate (.entries es)).start w).1 = true := by
  have hends : Ends (g.generate (.entries es)) w fun result _ => orderly result = true := by
    unfold generate
    refine .bind_of_ok (start_resolve hg.root w) ?_
    refine ((ends_steps_orderly hg hwhole hs _).timed_of_unchanged "generate_one"
      fun _ _ _ horderly _ => horderly).bind ?_ ?_
    · rintro ⟨report, elapsed⟩ w' _
      dsimp only
      split
      · rfl
      · exact .bind_of_ok (start_note ..) rfl
    · rintro (f | b) _ hstop
      · rfl
      · cases hstop
  exact hends

/-- Every mapping of a batch has its turn, as long as the schemas among them can be managed. -/
theorem provided_of_manages {mappings : List Entries} {w : World} (hg : g.IsStandard w.directory)
    (hwhole : ∀ es ∈ mappings, (Document.map es).isWhole = true)
    (hs : ∀ es ∈ mappings, ∀ s, Schema.read (.map es) = .valid s → g.Manages w.directory s) :
    g.provided (mappings.map .entries) w = true := by
  induction mappings generalizing w with
  | nil => rfl
  | cons es rest ih =>
    -- The files are others after a turn; what the assumptions are about stays.
    rw [List.forall_mem_cons] at hwhole hs
    rw [List.map_cons, provided, orderly_generate hg hwhole.1 hs.1]
    have hdirectory := ((g.steady_batchEntry (.entries es)).setting w).directory
    refine ih ?_ hwhole.2 ?_
    · rw [hdirectory]
      exact hg
    · rw [hdirectory]
      exact hs.2

/-- A batch of mappings comes to its end: every mapping has its turn, and its entry tells a report
or a failure. -/
theorem batch_completes {mappings : List Entries} {w : World} (hg : g.IsStandard w.directory)
    (hwhole : ∀ es ∈ mappings, (Document.map es).isWhole = true)
    (hs : ∀ es ∈ mappings, ∀ s, Schema.read (.map es) = .valid s → g.Manages w.directory s) :
    ∃ report w', g.Reports (mappings.map .entries) w report w' := by
  obtain ⟨report, w', hreports, _⟩ := exists_reports (provided_of_manages hg hwhole hs)
  exact ⟨report, w', hreports⟩

/-- A generator with the standard configuration. -/
def standard : Generator := { root := ⟨.absolute, []⟩ }

theorem standard_isStandard : standard.IsStandard [] where
  config := rfl
  root := fun _ hnone => nomatch hnone
  directory := fun _ hnone => nomatch hnone

theorem standard_manages_note : standard.Manages [] note where
  name := by decide
  table := by decide
  depth := by decide
  numerals := by decide +kernel
  templates kind := render_shipped_ne kind note

/-- Between two notes, a mapping that is no schema. -/
theorem notes_completed : ∃ report w', standard.Reports
    ([noteEntries, [], noteEntries].map .entries) bareWorld report w' := by
  have hnote : ∀ s, Schema.read (.map noteEntries) = .valid s → standard.Manages [] s := by
    intro s hs
    obtain rfl : note = s := Checked.valid.inj hs
    exact standard_manages_note
  have hnothing : ∀ s, Schema.read (.map []) = .valid s → standard.Manages [] s :=
    fun _ hs => nomatch hs
  refine batch_completes standard_isStandard (by decide) ?_
  intro es hes
  rcases List.mem_cons.1 hes with rfl | hes
  · exact hnote
  · rcases List.mem_cons.1 hes with rfl | hes
    · exact hnothing
    · rw [List.mem_singleton] at hes
      rw [hes]
      exact hnote

/-- The note, but for a table whose name has a null character. -/
def cutEntries : Entries := [
  (.text "name", .text "N"),
  (.text "tableName", .text "t\x00"),
  (.text "fields", .list []),
  (.text "operations", .list []),
  (.text "rls", .list [])]

def brokeDown {α : Type} (b : Breakdown) : Except Stop α → Bool
  | .error (.breakdown b') => b' = b
  | _ => false

/-- A null character in the name of a table ends the whole batch: it is no failure that the batch
records, and the note that follows has no turn. -/
theorem cut_breaks_down : standard.config = .standard ∧ standard.dryRun = false ∧
    (∃ s, Schema.read (.map cutEntries) = .valid s) ∧
    brokeDown .nullCharacter ((standard.batch
      ([cutEntries, noteEntries].map .entries)).start bareWorld).1 = true ∧
    ¬ ∃ report w', standard.Reports
      ([cutEntries, noteEntries].map .entries) bareWorld report w' := by
  have hbroken : brokeDown .nullCharacter ((standard.batch
      ([cutEntries, noteEntries].map .entries)).start bareWorld).1 = true := by
    decide +kernel
  refine ⟨rfl, rfl, ⟨{ note with table := "t\x00" }, rfl⟩, hbroken, ?_⟩
  rintro ⟨report, w', hreports⟩
  rw [hreports.returned] at hbroken
  cases hbroken

end Generator
end Scaffold
