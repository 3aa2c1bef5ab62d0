import Scaffold.Proofs.Attempts
import Scaffold.Proofs.Containment
import Scaffold.Proofs.Rehearsal

/-!
# Schemas keep apart

In the standard layout the place of an artifact tells its kind, and the name of the table or of the
entity after which its file or its directory is named, as long as these names have no slashes. So
schemas that share neither name have no place in common, and making the files of one of them leaves
those of the other alone.
-/
namespace Scaffold

open Run FileSystem
open Artifact (Kind)

/-! ## Places in the standard layout -/

/-- What stands behind the last slash of a text begins the last name of every longer text. -/
theorem Path.exists_stem (cs : List Char) : ∃ stem : String, ∀ rest, IsName rest →
    IsName (stem ++ rest) ∧ ∃ names, namesOf (cs ++ rest.toList) = names ++ [stem ++ rest] := by
  induction cs using Text.parts_induction '/' with
  | single cs h =>
    refine ⟨String.ofList cs, fun rest hrest => ?_⟩
    have hname : IsName (String.ofList cs ++ rest) := hrest.prepend (by simpa using h)
    have htext : cs ++ rest.toList = (String.ofList cs ++ rest).toList := by
      simp
    refine ⟨hname, [], ?_⟩
    rw [htext]
    exact congrArg Path.names (ofString_of_isName hname)
  | cons first cs h ih =>
    obtain ⟨stem, hstem⟩ := ih
    refine ⟨stem, fun rest hrest => ?_⟩
    obtain ⟨hname, names, hnames⟩ := hstem rest hrest
    refine ⟨hname, namesOf first ++ names, ?_⟩
    rw [List.append_assoc, List.cons_append, namesOf_append, hnames, List.append_assoc]

/-- Names of an entity and of its table that have no slashes. -/
structure Slashless (entity table : String) : Prop where
  entity : '/' ∉ entity.toList
  table : '/' ∉ table.toList

namespace Artifact.Kind

/-- The name after which an artifact is named. -/
def subject (entity table : String) : Kind → String
  | .migration | .validation | .endpoint => table
  | .repository | .model | .service | .hook | .adminPage | .demo | .client => entity

/-- The last part of the name of an artifact's file. -/
def fileName (entity table : String) : Kind → String
  | .migration => "_create_" ++ table ++ "_table." ++ "sql"
  | .validation => "schema." ++ "ts"
  | .repository => entity ++ "Repository." ++ "ts"
  | .endpoint => "index." ++ "ts"
  | .model => entity ++ "." ++ "ts"
  | .service => entity ++ "Service." ++ "ts"
  | .hook => "use" ++ entity ++ "s." ++ "ts"
  | .adminPage => entity ++ "AdminPage." ++ "tsx"
  | .demo => entity ++ "sDemo." ++ "tsx"
  | .client => entity ++ "sClient." ++ "ts"

/-- The directories above an artifact, as far as they tell its kind. -/
def region (table : String) : Kind → List String
  | .migration => []
  | .validation | .endpoint => ["supabase", "functions", table ++ "-crud"]
  | .repository => ["supabase", "functions", "_shared", "repositories"]
  | .model => ["packages", "app-frontend", "src", "models"]
  | .service => ["packages", "app-frontend", "src", "services"]
  | .hook => ["packages", "app-frontend", "src", "hooks"]
  | .adminPage => ["packages", "app-frontend", "src", "pages"]
  | .demo => ["packages", "app-frontend", "src", "components"]
  | .client => ["packages", "app-cli", "clients"]

variable {entity table entity' table' : String} {kind kind' : Kind}

theorem isName_fileName (hnames : Slashless entity table) (kind : Kind) :
    Path.IsName (kind.fileName entity table) := by
  have hending (name ending : String) (h : Path.IsName (name ++ ending)) :
      Path.IsName (entity ++ name ++ ending) := by
    rw [String.append_assoc]
    exact h.prepend hnames.entity
  cases kind with
  | migration =>
    have hopening : Path.IsName "_create_" := by decide
    exact ((hopening.append hnames.table).append (by decide)).append (by decide)
  | validation => exact (by decide : Path.IsName ("schema." ++ "ts"))
  | endpoint => exact (by decide : Path.IsName ("index." ++ "ts"))
  | repository | model | service | adminPage | demo | client => exact hending _ _ (by decide)
  | hook =>
    have hopening : Path.IsName "use" := by decide
    exact ((hopening.append hnames.entity).append (by decide)).append (by decide)

/-- The last letter of its file tells a migration. -/
theorem getLast?_fileName (stem entity table : String) (kind : Kind) :
    (stem ++ kind.fileName entity table).toList.getLast? = some 'l' ↔ kind = .migration := by
  cases kind <;> simp [fileName, List.getLast?_cons, List.getLast?_append]

theorem crud_ne_shared (table : String) : table ++ "-crud" ≠ "_shared" := by
  intro h
  have hdash : '-' ∈ (table ++ "-crud").toList := by simp
  rw [h] at hdash
  exact absurd hdash (by decide)

/-- Regions that are not those of a migration do not overlap, but for the one that validation and
endpoint have in common. -/
theorem eq_of_region (hkind : kind ≠ .migration) (hkind' : kind' ≠ .migration)
    {more more' : List String}
    (h : kind.region table ++ more = kind'.region table' ++ more') :
    kind = kind' ∧ (kind = .validation ∨ kind = .endpoint → table = table') ∨
      (kind = .validation ∧ kind' = .endpoint ∨ kind = .endpoint ∧ kind' = .validation) := by
  cases kind <;> cases kind' <;>
    simp_all [region, crud_ne_shared, (crud_ne_shared _).symm, String.append_left_inj]

theorem subject_eq_of_fileName (hkind : kind ≠ .validation ∧ kind ≠ .endpoint)
    (h : kind.fileName entity table = kind.fileName entity' table') :
    kind.subject entity table = kind.subject entity' table' := by
  cases kind <;>
    simp_all [fileName, subject, String.append_left_inj, String.append_right_inj,
      String.append_assoc]

end Artifact.Kind

/-! ## Where artifacts of the standard layout lie -/

theorem Path.exists_location_child {p : Path} {s last : String} {names : List String}
    (hnames : (ofString s).names = names ++ [last]) (hlast : last ≠ "..") :
    ∃ before, (p.child s).location = before ++ [last] := by
  unfold child join
  split
  · rw [location, hnames, ← List.append_assoc, located_concat, onward, if_neg hlast]
    exact ⟨_, rfl⟩
  · rw [location, hnames, located_concat, onward, if_neg hlast]
    exact ⟨_, rfl⟩

namespace Layout

/-- Whatever the time stamp is, the last name of a migration's place ends with the table's file. -/
theorem exists_location_migration (timestamp : String) : ∃ stem : String,
    ∀ (root : Path) {entity table : String}, Slashless entity table →
      ∃ before, (root.join (standard.path timestamp entity table .migration)).location =
        before ++ [stem ++ Kind.migration.fileName entity table] := by
  obtain ⟨stem, hstem⟩ := Path.exists_stem timestamp.toList
  refine ⟨stem, fun root entity table hslashless => ?_⟩
  obtain ⟨hname, names, hnames⟩ := hstem _ (Kind.isName_fileName hslashless .migration)
  have htext : timestamp.toList ++ (Kind.migration.fileName entity table).toList =
      (timestamp ++ "_create_" ++ table ++ "_table." ++ "sql").toList := by
    simp [Kind.fileName]
  rw [htext] at hnames
  change ∃ before, (root.join ((Path.ofString standard.migrations).child
    (timestamp ++ "_create_" ++ table ++ "_table." ++ "sql"))).location = _
  rw [Path.join_child]
  exact Path.exists_location_child hnames hname.dotdot

theorem exists_location_of_ne (root : Path) (timestamp : String) {entity table : String}
    (h : Slashless entity table) {kind : Kind} (hkind : kind ≠ .migration) : ∃ more,
      (root.join (standard.path timestamp entity table kind)).location =
        root.location ++ (kind.region table ++ more) ++ [kind.fileName entity table] := by
  have hname := Kind.isName_fileName h kind
  have hfile (directory : Path) {place : Location}
      (hplace : (root.join directory).location = place) :
      (root.join (directory.child (kind.fileName entity table))).location =
        place ++ [kind.fileName entity table] := by
    rw [Path.join_child, Path.location_child _ hname, hplace]
  have hfixed (directory : String) (hdown : (Path.ofString directory).Descends) :
      (root.join (Path.ofString directory)).location =
        root.location ++ (Path.ofString directory).names := hdown.location_join root
  have hcrud : (root.join ((Path.ofString standard.functions).child (table ++ "-crud"))).location =
      root.location ++ ["supabase", "functions", table ++ "-crud"] := by
    have hdashed : Path.IsName "-crud" := by decide
    rw [Path.join_child, Path.location_child _ (hdashed.prepend h.table), hfixed _ (by decide),
      List.append_assoc]
    rfl
  cases kind with
  | migration => exact absurd rfl hkind
  | validation | endpoint => exact ⟨[], hfile _ hcrud⟩
  | repository | model | service | hook | client => exact ⟨[], hfile _ (hfixed _ (by decide))⟩
  | adminPage => exact ⟨["admin"], hfile _ (hfixed _ (by decide))⟩
  | demo =>
    -- The table's name is a directory of its own here: it may be empty, a dot or a step back.
    suffices hbelow : ∃ more, (root.join ((Path.ofString standard.features).child table)).location =
        root.location ++ (Kind.demo.region table ++ more) by
      obtain ⟨more, hplace⟩ := hbelow
      exact ⟨more, hfile _ hplace⟩
    have hfeatures := hfixed standard.features (by decide)
    rw [Path.join_child]
    by_cases hdirectory : Path.IsName table
    · rw [Path.location_child _ hdirectory, hfeatures, List.append_assoc]
      exact ⟨["features", table], rfl⟩
    · obtain ⟨names, hnames | hnames, hspelled⟩ := Path.ofString_of_not_isName h.table hdirectory
      · rw [Path.location_child_of_relative _ names hspelled, hfeatures, hnames]
        exact ⟨["features"], rfl⟩
      · rw [Path.location_child_of_relative _ names hspelled, hfeatures, hnames]
        refine ⟨[], ?_⟩
        rw [List.foldl_cons, List.foldl_nil, onward, if_pos rfl, List.dropLast_append_of_ne_nil]
        · rfl
        · exact (by decide)

variable {root : Path} {timestamp entity table entity' table' : String} {kind kind' : Kind}

/-- A migration has a place of its own. -/
theorem location_ne_of_migration (hnames : Slashless entity table)
    (hnames' : Slashless entity' table') (hkind : kind ≠ .migration) :
    (root.join (standard.path timestamp entity table .migration)).location ≠
      (root.join (standard.path timestamp entity' table' kind)).location := by
  obtain ⟨stem, hstem⟩ := exists_location_migration timestamp
  obtain ⟨before, hplace⟩ := hstem root hnames
  obtain ⟨more, hplace'⟩ := exists_location_of_ne root timestamp hnames' hkind
  intro h
  rw [hplace, hplace'] at h
  have hname : stem ++ Kind.migration.fileName entity table = kind.fileName entity' table' :=
    List.singleton_inj.1 (List.append_inj' h rfl).2
  have hlast := (Kind.getLast?_fileName stem entity table .migration).2 rfl
  rw [hname, ← String.empty_append (s := kind.fileName entity' table')] at hlast
  exact hkind ((Kind.getLast?_fileName "" entity' table' kind).1 hlast)

theorem eq_of_location_migration (hnames : Slashless entity table)
    (hnames' : Slashless entity' table')
    (h : (root.join (standard.path timestamp entity table .migration)).location =
      (root.join (standard.path timestamp entity' table' .migration)).location) :
    table = table' := by
  obtain ⟨stem, hstem⟩ := exists_location_migration timestamp
  obtain ⟨before, hplace⟩ := hstem root hnames
  obtain ⟨before', hplace'⟩ := hstem root hnames'
  rw [hplace, hplace'] at h
  have hname := List.singleton_inj.1 (List.append_inj' h rfl).2
  rw [String.append_right_inj] at hname
  have hsubject : Kind.migration.subject entity table = Kind.migration.subject entity' table' :=
    Kind.subject_eq_of_fileName (by decide) hname
  exact hsubject

/-- The place of an artifact tells its kind and the name after which it is named. -/
theorem eq_of_location (hnames : Slashless entity table) (hnames' : Slashless entity' table')
    (h : (root.join (standard.path timestamp entity table kind)).location =
      (root.join (standard.path timestamp entity' table' kind')).location) :
    kind = kind' ∧ kind.subject entity table = kind'.subject entity' table' := by
  by_cases hkind : kind = .migration
  · subst hkind
    by_cases hkind' : kind' = .migration
    · subst hkind'
      exact ⟨rfl, eq_of_location_migration hnames hnames' h⟩
    · exact absurd h (location_ne_of_migration hnames hnames' hkind')
  by_cases hkind' : kind' = .migration
  · subst hkind'
    exact absurd h.symm (location_ne_of_migration hnames' hnames hkind)
  obtain ⟨more, hplace⟩ := exists_location_of_ne root timestamp hnames hkind
  obtain ⟨more', hplace'⟩ := exists_location_of_ne root timestamp hnames' hkind'
  rw [hplace, hplace'] at h
  obtain ⟨hdirectory, hname⟩ := List.append_inj' h rfl
  rw [List.singleton_inj] at hname
  have hfiles : "schema." ++ "ts" ≠ "index." ++ "ts" := by decide
  rcases Kind.eq_of_region hkind hkind' (List.append_cancel_left hdirectory) with
    ⟨rfl, htables⟩ | ⟨rfl, rfl⟩ | ⟨rfl, rfl⟩
  · refine ⟨rfl, ?_⟩
    by_cases hshared : kind = .validation ∨ kind = .endpoint
    · obtain rfl := htables hshared
      rcases hshared with rfl | rfl <;> rfl
    · exact Kind.subject_eq_of_fileName (not_or.1 hshared) hname
  · exact absurd hname hfiles
  · exact absurd hname.symm hfiles

end Layout

/-! ## Schemas that share no name -/

/-- Two paths that differ, and that lead to different places below every root. -/
structure Path.Parted (p q : Path) : Prop where
  ne : p ≠ q
  location_ne : ∀ root : Path, (root.join p).location ≠ (root.join q).location

theorem Path.parted_of_location_ne {p q : Path}
    (h : ∀ root : Path, (root.join p).location ≠ (root.join q).location) : p.Parted q :=
  ⟨fun heq => h p (by rw [heq]), h⟩

namespace Layout

variable {entity table entity' table' : String}

/-- The artifacts of one schema go to different places. -/
theorem parted_of_kind_ne (hnames : Slashless entity table) (timestamp : String)
    {kind kind' : Kind} (h : kind ≠ kind') : (standard.path timestamp entity table kind).Parted
      (standard.path timestamp entity table kind') :=
  Path.parted_of_location_ne fun _ hplace => h (eq_of_location hnames hnames hplace).1

/-- So do the artifacts of schemas that share neither name. -/
theorem parted_of_names_ne (hnames : Slashless entity table) (hnames' : Slashless entity' table')
    (hentity : entity ≠ entity') (htable : table ≠ table') (timestamp : String)
    (kind kind' : Kind) : (standard.path timestamp entity table kind).Parted
      (standard.path timestamp entity' table' kind') := by
  refine Path.parted_of_location_ne fun root hplace => ?_
  obtain ⟨rfl, hsubject⟩ := eq_of_location hnames hnames' hplace
  cases kind with
  | migration | validation | endpoint => exact htable hsubject
  | repository | model | service | hook | adminPage | demo | client => exact hentity hsubject

end Layout

/-- A schema whose names have no slashes, and that shares neither of them with another. -/
structure Schema.StrangerTo (s t : Schema) : Prop where
  slashless : Slashless s.name s.table
  name : s.name ≠ t.name
  table : s.table ≠ t.table

/-! ## Runs for several schemas -/

/-- What holds after an item and after those that follow holds after all of them. -/
theorem Run.Ends.mapM_cons {α β : Type} {f : α → Run β} {a : α} {rest : List α} {w : World}
    {kept : World → Prop}
    (h : Ends (f a) w fun _ w₁ => kept w₁ ∧ Ends (rest.mapM f) w₁ fun _ w' => kept w') :
    Ends ((a :: rest).mapM f) w fun _ w' => kept w' := by
  rw [List.mapM_cons]
  refine h.bind ?_ fun _ _ hfirst => hfirst.1
  rintro b w₁ ⟨_, hrest⟩
  exact hrest.bind (fun _ _ hend => hend) fun _ _ hend => hend

namespace Generator

variable {g : Generator} {source : Source} {s : Schema} {kind : Kind} {content : ByteArray}
  {w w' : World}

/-- Where the artifact of a kind goes. -/
def home (g : Generator) (w : World) (s : Schema) (kind : Kind) : Path :=
  (g.rooted w.directory).root.join
    (g.config.layout.path (w.now.format g.config.timestampFormat) s.name s.table kind)

/-- There is a file where the artifact of a kind goes. -/
def Has (g : Generator) (w : World) (s : Schema) (kind : Kind) (content : ByteArray) : Prop :=
  w.files.find w.directory (g.home w s kind) = .ok (.file content)

theorem home_of_sameSetting (h : SameSetting w w') (s : Schema) (kind : Kind) :
    g.home w' s kind = g.home w s kind := by
  rw [home, home, h.directory, h.now]

/-- The places where artifacts of the schema of a source go. -/
def homes (g : Generator) (source : Source) (w : World) : Set Location :=
  {q | ∃ s kind, ((Loading.schema source).start w).1 = .ok s ∧ q = (g.home w s kind).location}

theorem places_subset_homes {artifacts : List Artifact} (h : g.Prepares source w s artifacts) :
    (g.rooted w.directory).places artifacts ⊆ g.homes source w := by
  rintro q ⟨a, ha, rfl⟩
  have hpath : a.path ∈ artifacts.map (·.path) := List.mem_map_of_mem ha
  rw [(map_of_renders h.rendered).2] at hpath
  obtain ⟨kind, _, hkind⟩ := List.mem_map.1 hpath
  refine ⟨s, kind, h.loaded, ?_⟩
  rw [home, hkind]
  rfl

/-- However a run ends, it changes files only where artifacts of its schema go. -/
theorem evolves_generate_homes (g : Generator) (source : Source) (w : World) :
    Evolves (g.homes source w) .univ w.files ((g.generate source).start w).2.files := by
  change Evolves _ _ _ (effect (g.generate source) w).2
  rw [effect_generate]
  rcases hprepared : g.prepared source w with stop | ⟨s, artifacts⟩
  · exact .refl ..
  have hroot : (g.rooted w.directory).root.anchor ≠ .relative := Anchor.noConfusion
  have hkeeps := Emitter.keeps_outcomes hroot true artifacts w
  have hevolves : Evolves (g.homes source w) .univ w.files
      (effect ((g.rooted w.directory).outcomes true artifacts) w).2 :=
    hkeeps.evolves.mono (places_subset_homes (prepares_of_prepared hprepared)) (Set.Subset.refl _)
  dsimp only
  rcases hemit : effect ((g.rooted w.directory).outcomes true artifacts) w with
    ⟨stop | outcomes, files⟩
  · rwa [hemit] at hevolves
  · rwa [hemit] at hevolves

theorem files_batchEntry (g : Generator) (source : Source) (w : World) :
    ((g.batchEntry source).start w).2.files = ((g.generate source).start w).2.files := by
  change (effect (g.batchEntry source) w).2 = (effect (g.generate source) w).2
  unfold batchEntry
  rw [(Steady.attempt (g.steady_generate source)).effect_bind,
    (g.steady_generate source).effect_attempt]
  · rcases effect (g.generate source) w with ⟨(f | b) | report, files⟩ <;> rfl
  · rintro (f | report)
    · exact .bind (.note ..) fun _ => .pure _
    · exact .pure _

theorem Has.unchanged (h : g.Has w s kind content) (hsame : Unchanged w w') :
    g.Has w' s kind content := by
  obtain ⟨_, rfl⟩ := hsame
  exact h

/-- The turn of a stranger leaves the files of a schema alone. -/
theorem Has.turn (hlayout : g.config.layout = .standard) (hs : Slashless s.name s.table)
    (hother : ∀ t, ((Loading.schema source).start w).1 = .ok t → t.StrangerTo s)
    (h : g.Has w s kind content) : g.Has ((g.batchEntry source).start w).2 s kind content := by
  have hsetting := (g.steady_batchEntry source).setting w
  have hanchor : (g.home w s kind).anchor ≠ .relative := Path.anchor_join Anchor.noConfusion _
  unfold Has
  rw [home_of_sameSetting hsetting, hsetting.directory, files_batchEntry]
  refine (g.evolves_generate_homes source w).find hanchor ?_ h
  rintro ⟨t, kind', hload, hplace⟩
  have ht := hother t hload
  unfold home at hplace
  rw [hlayout] at hplace
  have hparted := Layout.parted_of_names_ne ht.slashless hs ht.name ht.table
    (w.now.format g.config.timestampFormat) kind' kind
  exact hparted.location_ne _ hplace.symm

/-- Sources that load, when their turns come, only strangers to a schema. -/
def Strangers (g : Generator) (s : Schema) : List Source → World → Prop
  | [], _ => True
  | source :: rest, w =>
    (∀ t, ((Loading.schema source).start w).1 = .ok t → t.StrangerTo s) ∧
      Strangers g s rest ((g.batchEntry source).start w).2

theorem Has.turns {sources : List Source} (hlayout : g.config.layout = .standard)
    (hs : Slashless s.name s.table) (hstrangers : g.Strangers s sources w)
    (h : g.Has w s kind content) :
    Ends (sources.mapM g.batchEntry) w fun _ w' => g.Has w' s kind content := by
  induction sources generalizing w with
  | nil => exact h
  | cons source rest ih =>
    obtain ⟨hother, hrest⟩ := hstrangers
    have hturn := h.turn hlayout hs hother
    exact Ends.mapM_cons ⟨hturn, ih hrest hturn⟩

/-- In the standard layout, schemas keep apart as long as their names have no slashes: for one time
stamp, the artifacts of a schema go to different places, and so do those of two schemas that share
neither name. So in a batch every file that is at the place of an artifact when the turn of its
schema is over is still the same in the end, if those whose turns come later are strangers. -/
theorem schemas_keep_apart :
    (∀ timestamp entity table, Slashless entity table → ∀ kind kind', kind ≠ kind' →
      (Layout.standard.path timestamp entity table kind).Parted
        (Layout.standard.path timestamp entity table kind')) ∧
    (∀ timestamp entity table entity' table', Slashless entity table → Slashless entity' table' →
      entity ≠ entity' → table ≠ table' → ∀ kind kind',
      (Layout.standard.path timestamp entity table kind).Parted
        (Layout.standard.path timestamp entity' table' kind')) ∧
    ∀ (g : Generator) (source : Source) (rest : List Source) (w : World) (s : Schema),
      g.config.layout = .standard → ((Loading.schema source).start w).1 = .ok s →
      Slashless s.name s.table → g.Strangers s rest ((g.batchEntry source).start w).2 →
      ∀ kind content, g.Has ((g.batchEntry source).start w).2 s kind content →
        g.Has ((g.batch (source :: rest)).start w).2 s kind content := by
  refine ⟨fun timestamp entity table hnames kind kind' h => ?_,
    fun timestamp entity table entity' table' hnames hnames' hentity htable kind kind' => ?_,
    fun g source rest w s hlayout _ hs hstrangers kind content hfirst => ?_⟩
  · exact Layout.parted_of_kind_ne hnames timestamp h
  · exact Layout.parted_of_names_ne hnames hnames' hentity htable timestamp kind kind'
  · have hturns : Ends ((source :: rest).mapM g.batchEntry) w fun _ w' =>
        g.Has w' s kind content := .mapM_cons ⟨hfirst, hfirst.turns hlayout hs hstrangers⟩
    have htimed := hturns.timed_of_unchanged "generate_batch" fun _ _ _ hend hafter =>
      hend.unchanged hafter
    change Ends (g.batch (source :: rest)) w fun _ w' => g.Has w' s kind content
    refine htimed.bind ?_ fun _ _ hend => hend
    rintro ⟨entries, elapsed⟩ w' hend
    exact .bind_of_ok (start_note ..) (hend.unchanged ⟨_, rfl⟩)

/-! ## A note and a task -/

/-- A schema that shares no name with the note. -/
def taskEntries : Entries := [
  (.text "name", .text "M"),
  (.text "tableName", .text "u"),
  (.text "fields", .list []),
  (.text "operations", .list []),
  (.text "rls", .list [])]

def isFile : Except Refused Entry → Bool
  | .ok (.file _) => true
  | _ => false

theorem exists_of_isFile {found : Except Refused Entry} (h : isFile found = true) :
    ∃ content, found = .ok (.file content) := by
  unfold isFile at h
  split at h
  · exact ⟨_, rfl⟩
  · cases h

theorem note_and_task_apart : standard.config.layout = .standard ∧
    ((Loading.schema (.entries noteEntries)).start bareWorld).1 = .ok note ∧
    Slashless note.name note.table ∧
    standard.Strangers note [.entries taskEntries]
      ((standard.batchEntry (.entries noteEntries)).start bareWorld).2 ∧
    ∀ kind ∈ Kind.all, ∃ content,
      standard.Has ((standard.batchEntry (.entries noteEntries)).start bareWorld).2 note kind
        content ∧
      standard.Has ((standard.batch [.entries noteEntries, .entries taskEntries]).start
        bareWorld).2 note kind content := by
  have hload : ((Loading.schema (.entries noteEntries)).start bareWorld).1 = .ok note := rfl
  have hnames : Slashless note.name note.table := ⟨by decide, by decide⟩
  have hstrangers : standard.Strangers note [.entries taskEntries]
      ((standard.batchEntry (.entries noteEntries)).start bareWorld).2 := by
    refine ⟨fun t ht => ?_, trivial⟩
    obtain rfl : { note with name := "M", table := "u" } = t := Except.ok.inj ht
    exact ⟨⟨by decide, by decide⟩, by decide, by decide⟩
  have hwritten : ∀ kind ∈ Kind.all, isFile (((standard.batchEntry (.entries noteEntries)).start
      bareWorld).2.files.find [] (standard.home bareWorld note kind)) = true := by
    decide +kernel
  refine ⟨rfl, hload, hnames, hstrangers, fun kind hkind => ?_⟩
  obtain ⟨content, hfind⟩ := exists_of_isFile (hwritten kind hkind)
  have hsetting := (standard.steady_batchEntry (.entries noteEntries)).setting bareWorld
  have hhas : standard.Has ((standard.batchEntry (.entries noteEntries)).start bareWorld).2 note
      kind content := by
    unfold Has
    rw [home_of_sameSetting hsetting, hsetting.directory]
    exact hfind
  exact ⟨content, hhas, schemas_keep_apart.2.2 standard (.entries noteEntries)
    [.entries taskEntries] bareWorld note rfl hload hnames hstrangers kind content hhas⟩

end Generator
end Scaffold
