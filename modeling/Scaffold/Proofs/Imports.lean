import Scaffold.Artifact.Paths
import Scaffold.Artifact.Rendering
import Scaffold.Proofs.Acceptance
import Scaffold.Proofs.Printing
import Scaffold.Proofs.Spelling

/-!
# Where imports lead

Six imports lead from one artifact to another. What they say is fixed, while the layout decides
where the artifacts go. Each of them leads to its artifact in exactly those layouts that put the two
directories where the import takes them to be; the standard layout does so for every pair of names.
-/
namespace Scaffold

open Artifact FileSystem Script Text

/-- An import of one artifact in another. -/
inductive Import
  | endpointValidation
  | endpointRepository
  | serviceModel
  | hookService
  | hookModel
  | demoHook
deriving DecidableEq, Repr

namespace Import

def importer : Import → Kind
  | .endpointValidation | .endpointRepository => .endpoint
  | .serviceModel => .service
  | .hookService | .hookModel => .hook
  | .demoHook => .demo

def imported : Import → Kind
  | .endpointValidation => .validation
  | .endpointRepository => .repository
  | .serviceModel | .hookModel => .model
  | .hookService => .service
  | .demoHook => .hook

/-- What stands between the quotes. -/
def specifier (s : Schema) : Import → String
  | .endpointValidation => Endpoint.schemaImport
  | .endpointRepository => Endpoint.repositoryImport s
  | .serviceModel => Service.modelImport s
  | .hookService => Hook.serviceImport s
  | .hookModel => Hook.modelImport s
  | .demoHook => Demo.hookImport s

/-- Whether the ending of the file is written. -/
def hasEnding (i : Import) : Bool := i.importer = .endpoint

/-- The lines with which the text of the importer begins. -/
def headerLines (s : Schema) (i : Import) : List String :=
  match i.importer with
  | .endpoint => Endpoint.headerLines s
  | .service => Service.headerLines s
  | .hook => Hook.headerLines s
  | _ => Demo.headerLines s

theorem headerLines_subset (s : Schema) (i : Import) :
    ∃ lines, i.importer.text s = unlines lines ∧ i.headerLines s ⊆ lines := by
  cases i with
  | endpointValidation | endpointRepository =>
    refine ⟨Endpoint.lines s, rfl, ?_⟩
    simp only [Endpoint.lines, List.append_assoc]
    exact List.subset_append_left _ _
  | hookService | hookModel =>
    refine ⟨Hook.lines s, rfl, ?_⟩
    simp only [Hook.lines, List.append_assoc]
    exact List.subset_append_left _ _
  | serviceModel =>
    refine ⟨Service.lines s, rfl, ?_⟩
    simp only [Service.lines, List.append_assoc]
    exact List.subset_append_left _ _
  | demoHook =>
    refine ⟨Demo.lines s, rfl, ?_⟩
    simp only [Demo.lines, List.append_assoc]
    exact List.subset_append_left _ _

theorem mentions_specifier (s : Schema) (i : Import) :
    Mentions (i.headerLines s) ("from '" ++ i.specifier s ++ "'") := by
  have hfrom (line before : String) (hline : line ∈ i.headerLines s)
      (h : line = before ++ ("from '" ++ i.specifier s ++ "'")) :
      Mentions (i.headerLines s) ("from '" ++ i.specifier s ++ "'") :=
    .of_eq line before "" hline (by rw [h, String.append_empty])
  cases i with
  | endpointValidation =>
    refine hfrom
      s!"import \x7b {s.name}CreateSchema, {s.name}UpdateSchema \x7d from '{Endpoint.schemaImport}'"
      s!"import \x7b {s.name}CreateSchema, {s.name}UpdateSchema \x7d " ?_ ?_
    · simp [headerLines, importer, Endpoint.headerLines]
    · rw [← String.toList_inj]
      simp [specifier, toString]
  | endpointRepository =>
    refine hfrom s!"import \x7b {s.name}Repository \x7d from '{Endpoint.repositoryImport s}'"
      s!"import \x7b {s.name}Repository \x7d " ?_ ?_
    · simp [headerLines, importer, Endpoint.headerLines]
    · rw [← String.toList_inj]
      simp [specifier, toString]
  | serviceModel =>
    refine hfrom s!"import \x7b {s.name} \x7d from '{Service.modelImport s}'"
      s!"import \x7b {s.name} \x7d " ?_ ?_
    · simp [headerLines, importer, Service.headerLines]
    · rw [← String.toList_inj]
      simp [specifier, toString]
  | hookService =>
    refine hfrom s!"import \x7b {s.name}Service \x7d from '{Hook.serviceImport s}'"
      s!"import \x7b {s.name}Service \x7d " ?_ ?_
    · simp [headerLines, importer, Hook.headerLines]
    · rw [← String.toList_inj]
      simp [specifier, toString]
  | hookModel =>
    refine hfrom s!"\x7d from '{Hook.modelImport s}'" "\x7d " ?_ ?_
    · simp [headerLines, importer, Hook.headerLines]
    · rw [← String.toList_inj]
      simp [specifier, toString]
  | demoHook =>
    refine hfrom s!"import \x7b use{s.name}s \x7d from '{Demo.hookImport s}'"
      s!"import \x7b use{s.name}s \x7d " ?_ ?_
    · simp [headerLines, importer, Demo.headerLines]
    · rw [← String.toList_inj]
      simp [specifier, toString]

/-! ## Following an import -/

/-- A place with an ending added to its last name. -/
def completed (ending : String) (place : Location) : Location :=
  place.dropLast ++ [place.getLastD "" ++ "." ++ ending]

/-- Where an import leads: it is followed from the directory of its artifact, and the ending that it
leaves out is added. -/
def place (root : Path) (l : Layout) (timestamp : String) (s : Schema) (i : Import) : Location :=
  let directory := (root.join (l.path timestamp s.name s.table i.importer)).parent
  let place := (directory.child (i.specifier s)).location
  if i.hasEnding then place else completed l.sourceEnding place

/-- An import leads to the path of the artifact that it is of. -/
def Resolves (root : Path) (l : Layout) (timestamp : String) (s : Schema) (i : Import) : Prop :=
  i.place root l timestamp s = (root.join (l.path timestamp s.name s.table i.imported)).location

end Import

/-- Two paths that lead from the root to the same place. -/
def Path.Meet (root p q : Path) : Prop := (root.join p).location = (root.join q).location

namespace Import

/-- What an import takes for granted in a layout. -/
def Fits (root : Path) (l : Layout) (s : Schema) : Import → Prop
  | .endpointValidation => l.sourceEnding = "ts"
  | .endpointRepository =>
    root.Meet ((Path.ofString l.functions).child "_shared/repositories")
      (Path.ofString l.repositories) ∧ l.sourceEnding = "ts"
  | .serviceModel =>
    root.Meet ((Path.ofString l.services).child "../models") (Path.ofString l.models)
  | .hookService =>
    root.Meet ((Path.ofString l.hooks).child "../services") (Path.ofString l.services)
  | .hookModel => root.Meet ((Path.ofString l.hooks).child "../models") (Path.ofString l.models)
  | .demoHook =>
    root.Meet (((Path.ofString l.features).child s.table).child "../../../hooks")
      (Path.ofString l.hooks)

/-! ## Directories -/

/-- The directory that an import is followed from. -/
def home (l : Layout) (s : Schema) : Import → Path
  | .endpointValidation | .endpointRepository =>
    (Path.ofString l.functions).child s!"{s.table}-crud"
  | .serviceModel => Path.ofString l.services
  | .hookService | .hookModel => Path.ofString l.hooks
  | .demoHook => (Path.ofString l.features).child s.table

/-- The directory of the artifact that an import is of. -/
def there (l : Layout) (s : Schema) : Import → Path
  | .endpointValidation => (Path.ofString l.functions).child s!"{s.table}-crud"
  | .endpointRepository => Path.ofString l.repositories
  | .serviceModel | .hookModel => Path.ofString l.models
  | .hookService => Path.ofString l.services
  | .demoHook => Path.ofString l.hooks

/-- How an import says to come from the one to the other. -/
def way : Import → String
  | .endpointValidation => "."
  | .endpointRepository => "../_shared/repositories"
  | .serviceModel | .hookModel => "../models"
  | .hookService => "../services"
  | .demoHook => "../../../hooks"

/-- The name of the file as the import writes it. -/
def written (s : Schema) : Import → String
  | .endpointValidation => "schema.ts"
  | .endpointRepository => s!"{s.name}Repository.ts"
  | .serviceModel | .hookModel => s.name
  | .hookService => s!"{s.name}Service"
  | .demoHook => s!"use{s.name}s"

/-- The name that the file has. -/
def given (l : Layout) (s : Schema) : Import → String
  | .endpointValidation => s!"schema.{l.sourceEnding}"
  | .endpointRepository => s!"{s.name}Repository.{l.sourceEnding}"
  | .serviceModel | .hookModel => s!"{s.name}.{l.sourceEnding}"
  | .hookService => s!"{s.name}Service.{l.sourceEnding}"
  | .demoHook => s!"use{s.name}s.{l.sourceEnding}"

theorem specifier_eq (s : Schema) (i : Import) :
    i.specifier s = i.way ++ "/" ++ i.written s := by
  cases i with
  | endpointValidation => rfl
  | endpointRepository =>
    have hway : "../_shared/repositories/" = "../_shared/repositories" ++ "/" := rfl
    change "../_shared/repositories/" ++ s.name ++ "Repository.ts" =
      "../_shared/repositories" ++ "/" ++ (s.name ++ "Repository.ts")
    rw [hway, String.append_assoc]
  | serviceModel | hookModel => rfl
  | hookService =>
    have hway : "../services/" = "../services" ++ "/" := rfl
    change "../services/" ++ s.name ++ "Service" = "../services" ++ "/" ++ (s.name ++ "Service")
    rw [hway, String.append_assoc]
  | demoHook =>
    have hway : "../../../hooks/use" = "../../../hooks" ++ "/" ++ "use" := rfl
    change "../../../hooks/use" ++ s.name ++ "s" =
      "../../../hooks" ++ "/" ++ ("use" ++ s.name ++ "s")
    simp only [hway, String.append_assoc]

theorem path_imported (l : Layout) (timestamp : String) (s : Schema) (i : Import) :
    l.path timestamp s.name s.table i.imported = (i.there l s).child (i.given l s) := by
  cases i <;> rfl

/-- The names have no slash, and endings neither. -/
structure Plain (l : Layout) (s : Schema) : Prop where
  name : '/' ∉ s.name.toList
  table : '/' ∉ s.table.toList
  sourceEnding : '/' ∉ l.sourceEnding.toList
  componentEnding : '/' ∉ l.componentEnding.toList

theorem way_plain (i : Import) : i.way.toList.head? ≠ some '/' ∧ i.way ≠ "" := by
  cases i <;> decide

variable {l : Layout} {s : Schema}

theorem Plain.exists_path_importer (h : Plain l s) (timestamp : String) (i : Import) :
    ∃ file, Path.IsName file ∧
      l.path timestamp s.name s.table i.importer = (i.home l s).child file := by
  have hfixed (t : String) (ht : Path.IsName t := by decide) : Path.IsName t := ht
  cases i with
  | endpointValidation | endpointRepository =>
    exact ⟨_, (hfixed "index.").append h.sourceEnding, rfl⟩
  | serviceModel =>
    exact ⟨_, ((hfixed "Service.").prepend h.name).append h.sourceEnding, rfl⟩
  | hookService | hookModel =>
    have huse := ((hfixed "use").append h.name).append (t := "s.") (by decide)
    exact ⟨_, huse.append h.sourceEnding, rfl⟩
  | demoHook =>
    exact ⟨_, ((hfixed "sDemo.").prepend h.name).append h.componentEnding, rfl⟩

theorem Plain.isName_written (h : Plain l s) {i : Import}
    (hmodel : i.imported = .model → Path.IsName s.name) : Path.IsName (i.written s) := by
  have hfixed (t : String) (ht : Path.IsName t := by decide) : Path.IsName t := ht
  cases i with
  | endpointValidation => exact hfixed "schema.ts"
  | endpointRepository => exact (hfixed "Repository.ts").prepend h.name
  | serviceModel | hookModel => exact hmodel rfl
  | hookService => exact (hfixed "Service").prepend h.name
  | demoHook => exact ((hfixed "use").append h.name).append (t := "s") (by decide)

theorem Plain.isName_given (h : Plain l s) {i : Import}
    (hmodel : i.imported = .model → Path.IsName s.name) : Path.IsName (i.given l s) := by
  have hfixed (t : String) (ht : Path.IsName t := by decide) : Path.IsName t := ht
  cases i with
  | endpointValidation => exact (hfixed "schema.").append h.sourceEnding
  | endpointRepository => exact ((hfixed "Repository.").prepend h.name).append h.sourceEnding
  | serviceModel | hookModel =>
    exact ((hmodel rfl).append (t := ".") (by decide)).append h.sourceEnding
  | hookService => exact ((hfixed "Service.").prepend h.name).append h.sourceEnding
  | demoHook =>
    exact (((hfixed "use").append h.name).append (t := "s.") (by decide)).append h.sourceEnding

/-- The name under which an import looks for its file. -/
def sought (l : Layout) (s : Schema) (i : Import) : String :=
  if i.hasEnding then i.written s else i.written s ++ "." ++ l.sourceEnding

theorem sought_eq_iff (i : Import) :
    i.sought l s = i.given l s ↔ (i.hasEnding = true → l.sourceEnding = "ts") := by
  cases i with
  | endpointValidation =>
    change "schema." ++ "ts" = "schema." ++ l.sourceEnding ↔ _
    rw [String.append_right_inj]
    simp [hasEnding, importer, eq_comm]
  | endpointRepository =>
    change s.name ++ ("Repository." ++ "ts") = s.name ++ "Repository." ++ l.sourceEnding ↔ _
    rw [String.append_assoc, String.append_right_inj, String.append_right_inj]
    simp [hasEnding, importer, eq_comm]
  | serviceModel | hookModel => simp [sought, written, given, hasEnding, importer, toString]
  | hookService =>
    change s.name ++ "Service" ++ "." ++ l.sourceEnding =
      s.name ++ ("Service" ++ ".") ++ l.sourceEnding ↔ _
    simp [hasEnding, importer, String.append_assoc]
  | demoHook =>
    change "use" ++ s.name ++ "s" ++ "." ++ l.sourceEnding =
      "use" ++ s.name ++ ("s" ++ ".") ++ l.sourceEnding ↔ _
    simp [hasEnding, importer, String.append_assoc]

/-- An import leads into the directory that it names. -/
theorem Plain.place_eq (h : Plain l s) {i : Import}
    (hmodel : i.imported = .model → Path.IsName s.name) (root : Path) (timestamp : String) :
    i.place root l timestamp s =
      (root.join ((i.home l s).child i.way)).location ++ [i.sought l s] := by
  obtain ⟨file, hfile, hpath⟩ := h.exists_path_importer timestamp i
  have hplace : ((root.join (l.path timestamp s.name s.table i.importer)).parent.child
      (i.specifier s)).location =
      (root.join ((i.home l s).child i.way)).location ++ [i.written s] := by
    rw [hpath, Path.join_child, Path.parent_child _ hfile, specifier_eq,
      Path.child_append_slash _ i.way_plain.1 i.way_plain.2 (h.isName_written hmodel),
      Path.location_child _ (h.isName_written hmodel), ← Path.join_child]
  rw [place, sought, hplace]
  split
  · rfl
  · rw [completed, List.dropLast_concat, List.getLastD_concat]

theorem Plain.resolves_iff_meet (h : Plain l s) {i : Import}
    (hmodel : i.imported = .model → Path.IsName s.name) (root : Path) (timestamp : String) :
    i.Resolves root l timestamp s ↔
      root.Meet ((i.home l s).child i.way) (i.there l s) ∧
        (i.hasEnding = true → l.sourceEnding = "ts") := by
  have hgiven := Path.location_child (root.join (i.there l s)) (h.isName_given hmodel)
  rw [Resolves, h.place_eq hmodel, path_imported,
    Path.join_child root (i.there l s), hgiven, ← sought_eq_iff (s := s) i]
  constructor
  · intro heq
    obtain ⟨hplace, hname⟩ := List.append_inj' heq rfl
    exact ⟨hplace, List.singleton_inj.1 hname⟩
  · rintro ⟨hplace, hname⟩
    rw [hplace, hname]

theorem Plain.resolves_iff_fits (h : Plain l s) {i : Import}
    (hmodel : i.imported = .model → Path.IsName s.name) (root : Path) (timestamp : String) :
    i.Resolves root l timestamp s ↔ i.Fits root l s := by
  rw [h.resolves_iff_meet hmodel]
  cases i with
  | endpointValidation =>
    have hsame : there l s endpointValidation = home l s endpointValidation := rfl
    have hhere : root.Meet ((home l s endpointValidation).child ".")
        (there l s endpointValidation) := by
      rw [Path.Meet, hsame, Path.join_child, Path.location_child_of_relative _ [] rfl,
        List.foldl_nil]
    exact (and_iff_right hhere).trans (forall_prop_of_true rfl)
  | endpointRepository =>
    have hcrud : Path.IsName (s.table ++ "-crud") :=
      Path.IsName.prepend (t := "-crud") (by decide) h.table
    have hhome : (root.join (home l s endpointRepository)).location =
        (root.join (Path.ofString l.functions)).location ++ [s.table ++ "-crud"] := by
      change (root.join ((Path.ofString l.functions).child (s.table ++ "-crud"))).location = _
      rw [Path.join_child, Path.location_child _ hcrud]
    have hback : (root.join
        ((home l s endpointRepository).child "../_shared/repositories")).location =
        (root.join ((Path.ofString l.functions).child "_shared/repositories")).location := by
      rw [Path.join_child, Path.join_child,
        Path.location_child_of_relative _ ["..", "_shared", "repositories"] rfl,
        Path.location_child_of_relative _ ["_shared", "repositories"] rfl, hhome]
      simp [onward]
    rw [Path.Meet, way, hback]
    exact and_congr_right fun _ => forall_prop_of_true rfl
  | serviceModel | hookService | hookModel | demoHook =>
    exact and_iff_left fun hending => absurd hending (by decide)

end Import

/-! ## The standard layout -/

namespace Path

theorem meet_iff_of_relative (root : Path) (xs ys : List String) :
    root.Meet ⟨.relative, xs⟩ ⟨.relative, ys⟩ ↔
      xs.foldl onward root.location = ys.foldl onward root.location := by
  rw [Meet, join, if_pos rfl, join, if_pos rfl, location, location, located, located,
    List.foldl_append, List.foldl_append]
  rfl

/-- A step back from a directory leads to those beside it. -/
theorem meet_beside (root : Path) (names : List String) (first second : String)
    (h : first ≠ "..") :
    root.Meet ⟨.relative, names ++ [first, "..", second]⟩ ⟨.relative, names ++ [second]⟩ := by
  rw [meet_iff_of_relative]
  simp [onward, h]

end Path

namespace Import

variable {s : Schema}

theorem plain_standard (hname : '/' ∉ s.name.toList) (htable : '/' ∉ s.table.toList) :
    Plain .standard s :=
  ⟨hname, htable, by decide, by decide⟩

/-- In the standard layout, the demo looks for the hook from below the directory of its table. -/
theorem demoHook_fits_iff (root : Path) (s : Schema) {names : List String}
    (h : Path.ofString s.table = ⟨.relative, names⟩) :
    Fits root .standard s .demoHook ↔
      (["packages", "app-frontend", "src", "components", "features"] ++ names ++
        ["..", "..", "..", "hooks"]).foldl onward root.location =
      ["packages", "app-frontend", "src", "hooks"].foldl onward root.location := by
  have hhooks : ((Path.ofString Layout.standard.features).child s.table).child "../../../hooks" =
      ⟨.relative, ["packages", "app-frontend", "src", "components", "features"] ++ names ++
        ["..", "..", "..", "hooks"]⟩ := by
    have hfeatures : (Path.ofString Layout.standard.features).child s.table = ⟨.relative,
        ["packages", "app-frontend", "src", "components", "features"] ++ names⟩ := by
      rw [Path.child, h]
      rfl
    rw [hfeatures]
    rfl
  rw [Fits, hhooks, ← Path.meet_iff_of_relative]
  rfl

theorem fits_standard (root : Path) (htable : Path.IsName s.table) (i : Import) :
    i.Fits root .standard s := by
  have hbeside := Path.meet_beside root ["packages", "app-frontend", "src"]
  cases i with
  | endpointValidation => rfl
  | endpointRepository => exact ⟨rfl, rfl⟩
  | serviceModel => exact hbeside "services" "models" (by decide)
  | hookModel => exact hbeside "hooks" "models" (by decide)
  | hookService => exact hbeside "hooks" "services" (by decide)
  | demoHook =>
    rw [demoHook_fits_iff root s (Path.ofString_of_isName htable)]
    simp [onward, htable.dotdot]

theorem demoHook_misfits (root : Path) (hslash : '/' ∉ s.table.toList)
    (htable : ¬ Path.IsName s.table) : ¬ Fits root .standard s .demoHook := by
  obtain ⟨names, hshort, hspelled⟩ := Path.ofString_of_not_isName hslash htable
  rw [demoHook_fits_iff root s hspelled]
  intro hplace
  have hlength := congrArg List.length hplace
  rcases hshort with rfl | rfl
  all_goals simp [onward] at hlength

/-- Where the entity has no name for a file, the import of its model leads to a directory. -/
theorem serviceModel_misleads (root : Path) (timestamp : String) (h : Plain .standard s)
    (hname : ¬ Path.IsName s.name) : ¬ Resolves root .standard timestamp s .serviceModel := by
  obtain ⟨file, hfile, hpath⟩ := h.exists_path_importer timestamp .serviceModel
  obtain ⟨names, hshort, hspelled⟩ := Path.ofString_of_not_isName h.name hname
  have hspecifier : Path.ofString (specifier s .serviceModel) =
      ⟨.relative, ["..", "models"] ++ names⟩ := by
    have hway := way_plain .serviceModel
    rw [specifier_eq, Path.ofString_append_slash hway.1 hway.2, written, hspelled]
    rfl
  have hservices := Path.location_child_of_relative root
    ["packages", "app-frontend", "src", "services"]
    (show Path.ofString Layout.standard.services = _ from rfl)
  have hmodels := Path.location_child_of_relative root
    ["packages", "app-frontend", "src", "models"]
    (show Path.ofString Layout.standard.models = _ from rfl)
  have hgiven : Path.IsName (s.name ++ "." ++ "ts") :=
    Path.IsName.prepend (t := "ts") (by decide) (by simp [h.name])
  have hmodel := Path.location_child (root.child Layout.standard.models) hgiven
  have hfollowed :=
    Path.location_child_of_relative (root.child Layout.standard.services) _ hspecifier
  -- The import leaves out the file, so that the two places differ in length.
  intro hresolves
  have hlength := congrArg List.length hresolves
  rw [place, hpath, Path.join_child, Path.parent_child _ hfile, path_imported,
    Path.join_child] at hlength
  change List.length (completed _ ((root.child Layout.standard.services).child _).location) =
    ((root.child Layout.standard.models).child (s.name ++ "." ++ "ts")).location.length at hlength
  rw [hfollowed, hmodel, hservices, hmodels] at hlength
  rcases hshort with rfl | rfl
  all_goals simp [completed, onward] at hlength

end Import

/-! ## All imports -/

/-- Where the imports between the artifacts of a schema lead. -/
structure ImportsLead (root : Path) (l : Layout) (timestamp : String) (s : Schema) : Prop where
  shown : ∀ i : Import, ∃ lines, i.importer.text s = unlines lines ∧
    Mentions lines ("from '" ++ i.specifier s ++ "'")
  resolves_iff : ∀ i : Import, (i.imported = .model → Path.IsName s.name) →
    (i.Resolves root l timestamp s ↔ i.Fits root l s)
  standard : (∀ i : Import, i.Resolves root .standard timestamp s) ↔
    Path.IsName s.name ∧ Path.IsName s.table

/-- Each import leads to the artifact that it is of just if the layout has what it takes for
granted. The standard layout has, for all entities and tables that are named like files. -/
theorem imports_lead {l : Layout} {s : Schema} (h : Import.Plain l s) (root : Path)
    (timestamp : String) : ImportsLead root l timestamp s where
  shown i := by
    obtain ⟨lines, htext, hheader⟩ := i.headerLines_subset s
    exact ⟨lines, htext, (i.mentions_specifier s).mono hheader⟩
  resolves_iff _ hmodel := h.resolves_iff_fits hmodel root timestamp
  standard := by
    have hplain := Import.plain_standard h.name h.table
    constructor
    · intro hall
      have hname : Path.IsName s.name := by
        by_contra hname
        exact Import.serviceModel_misleads root timestamp hplain hname (hall .serviceModel)
      have hdemo := (hplain.resolves_iff_fits (fun _ => hname) root timestamp).1 (hall .demoHook)
      refine ⟨hname, ?_⟩
      by_contra htable
      exact Import.demoHook_misfits root h.table htable hdemo
    · rintro ⟨hname, htable⟩ i
      exact (hplain.resolves_iff_fits (fun _ => hname) root timestamp).2
        (Import.fits_standard root htable i)

theorem article_imports_lead : Import.Plain .standard .article ∧
    ImportsLead ⟨.absolute, ["work"]⟩ .standard "20250102030405" .article ∧
    ∀ i : Import, i.Resolves ⟨.absolute, ["work"]⟩ .standard "20250102030405" .article := by
  have hplain : Import.Plain .standard .article := by
    constructor <;> decide
  have hlead := imports_lead hplain ⟨.absolute, ["work"]⟩ "20250102030405"
  exact ⟨hplain, hlead, hlead.standard.2 (by decide)⟩

/-! ## Layouts and names that do not fit -/

instance (root : Path) (l : Layout) (timestamp : String) (s : Schema) (i : Import) :
    Decidable (i.Resolves root l timestamp s) := inferInstanceAs (Decidable (_ = _))

/-- A layout with the models in another directory. -/
def Layout.entities : Layout where
  models := "packages/app-frontend/src/entities"

/-- A layout in which the files are put into directories of their own. -/
def Layout.nested : Layout where
  sourceEnding := "d/ts"

/-- A layout in which the components are. -/
def Layout.nestedComponents : Layout where
  componentEnding := "d/tsx"

/-- Such layouts are accepted; and a single dot names no model, and no directory for a demo. -/
theorem entities_mislead :
    Layout.read (.map [(.text "frontend_models_dir",
      .text "packages/app-frontend/src/entities")]) = .valid .entities ∧
    ¬ Import.Resolves ⟨.absolute, ["work"]⟩ .entities "1" .article .serviceModel ∧
    Layout.read (.map [(.text "source_ext", .text "d/ts")]) = .valid .nested ∧
    ¬ Import.Resolves ⟨.absolute, ["work"]⟩ .nested "1" .article .serviceModel ∧
    Layout.read (.map [(.text "component_ext", .text "d/tsx")]) = .valid .nestedComponents ∧
    ¬ Import.Resolves ⟨.absolute, ["work"]⟩ .nestedComponents "1" .article .demoHook ∧
    ¬ Import.Resolves ⟨.absolute, ["work"]⟩ .standard "1" { Schema.article with name := "." }
      .serviceModel ∧
    ¬ Import.Resolves ⟨.absolute, ["work"]⟩ .standard "1" { Schema.article with table := "." }
      .demoHook :=
  ⟨rfl, by decide +kernel, rfl, by decide +kernel, rfl, by decide +kernel, by decide +kernel,
    by decide +kernel⟩

end Scaffold
