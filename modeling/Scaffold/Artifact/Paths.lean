import Scaffold.Artifact.Kind
import Scaffold.Config
import Scaffold.Path

/-!
# Where the artifacts go

Each kind has a directory in the layout and a file name made from the names of the entity and of
its table. The name of a migration begins with a time, so that migrations sort in order.
-/
namespace Scaffold

/-- The path of an artifact, relative to the root of the project. -/
def Layout.path (l : Layout) (timestamp entity table : String) (kind : Artifact.Kind) : Path :=
  match kind with
  | .migration =>
    (Path.ofString l.migrations).child s!"{timestamp}_create_{table}_table.{l.migrationEnding}"
  | .validation =>
    ((Path.ofString l.functions).child s!"{table}-crud").child s!"schema.{l.sourceEnding}"
  | .repository =>
    (Path.ofString l.repositories).child s!"{entity}Repository.{l.sourceEnding}"
  | .endpoint =>
    ((Path.ofString l.functions).child s!"{table}-crud").child s!"index.{l.sourceEnding}"
  | .model => (Path.ofString l.models).child s!"{entity}.{l.sourceEnding}"
  | .service => (Path.ofString l.services).child s!"{entity}Service.{l.sourceEnding}"
  | .hook => (Path.ofString l.hooks).child s!"use{entity}s.{l.sourceEnding}"
  | .adminPage => (Path.ofString l.adminPages).child s!"{entity}AdminPage.{l.componentEnding}"
  | .demo =>
    ((Path.ofString l.features).child table).child s!"{entity}sDemo.{l.componentEnding}"
  | .client => (Path.ofString l.clients).child s!"{entity}sClient.{l.sourceEnding}"

end Scaffold
