import Scaffold.Artifact.Rendering
import Scaffold.Proofs.BackendTemplates
import Scaffold.Proofs.FrontendTemplates
import Scaffold.Proofs.PageTemplates

/-!
# What is rendered

Each of the ten templates that are shipped writes the text of its kind, for every schema: all that
it names is in its view. So rendering with these templates succeeds.
-/
namespace Scaffold.Artifact

/-- A shipped template finds all that it names, and writes the text of its kind. -/
theorem Kind.run_nodes (kind : Kind) (s : Schema) :
    Template.run (kind.scope s) kind.nodes = .ok (kind.text s) := by
  cases kind with
  | migration => exact Migration.writes s
  | validation => exact Validation.writes s
  | repository => exact Repository.writes s
  | endpoint => exact Endpoint.writes s
  | model => exact Model.writes s
  | service => exact Service.writes s
  | hook => exact Hook.writes s
  | adminPage => exact AdminPage.writes s
  | demo => exact Demo.writes s
  | client => exact Client.writes s

theorem render_shipped (kind : Kind) (s : Schema) :
    render .shipped kind ⟨kind, s⟩ = .ok (kind.text s) := by
  unfold render Templates.fill
  simp only [ne_eq, not_true, if_false, View.scope, kind.run_nodes]
  rfl

end Scaffold.Artifact
