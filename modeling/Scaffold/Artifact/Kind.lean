/-!
# Kinds of artifacts

One schema gives ten files. Their order here is the order in which they are made and written.
-/
namespace Scaffold.Artifact

inductive Kind
  | migration
  | validation
  | repository
  | endpoint
  | model
  | service
  | hook
  | adminPage
  | demo
  | client
deriving DecidableEq, Repr

namespace Kind

def all : List Kind :=
  [.migration, .validation, .repository, .endpoint, .model, .service, .hook, .adminPage, .demo,
    .client]

def name : Kind → String
  | .migration => "migration"
  | .validation => "validation_schema"
  | .repository => "repository"
  | .endpoint => "endpoint"
  | .model => "model"
  | .service => "service"
  | .hook => "hook"
  | .adminPage => "admin_page"
  | .demo => "demo_component"
  | .client => "cli_client"

def ofName? (name : String) : Option Kind := all.find? fun k => k.name = name

/-- What the file is, for people. -/
def description : Kind → String
  | .migration => "SQL migration"
  | .validation => "Zod validation schema"
  | .repository => "Edge Function repository"
  | .endpoint => "Edge Function CRUD endpoint"
  | .model => "Frontend model"
  | .service => "Frontend service"
  | .hook => "React Query hook"
  | .adminPage => "Admin UI page"
  | .demo => "Demo UI component"
  | .client => "CLI client"

/-- The name of the template from which the file is made. -/
def template : Kind → String
  | .migration => "migration.sql.j2"
  | .validation => "zod_schema.ts.j2"
  | .repository => "repository_edge.ts.j2"
  | .endpoint => "edge_function.ts.j2"
  | .model => "model.ts.j2"
  | .service => "service.ts.j2"
  | .hook => "hook.ts.j2"
  | .adminPage => "admin_page.tsx.j2"
  | .demo => "demo_component.tsx.j2"
  | .client => "cli_client.ts.j2"

/-- The name of the view of a schema that the template wants. -/
def view : Kind → String
  | .migration => "MigrationContext"
  | .validation => "ValidationSchemaContext"
  | .repository => "RepositoryContext"
  | .endpoint => "EndpointContext"
  | .model => "ModelContext"
  | .service => "ServiceContext"
  | .hook => "HookContext"
  | .adminPage => "AdminPageContext"
  | .demo => "DemoComponentContext"
  | .client => "CLIClientContext"

end Kind
end Scaffold.Artifact
