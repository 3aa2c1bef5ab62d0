import Scaffold.Checked.Record
import Scaffold.Schema.Writing

/-!
# Configuration

Where each kind of file goes, what its name ends in, and how a run behaves. A document may leave out
any part; an ending may be given with its dot.
-/
namespace Scaffold

structure Layout where
  migrations : String := "supabase/migrations"
  functions : String := "supabase/functions"
  repositories : String := "supabase/functions/_shared/repositories"
  models : String := "packages/app-frontend/src/models"
  services : String := "packages/app-frontend/src/services"
  hooks : String := "packages/app-frontend/src/hooks"
  adminPages : String := "packages/app-frontend/src/pages/admin"
  features : String := "packages/app-frontend/src/components/features"
  clients : String := "packages/app-cli/clients"
  migrationEnding : String := "sql"
  sourceEnding : String := "ts"
  componentEnding : String := "tsx"
deriving DecidableEq, Repr, Inhabited

structure Config where
  layout : Layout := {}
  timestampFormat : String := "%Y%m%d%H%M%S"
  overwrite : Bool := true
deriving DecidableEq, Repr, Inhabited

namespace Layout

def migrationsKey : Label := .same "migrations_dir"
def functionsKey : Label := .same "functions_dir"
def repositoriesKey : Label := .same "shared_repositories_dir"
def modelsKey : Label := .same "frontend_models_dir"
def servicesKey : Label := .same "frontend_services_dir"
def hooksKey : Label := .same "frontend_hooks_dir"
def adminPagesKey : Label := .same "frontend_admin_dir"
def featuresKey : Label := .same "frontend_features_dir"
def clientsKey : Label := .same "cli_clients_dir"
def migrationEndingKey : Label := .same "migration_ext"
def sourceEndingKey : Label := .same "source_ext"
def componentEndingKey : Label := .same "component_ext"

def keys : List Label :=
  [migrationsKey, functionsKey, repositoriesKey, modelsKey, servicesKey, hooksKey, adminPagesKey,
    featuresKey, clientsKey, migrationEndingKey, sourceEndingKey, componentEndingKey]

def withoutDots (s : String) : String := String.ofList (s.toList.dropWhile (· = '.'))

def readEnding : Reading String := fun d => (Reading.nonEmptyText d).map withoutDots

def standard : Layout := {}

def read : Reading Layout :=
  Reading.record "OutputLayout" keys fun r =>
    Layout.mk
      <$> migrationsKey.orElse standard.migrations Reading.text r
      <*> functionsKey.orElse standard.functions Reading.text r
      <*> repositoriesKey.orElse standard.repositories Reading.text r
      <*> modelsKey.orElse standard.models Reading.text r
      <*> servicesKey.orElse standard.services Reading.text r
      <*> hooksKey.orElse standard.hooks Reading.text r
      <*> adminPagesKey.orElse standard.adminPages Reading.text r
      <*> featuresKey.orElse standard.features Reading.text r
      <*> clientsKey.orElse standard.clients Reading.text r
      <*> migrationEndingKey.orElse standard.migrationEnding readEnding r
      <*> sourceEndingKey.orElse standard.sourceEnding readEnding r
      <*> componentEndingKey.orElse standard.componentEnding readEnding r

def toDocument (l : Layout) : Document :=
  Document.record [
    (migrationsKey.name, .text l.migrations),
    (functionsKey.name, .text l.functions),
    (repositoriesKey.name, .text l.repositories),
    (modelsKey.name, .text l.models),
    (servicesKey.name, .text l.services),
    (hooksKey.name, .text l.hooks),
    (adminPagesKey.name, .text l.adminPages),
    (featuresKey.name, .text l.features),
    (clientsKey.name, .text l.clients),
    (migrationEndingKey.name, .text l.migrationEnding),
    (sourceEndingKey.name, .text l.sourceEnding),
    (componentEndingKey.name, .text l.componentEnding)]

end Layout

namespace Config

def layoutKey : Label := .same "layout"
def timestampFormatKey : Label := .same "timestamp_format"
def overwriteKey : Label := .same "overwrite_existing"

def keys : List Label := [layoutKey, timestampFormatKey, overwriteKey]

def standard : Config := {}

def read : Reading Config :=
  Reading.record "GeneratorConfig" keys fun r =>
    Config.mk
      <$> layoutKey.orElse standard.layout Layout.read r
      <*> timestampFormatKey.orElse standard.timestampFormat Reading.nonEmptyText r
      <*> overwriteKey.orElse standard.overwrite Reading.truth r

def toDocument (c : Config) : Document :=
  Document.record [
    (layoutKey.name, c.layout.toDocument),
    (timestampFormatKey.name, .text c.timestampFormat),
    (overwriteKey.name, .bool c.overwrite)]

end Config
end Scaffold
