/-!
# The command line

What can be said on it: settings, which begin with a dash, and one kind of operand for each command.
-/
namespace Scaffold.Command

inductive Setting
  | help
  | version
  | verbose
  | quiet
  | root
  | config
  | dryRun
deriving DecidableEq, Repr

namespace Setting

/-- The spellings, in the order in which messages name them. -/
def spellings : Setting → List String
  | .help => ["-h", "--help"]
  | .version => ["--version"]
  | .verbose => ["-v", "--verbose"]
  | .quiet => ["-q", "--quiet"]
  | .root => ["--root"]
  | .config => ["--config"]
  | .dryRun => ["--dry-run"]

def takesValue : Setting → Bool
  | .root => true
  | .config => true
  | _ => false

def name (s : Setting) : String := "/".intercalate s.spellings

end Setting

inductive Verb
  | generate
  | batch
  | validate
deriving DecidableEq, Repr

namespace Verb

def all : List Verb := [.generate, .batch, .validate]

def name : Verb → String
  | .generate => "generate"
  | .batch => "batch"
  | .validate => "validate"

def ofName? (name : String) : Option Verb := all.find? fun v => v.name = name

end Verb

/-- The words besides settings that a grammar wants. -/
inductive Operand
  /-- A command with all that follows it. -/
  | command
  | schema
  /-- One schema or more, without a setting between them. -/
  | schemas
deriving DecidableEq, Repr

def Operand.name : Operand → String
  | .command => "COMMAND"
  | .schema => "SCHEMA"
  | .schemas => "SCHEMA"

structure Grammar where
  program : String
  settings : List Setting
  operand : Operand
  usage : List String
  description : List String
deriving DecidableEq, Repr

namespace Grammar

def spellings (g : Grammar) : List (String × Setting) :=
  g.settings.flatMap fun s => s.spellings.map fun spelling => (spelling, s)

def usageText (g : Grammar) : String := String.join (g.usage.map (· ++ "\n"))

def helpText (g : Grammar) : String :=
  g.usageText ++ "\n" ++ String.join (g.description.map (· ++ "\n"))

def whole : Grammar where
  program := "apiforge"
  settings := [.help, .version, .verbose, .quiet]
  operand := .command
  usage := ["usage: apiforge [-h] [--version] [-v | -q] COMMAND ..."]
  description := [
    "APIForge — schema-driven full-stack API generator.",
    "",
    "Turns one entity schema (JSON/YAML) into a SQL migration, Zod schema, Edge Function "
      ++ "repository and endpoint, frontend model, service and hook, admin page, demo component "
      ++ "and CLI client.",
    "",
    "positional arguments:",
    "  COMMAND",
    "    generate     Generate all artifacts for one schema.",
    "    batch        Generate artifacts for several schemas.",
    "    validate     Parse schemas without generating.",
    "",
    "options:",
    "  -h, --help     show this help message and exit",
    "  --version      show program's version number and exit",
    "  -v, --verbose  Increase log verbosity (-v INFO, -vv DEBUG).",
    "  -q, --quiet    Suppress all log output.",
    "",
    "Examples:",
    "  apiforge generate schemas/article.yaml",
    "  apiforge -v batch schemas/*.yaml --root ../app",
    "  apiforge validate schemas/*.yaml"]

/-- Help on the settings of a run that writes. -/
def writingHelp : List String := [
  "",
  "options:",
  "  -h, --help     show this help message and exit",
  "  --root DIR     Project root the artifact paths are relative to (default:",
  "                 current directory).",
  "  --config FILE  Generator config file (YAML/JSON) overriding the output",
  "                 layout.",
  "  --dry-run      Render everything but don't write files to disk."]

def generate : Grammar where
  program := "apiforge generate"
  settings := [.help, .root, .config, .dryRun]
  operand := .schema
  usage := ["usage: apiforge generate [-h] [--root DIR] [--config FILE] [--dry-run] SCHEMA"]
  description := [
    "positional arguments:",
    "  SCHEMA         Schema file (JSON or YAML)."] ++ writingHelp

def batch : Grammar where
  program := "apiforge batch"
  settings := [.help, .root, .config, .dryRun]
  operand := .schemas
  usage := [
    "usage: apiforge batch [-h] [--root DIR] [--config FILE] [--dry-run]",
    "                      SCHEMA [SCHEMA ...]"]
  description := [
    "positional arguments:",
    "  SCHEMA         Schema files."] ++ writingHelp

def validate : Grammar where
  program := "apiforge validate"
  settings := [.help]
  operand := .schemas
  usage := ["usage: apiforge validate [-h] SCHEMA [SCHEMA ...]"]
  description := [
    "positional arguments:",
    "  SCHEMA      Schema files.",
    "",
    "options:",
    "  -h, --help  show this help message and exit"]

def ofVerb : Verb → Grammar
  | .generate => generate
  | .batch => batch
  | .validate => validate

end Grammar
end Scaffold.Command
