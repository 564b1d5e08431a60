import IdentityClaims.Configuration.Environment
import IdentityClaims.Configuration.Files
import IdentityClaims.Configuration.Tree
import IdentityClaims.Resolver

/-!
# Loading of a configuration

The settings of a file and, over them, those of the environment make one tree. A mapping is
decoded from its member `mapping`, and a resolver is built on that. Either there is no tree, or
it cannot be decoded; the three ways of loading (`load_config`, `load_identity_config` and `init`)
fail alike up to there.

How the tree is built is a parameter of all three: where files are found, in which formats they
are written and how settings are laid over one another is up to a builder. The one for the files
below the working directory is among them.
-/

namespace IdentityClaims

/-- Why nothing is loaded. -/
inductive LoadError where
  | notBuilt | notDecoded
  deriving DecidableEq, Repr

namespace LoadError

def context : LoadError → String
  | .notBuilt => "Failed to build config"
  | .notDecoded => "Failed to deserialize config"

/-- The text of an error, up to where the words of its cause begin. -/
def text (error : LoadError) : String :=
  "Config error" ++ contextSuffix (some error.context) ++ ": "

end LoadError

namespace Mapping

def settingPairs? : List (String × Setting) → Option (List (String × String))
  | [] => some []
  | (name, setting) :: rest => do
    return (name, ← setting.asText?) :: (← settingPairs? rest)

/-- The mapping that a tree configures; other members of the tree do not matter. -/
def ofTree? : Setting → Option Mapping
  | .table members =>
    match Table.get? members "mapping" with
    | none => some empty
    | some (.table entries) => (settingPairs? entries).map ofPairs
    | some _ => none
  | _ => none

end Mapping

namespace Configuration

/-- Builds the tree of all settings from files, the path of one of them and the environment. -/
abbrev Builder (Storage : Type) := Storage → String → Environment → Option Setting

/-- What a builder consists of that reads a file and the environment and lays one over the other. -/
structure Backend (Storage : Type) where
  /-- The settings in the file that a path stands for. -/
  file? : Storage → String → Option (List (String × Setting))
  variables? : Environment → Option (List (String × Setting))
  /-- The tree of settings, of which the later ones go over the earlier ones. -/
  merge? : List (String × Setting) → Option Setting

def Backend.build {Storage : Type} (backend : Backend Storage) : Builder Storage :=
  fun files path environment => do
    let file ← backend.file? files path
    let overrides ← backend.variables? environment
    backend.merge? (file ++ overrides)

/-- The backend for the files below the working directory. -/
def Files.backend : Backend Files where
  file? := Files.settings?
  variables? environment := some environment.settings
  merge? settings := some (setAll (.table []) settings)

end Configuration

/-- What a configuration is loaded from. -/
structure Sources (Storage : Type) where
  files : Storage
  /-- The path that was asked for, if any was. -/
  path? : Option String
  environment : Configuration.Environment

namespace Sources

variable {Storage : Type} (build : Configuration.Builder Storage)

/-- The path of the file; without one it is `identity`. -/
def path (sources : Sources Storage) : String :=
  sources.path?.getD "identity"

def tree? (sources : Sources Storage) : Option Setting :=
  build sources.files sources.path sources.environment

/-- Loads the tree itself (`load_config`). -/
def loadTree (sources : Sources Storage) : Except LoadError Setting :=
  match sources.tree? build with
  | some tree => .ok tree
  | none => .error .notBuilt

/-- Loads the mapping (`load_identity_config`). -/
def loadMapping (sources : Sources Storage) : Except LoadError Mapping := do
  match Mapping.ofTree? (← sources.loadTree build) with
  | some mapping => return mapping
  | none => throw .notDecoded

/-- Loads the mapping and builds a resolver on it (`init`). -/
def loadResolver (sources : Sources Storage) : Except LoadError Resolver :=
  (sources.loadMapping build).map Resolver.mk

/-! ## Records -/

def loadTreeLog (sources : Sources Storage) : List Record :=
  [.loading sources.path]

def loadMappingLog (sources : Sources Storage) : List Record :=
  sources.loadTreeLog ++
    match sources.loadMapping build with
    | .ok mapping => [.mappingLoaded mapping.size]
    | .error _ => []

def loadResolverLog (sources : Sources Storage) : List Record :=
  sources.loadMappingLog build ++
    match sources.loadResolver build with
    | .ok _ => [.resolverInitialized]
    | .error _ => []

end Sources

/-- Files below the working directory with a path and an environment. -/
abbrev Configuration := Sources Configuration.Files

namespace Configuration

def loadTree (sources : Configuration) : Except LoadError Setting :=
  Sources.loadTree Files.backend.build sources

def loadMapping (sources : Configuration) : Except LoadError Mapping :=
  Sources.loadMapping Files.backend.build sources

def loadResolver (sources : Configuration) : Except LoadError Resolver :=
  Sources.loadResolver Files.backend.build sources

def loadTreeLog (sources : Configuration) : List Record :=
  Sources.loadTreeLog sources

def loadMappingLog (sources : Configuration) : List Record :=
  Sources.loadMappingLog Files.backend.build sources

def loadResolverLog (sources : Configuration) : List Record :=
  Sources.loadResolverLog Files.backend.build sources

end Configuration

end IdentityClaims
