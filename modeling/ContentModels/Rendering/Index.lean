import ContentModels.Path
import ContentModels.Rendering.Model

/-!
# The source text of the index

The index ties the generated files and the hand-authored ones together: it declares a module for
each, and holds the runtime that the models share.

## Main definitions

* `Rendering.freeName` — a module name that is not taken.
* `renderIndex` — the text of the index.
-/

namespace ContentModels

open Text

namespace Rendering

/-- The file name of the index. -/
def indexFileName : String := "_models.generated.rs"

/-- The marker macros, which the index defines to mean nothing. -/
def markerMacros : List String := ["ignore_content_type", "ignore_property", "rename_property"]

/-- The definition of a macro that takes anything and means nothing. -/
def emptyMacro (name : String) : List String := [
  "macro_rules! " ++ name ++ open_,
  "    ($($tokens:tt)*) => \x7b\x7d;",
  close,
  ""]

/-- The type of a published item. -/
def contentType : List String := [
  "    /// A published content item and its property values, keyed by alias.",
  "    #[derive(Clone, Default)]",
  "    pub struct PublishedContent \x7b",
  "        content_type: String,",
  "        values: BTreeMap<String, Arc<dyn Any + Send + Sync>>,",
  "    \x7d"]

/-- The members of a published item. -/
def contentMembers : List String := [
  "    impl PublishedContent \x7b",
  "        pub fn new(content_type: impl Into<String>) -> Self \x7b",
  "            Self \x7b",
  "                content_type: content_type.into(),",
  "                values: BTreeMap::new(),",
  "            \x7d",
  "        \x7d",
  "",
  "        pub fn with_value<T: Any + Send + Sync>(mut self, alias: impl Into<String>, value: T) " ++
    "-> Self \x7b",
  "            self.values.insert(alias.into(), Arc::new(value));",
  "            self",
  "        \x7d",
  "",
  "        pub fn content_type(&self) -> &str \x7b",
  "            &self.content_type",
  "        \x7d",
  "",
  "        /// Value of a property, if set and of type `T`.",
  "        pub fn value<T: Any + Clone>(&self, alias: &str) -> Option<T> \x7b",
  "            self.values",
  "                .get(alias)",
  "                .and_then(|value| value.downcast_ref::<T>())",
  "                .cloned()",
  "        \x7d",
  "    \x7d"]

/-- How a published item is shown. -/
def contentDebug : List String := [
  "    impl fmt::Debug for PublishedContent \x7b",
  "        fn fmt(&self, f: &mut fmt::Formatter<'_>) -> fmt::Result \x7b",
  "            f.debug_struct(\"PublishedContent\")",
  "                .field(\"content_type\", &self.content_type)",
  "                .field(\"properties\", &self.values.keys().collect::<Vec<_>>())",
  "                .finish()",
  "        \x7d",
  "    \x7d"]

/-- The runtime that the models share. -/
def runtimeModule : List String := [
  "/// Minimal runtime shared by every generated model.",
  "pub mod runtime \x7b",
  "    use std::any::Any;",
  "    use std::collections::BTreeMap;",
  "    use std::fmt;",
  "    use std::sync::Arc;",
  ""] ++ contentType ++ [""] ++ contentMembers ++ [""] ++ contentDebug ++ [close]

/-- The name of the runtime's module. -/
def runtimeName : String := "runtime"

/-- The name of the module of a model. -/
def modelModule (className : String) : String := Naming.fileStem className ++ "_generated"

/-- The module of a model, and the model itself. -/
def modelEntry (p : Plan) : List String := [
  "",
  "#[path = " ++ quoted (Naming.generatedFileName p.className) ++ "]",
  "mod " ++ modelModule p.className ++ ";",
  "pub use self::" ++ modelModule p.className ++ "::" ++ p.className ++ ";"]

/-- The names of hand-authored files, in order and each once. -/
def handFileNames (files : List Path) : List String :=
  SortedSet.toList (SortedSet.ofList (files.filterMap Path.fileName?))

/-- The file name without its ending. -/
def stem (fileName : String) : String :=
  let cs := fileName.toList
  if ".rs".toList.isSuffixOf cs then String.ofList (cs.take (cs.length - 3)) else fileName

/-- A name with underscores behind it. -/
def padded (name : String) (count : Nat) : String :=
  name ++ String.ofList (List.replicate count '_')

/-- The name, with as many underscores behind it as it takes to be none of those that are taken. -/
def freeName (taken : List String) (name : String) : String :=
  match ((List.range (taken.length + 1)).map (padded name)).find? fun n => !taken.contains n with
  | some n => n
  | none => name

/-- The names of the modules of hand-authored files. -/
def handModules (taken : List String) : List String → List (String × String)
  | [] => []
  | file :: rest =>
    let name := freeName taken (Naming.moduleName (stem file))
    (file, name) :: handModules (name :: taken) rest

/-- The module of a hand-authored file. -/
def handEntry (entry : String × String) : List String := [
  "",
  "#[path = " ++ quoted entry.1 ++ "]",
  "pub mod " ++ entry.2 ++ ";"]

/-- The names of modules that are not those of hand-authored files. -/
def ownModules (plans : List Plan) : List String :=
  runtimeName :: plans.map fun p => modelModule p.className

/-- The lines of the index. -/
def indexLines (space : String) (plans : List Plan) (handFiles : List Path) : List String :=
  header ++ ["", namespaceLine space, "//!",
    "//! Include it with `#[path = \"<models dir>/_models.generated.rs\"] pub mod models;`.",
    "", "#![allow(dead_code, unused_imports, unused_macros)]", ""] ++
    markerMacros.flatMap emptyMacro ++ runtimeModule ++ plans.flatMap modelEntry ++
    (handModules (ownModules plans) (handFileNames handFiles)).flatMap handEntry

end Rendering

/-- The source text of the index. -/
def renderIndex (space : String) (plans : List Plan) (handFiles : List Path) : String :=
  Rendering.lines (Rendering.indexLines space plans handFiles)

end ContentModels
