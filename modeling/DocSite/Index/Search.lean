/-
The search index.

Every module, aggregate, method, enum and free function has an entry that links to the page of its
module. The script that holds the entries defines one constant.
-/
import DocSite.Doc.Basic
import DocSite.Json.Writer

namespace DocSite

/-- The file name of a module's page: points and slashes of both kinds become underscores. -/
def pageName (moduleName : Text) : Text :=
  (moduleName.map fun character =>
    if character = '.' ∨ character = '/' ∨ character = '\\' then '_' else character) ++
      ".html".toList

def anchorLink (page anchor : Text) : Text :=
  page ++ '#' :: anchor

def methodAnchor (aggregate method : Text) : Text :=
  aggregate ++ '.' :: method

structure SearchEntry where
  name : Text
  kind : Text
  /-- The name of the aggregate that a method belongs to. -/
  parent : Option Text := none
  link : Text
  /-- The name of the module that declares the item; absent for modules themselves. -/
  module : Option Text := none
  deriving DecidableEq, Repr

namespace SearchEntry

def ofAggregate (moduleName : Text) (aggregate : AggregateDoc) : List SearchEntry :=
  let page := pageName moduleName
  { name := aggregate.name, kind := aggregate.kind.keyword
    link := anchorLink page aggregate.name, module := some moduleName } ::
    aggregate.methods.map fun method =>
      { name := method.name, kind := "method".toList, parent := some aggregate.name
        link := anchorLink page (methodAnchor aggregate.name method.name)
        module := some moduleName }

def ofItem (moduleName kind name : Text) : SearchEntry :=
  { name := name, kind := kind, link := anchorLink (pageName moduleName) name
    module := some moduleName }

def ofModule (module : ModuleDoc) : List SearchEntry :=
  [{ name := module.name, kind := "module".toList, link := pageName module.name }] ++
    module.aggregates.flatMap (ofAggregate module.name) ++
    module.enums.map (fun enum => ofItem module.name "enum".toList enum.name) ++
    module.functions.map (fun function => ofItem module.name "function".toList function.name)

def toRecord (entry : SearchEntry) : Json :=
  let given (key : String) (value : Option Text) : List (JsonKey × Json) :=
    (value.map fun text => (.text key.toList, Json.string text)).toList
  .object
    ([(.text "name".toList, Json.string entry.name), (.text "type".toList, Json.string entry.kind)] ++
      given "parent" entry.parent ++ [(.text "link".toList, Json.string entry.link)] ++
      given "module" entry.module)

end SearchEntry

def searchEntries (modules : List ModuleDoc) : List SearchEntry :=
  modules.flatMap SearchEntry.ofModule

def searchIndex (modules : List ModuleDoc) : Json :=
  .array ((searchEntries modules).map SearchEntry.toRecord)

def scriptOf (index : Json) : Text :=
  "const searchIndex = ".toList ++ index.compact ++ [';']

def searchScript (modules : List ModuleDoc) : Text :=
  scriptOf (searchIndex modules)

end DocSite
