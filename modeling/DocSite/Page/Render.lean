/-
Pages of modules and the index page.

A module page shows the module's comment and then its aggregates, enums and functions, each with its
anchor, signature and comment. The index page lists the modules.
-/
import DocSite.Index.Search
import DocSite.Page.Comment
import DocSite.Page.Links
import DocSite.Page.Template

namespace DocSite

/-- What all pages of a site share. -/
structure Site where
  projectName : Text
  license : Text
  links : TypeLinks

/-- The name of a project that has none. -/
def defaultProjectName : Text := "Project".toList

def Site.ofModules (modules : List ModuleDoc) (projectName license : Text) : Site :=
  ⟨if projectName.isEmpty then defaultProjectName else projectName, license, typeLinks modules⟩

/-! ### Declarations -/

def docPart (comments : List Text) : Text :=
  if comments.isEmpty then []
  else "<div class=\"doc\">\n".toList ++ formatComment comments ++ "</div>\n".toList

/-- What the class of a private declaration has in addition. -/
def privateClass (isPrivate : Bool) : Text :=
  if isPrivate then " private".toList else []

def returnTypePart (links : TypeLinks) (returnType : Text) : Text :=
  if returnType.isEmpty then []
  else "<span class=\"return-type\">".toList ++ linkify links returnType ++ "</span> ".toList

def signaturePart (links : TypeLinks) (function : FunctionDoc) : Text :=
  "<div class=\"signature\">".toList ++ returnTypePart links function.returnType ++
    "<span class=\"name\">".toList ++ escape function.name ++ "</span>".toList ++
    "<span class=\"params\">(".toList ++
    Text.join ", ".toList (function.parameters.map (linkify links)) ++ ")</span></div>\n".toList

def functionPart (links : TypeLinks) (anchor : Text) (function : FunctionDoc) : Text :=
  "<div id=\"".toList ++ escape anchor ++ "\" class=\"entry function".toList ++
    privateClass function.isPrivate ++ "\">\n".toList ++ signaturePart links function ++
    docPart function.comments ++ "</div>\n".toList

def fieldPart (links : TypeLinks) (field : FieldDoc) : Text :=
  "<div class=\"field".toList ++ privateClass field.isPrivate ++ "\">\n".toList ++
    "<div class=\"declaration\">".toList ++ linkify links field.declaration ++ "</div>\n".toList ++
    docPart field.comments ++ "</div>\n".toList

def group (heading : String) (parts : List Text) : Text :=
  if parts.isEmpty then []
  else "<h4>".toList ++ heading.toList ++ "</h4>\n".toList ++ parts.flatten

/-- An aggregate. Constructors and destructors come before the other methods. -/
def aggregatePart (links : TypeLinks) (aggregate : AggregateDoc) : Text :=
  let methodPart (method : FunctionDoc) : Text :=
    functionPart links (methodAnchor aggregate.name method.name) method
  let constructors := aggregate.methods.filter (·.isConstructor)
  let methods := aggregate.methods.filter fun method => !method.isConstructor
  "<div class=\"entry class\">\n<h3 id=\"".toList ++ escape aggregate.name ++
    "\"><span class=\"kind\">".toList ++ escape aggregate.kind.keyword ++ "</span>".toList ++
    escape aggregate.name ++ "</h3>\n".toList ++ docPart aggregate.comments ++
    group "Fields" (aggregate.fields.map (fieldPart links)) ++
    group "Constructors" (constructors.map methodPart) ++ group "Methods" (methods.map methodPart) ++
    "</div>\n".toList

def valuePart (value : Text) : Text :=
  if value.isEmpty then []
  else " = <span class=\"value\">".toList ++ escape value ++ "</span>".toList

def enumMemberPart (member : EnumMemberDoc) : Text :=
  "<div class=\"declaration\"><span class=\"name\">".toList ++ escape member.name ++ "</span>".toList ++
    valuePart member.value ++ "</div>\n".toList ++ docPart member.comments

def enumPart (enum : EnumDoc) : Text :=
  "<div class=\"entry enum\">\n<h3 id=\"".toList ++ escape enum.name ++
    "\"><span class=\"kind\">enum</span>".toList ++ escape enum.name ++ "</h3>\n".toList ++
    docPart enum.comments ++ group "Members" (enum.members.map enumMemberPart) ++ "</div>\n".toList

/-! ### Pages -/

def moduleDocPart (comments : List Text) : Text :=
  if comments.isEmpty then []
  else "<section class=\"module-doc\">\n".toList ++ formatComment comments ++ "</section>\n".toList

def sectionOf (heading : String) (parts : List Text) : Text :=
  if parts.isEmpty then []
  else
    "<section>\n<h2>".toList ++ heading.toList ++ "</h2>\n".toList ++ parts.flatten ++
      "</section>\n".toList

def moduleContent (links : TypeLinks) (module : ModuleDoc) : Text :=
  moduleDocPart module.comments ++
    sectionOf "Classes" (module.aggregates.map (aggregatePart links)) ++
    sectionOf "Enums" (module.enums.map enumPart) ++
    sectionOf "Functions"
      (module.functions.map fun function => functionPart links function.name function)

def moduleItem (module : ModuleDoc) : Text :=
  "<li><a href=\"".toList ++ escape (pageName module.name) ++ "\">".toList ++ escape module.name ++
    "</a></li>\n".toList

def Site.modulePage (site : Site) (module : ModuleDoc) : Text :=
  moduleFrame (escape module.name) (escape site.projectName) (moduleContent site.links module)

def Site.indexPage (site : Site) (modules : List ModuleDoc) : Text :=
  indexFrame (escape site.projectName) (escape site.license) (modules.flatMap moduleItem)

end DocSite
