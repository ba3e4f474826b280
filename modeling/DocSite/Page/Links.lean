/-
Links from type names to their documentation.

Built-in types link to the language reference, declared types to their anchor on the page of the
module. In code, a whole word that names a linked type becomes a link; parts of longer words never do.
-/
import DocSite.Index.Search
import DocSite.Page.Escape
import DocSite.Text.Word

namespace DocSite

/-- The addresses of type names. Of two entries for one name the first one counts. -/
abbrev TypeLinks := List (Text × Text)

def builtinTypeLinks : TypeLinks :=
  [("string", "https://dlang.org/phobos/std_string.html"),
    ("int", "https://dlang.org/spec/type.html#int"),
    ("bool", "https://dlang.org/spec/type.html#bool"),
    ("void", "https://dlang.org/spec/type.html#void"),
    ("float", "https://dlang.org/spec/type.html#float"),
    ("double", "https://dlang.org/spec/type.html#double"),
    ("size_t", "https://dlang.org/spec/type.html#size_t"),
    ("Object", "https://dlang.org/spec/type.html#Object")].map
    fun link => (link.1.toList, link.2.toList)

def moduleTypeLinks (module : ModuleDoc) : TypeLinks :=
  module.typeNames.map fun name => (name, anchorLink (pageName module.name) name)

/-- The links of a list of modules. Later modules take precedence, and all of them over the built-in
types. -/
def typeLinks (modules : List ModuleDoc) : TypeLinks :=
  modules.foldl (fun links module => moduleTypeLinks module ++ links) builtinTypeLinks

def TypeLinks.sorted (links : TypeLinks) : TypeLinks :=
  (sortedDistinct (links.map (·.1))).filterMap fun name =>
    (links.lookup name).map fun address => (name, address)

/-! ### Code with links -/

/-- Cuts a text into maximal runs of word characters and of other characters. -/
def wordRuns : Text → List Text
  | [] => []
  | character :: rest =>
      match rest with
      | [] => [[character]]
      | next :: _ =>
          if isWordChar character = isWordChar next then Text.consHead character (wordRuns rest)
          else [character] :: wordRuns rest

def linkOf? (links : TypeLinks) (run : Text) : Option Text :=
  if (run.head?.map isWordChar).getD false then
    match links.lookup run with
    | some address => if address.isEmpty then none else some address
    | none => none
  else none

def linkRun (links : TypeLinks) (run : Text) : Text :=
  match linkOf? links run with
  | some address =>
      "<a href=\"".toList ++ escape address ++ "\">".toList ++ escape run ++ "</a>".toList
  | none => escape run

def linkify (links : TypeLinks) (code : Text) : Text :=
  (wordRuns code).flatMap (linkRun links)

end DocSite
