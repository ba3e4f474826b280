/-
The search index of records.

A record has its entries whatever it holds besides names. A name that is no text stays the value that it
is, and links show it as messages do; only the name of a module has to be a text.
-/
import DocSite.Doc.Caption
import DocSite.Index.Search

namespace DocSite

namespace Recorded

def itemEntry (module : Text) (kind name : Json) : Json :=
  .object
    [("name".toList, name), ("type".toList, kind),
      ("link".toList, .string (anchorLink (pageName module) name.shownText)),
      ("module".toList, .string module)]

def methodEntry (module : Text) (aggregate method : Json) : Json :=
  .object
    [("name".toList, method), ("type".toList, .string "method".toList),
      ("parent".toList, aggregate),
      ("link".toList,
        .string (anchorLink (pageName module) (methodAnchor aggregate.shownText method.shownText))),
      ("module".toList, .string module)]

def name (record : Json) : Json := recordField record "name"

def aggregateEntries (module : Text) (record : Json) : List Json :=
  itemEntry module (recordField record "type") (name record) ::
    (recordItems record "methods").map fun method => methodEntry module (name record) (name method)

def entries? (record : Json) : Option (List Json) :=
  (text? (name record)).map fun module =>
    [.object
      [("name".toList, .string module), ("type".toList, .string "module".toList),
        ("link".toList, .string (pageName module))]] ++
      (recordItems record "classes").flatMap (aggregateEntries module) ++
      (recordItems record "enums").map
        (fun enum => itemEntry module (.string "enum".toList) (name enum)) ++
      (recordItems record "functions").map
        (fun function => itemEntry module (.string "function".toList) (name function))

def searchIndex? (records : List Json) : Option Json :=
  (records.mapM entries?).map fun entries => .array entries.flatten

end Recorded

end DocSite
