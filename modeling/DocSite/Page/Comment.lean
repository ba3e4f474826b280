/-
Comments on pages.

The paragraphs of a comment are read as a small documentation format: a list of parameters, the result,
headings of sections, fenced examples and plain paragraphs. The lines are read one after the other, and two
flags tell what is open. A list of parameters is open until another part begins, an example until its
closing fence, and both are closed at the end of the comment at the latest.
-/
import DocSite.Page.Escape

namespace DocSite

def sectionNames : List Text :=
  ["Authors", "Bugs", "Date", "Deprecated", "Examples", "Example", "History", "License",
    "See_Also", "Standards", "Throws", "Version", "Note", "Notes"].map String.toList

def codeFence : Text := "---".toList

def parametersHeading : Text := "Params:".toList

def returnsHeading : Text := "Returns:".toList

/-- The name of a section and the text behind the colon, for a line that heads one. -/
def sectionHeading? (text : Text) : Option (Text × Text) :=
  match Text.cutAt? ':' text with
  | some (name, rest) =>
      if sectionNames.contains name then some (name, Text.trim rest) else none
  | none => none

/-! ### Parts of a comment -/

def paragraph (text : Text) : Text :=
  "<p>".toList ++ escape text ++ "</p>\n".toList

def parameterItem (text : Text) : Text :=
  match Text.cutAt? '=' text with
  | some (name, description) =>
      "<li><span class=\"param-name\">".toList ++ escape (Text.trim name) ++ "</span> ".toList ++
        escape (Text.trim description) ++ "</li>\n".toList
  | none => "<li>".toList ++ escape text ++ "</li>\n".toList

def parametersOpening : Text :=
  "<div class=\"ddoc-section\">".toList ++ parametersHeading ++
    "</div>\n<ul class=\"params-list\">\n".toList

def parametersClosing : Text := "</ul>\n".toList

def exampleOpening : Text := "<pre class=\"example\"><code>".toList

def exampleClosing : Text := "</code></pre>\n".toList

def returnsPart (description : Text) : Text :=
  "<div class=\"returns\"><span class=\"ddoc-section\">".toList ++ returnsHeading ++ "</span> ".toList ++
    escape description ++ "</div>\n".toList

def sectionPart (name description : Text) : Text :=
  "<div class=\"ddoc-section\">".toList ++
    escape (name.map fun character => if character = '_' then ' ' else character) ++ "</div>\n".toList ++
    (if description.isEmpty then [] else paragraph description)

/-! ### The whole comment -/

/-- What has been written of a comment, and whether a list of parameters or an example is open. -/
structure CommentPage where
  written : Text := []
  inParameters : Bool := false
  inCode : Bool := false
  deriving DecidableEq, Repr

namespace CommentPage

def write (page : CommentPage) (markup : Text) : CommentPage :=
  { page with written := page.written ++ markup }

def closeParameters (page : CommentPage) : CommentPage :=
  if page.inParameters then { page.write parametersClosing with inParameters := false } else page

def readPart (page : CommentPage) (text : Text) : CommentPage :=
  if text = parametersHeading then
    { page.closeParameters.write parametersOpening with inParameters := true }
  else
    match Text.afterPrefix? returnsHeading text with
    | some description => page.closeParameters.write (returnsPart (Text.trim description))
    | none =>
        match sectionHeading? text with
        | some (name, description) => page.closeParameters.write (sectionPart name description)
        | none =>
            if text.isEmpty then page
            else page.write (if page.inParameters then parameterItem text else paragraph text)

def readLine (page : CommentPage) (line : Text) : CommentPage :=
  if Text.trim line = codeFence then
    if page.inCode then { page.write exampleClosing with inCode := false }
    else { page.closeParameters.write exampleOpening with inCode := true }
  else if page.inCode then page.write (escape line ++ ['\n'])
  else page.readPart (Text.trim line)

def finish (page : CommentPage) : Text :=
  let closed := page.closeParameters
  if closed.inCode then closed.written ++ exampleClosing else closed.written

end CommentPage

def formatComment (comments : List Text) : Text :=
  (comments.foldl CommentPage.readLine {}).finish

end DocSite
