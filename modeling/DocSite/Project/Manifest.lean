/-
Package manifests.

Two forms of manifests tell the name of a project and the directories that its sources lie in: a JSON
object, and a list of directives with quoted values, one a line. What a manifest does not tell, or tells
in a form that is not understood, keeps its default.
-/
import DocSite.Files.Reading
import DocSite.Text.Lines

namespace DocSite

structure Manifest where
  name : Text
  sourceDirectories : List Text
  deriving DecidableEq, Repr

/-- The directories that sources are looked for in by default. -/
def defaultSourceDirectories : List Text :=
  ["source".toList, "src".toList]

def Manifest.default : Manifest := ⟨[], defaultSourceDirectories⟩

/-! ### JSON manifests -/

/-- The texts among values. -/
def textItems (items : List Json) : List Text :=
  items.filterMap fun item =>
    match item with
    | .string text => some text
    | _ => none

def jsonManifest (path : FilePath) (text : Text) : Reading Manifest := do
  match Json.parse text with
  | .error .malformed =>
      Logged.warn ("Failed to parse ".toList ++ path.text ++ ": JSONDecodeError".toList)
      return .default
  | .error error => throw (.json error)
  | .ok (.object fields) =>
      let name :=
        match Json.field? "name".toList fields with
        | some (.string name) => name
        | _ => []
      match Json.field? "sourcePaths".toList fields with
      | some (.array items) => return ⟨name, textItems items⟩
      | none | some .null => return ⟨name, defaultSourceDirectories⟩
      | some _ =>
          Logged.warn ("Ignoring non-list sourcePaths in ".toList ++ path.text)
          return ⟨name, defaultSourceDirectories⟩
  | .ok _ =>
      Logged.warn ("Failed to parse ".toList ++ path.text ++
        ": top level is not an object".toList)
      return .default

def readJsonManifest (workspace : Workspace) (path : FilePath) : Reading Manifest := do
  match ← readSource workspace path with
  | some text => jsonManifest path text
  | none => return .default

/-! ### Directive manifests -/

/-- The rest of a quoted value whose opening quote has been read, and what follows its closing quote.
A backslash takes the next character with it. -/
def quotedValue? : Text → Option (Text × Text)
  | [] => none
  | '"' :: rest => some ([], rest)
  | ['\\'] => none
  | '\\' :: character :: rest =>
      if character = '\n' then none
      else (quotedValue? rest).map fun parts => ('\\' :: character :: parts.1, parts.2)
  | character :: rest => (quotedValue? rest).map fun parts => (character :: parts.1, parts.2)

theorem quotedValue?_length_lt {text value rest : Text}
    (found : quotedValue? text = some (value, rest)) : rest.length < text.length := by
  fun_induction quotedValue? text generalizing value rest with
  | case1 => cases found
  | case2 tail =>
      cases found
      simp
  | case3 => cases found
  | case4 => cases found
  | case5 character tail _ ih =>
      obtain ⟨parts, inner, equal⟩ := Option.map_eq_some_iff.mp found
      have shorter := ih inner
      cases equal
      simp only [List.length_cons]
      omega
  | case6 character tail _ _ _ ih =>
      obtain ⟨parts, inner, equal⟩ := Option.map_eq_some_iff.mp found
      have shorter := ih inner
      cases equal
      simp only [List.length_cons]
      omega

/-- The quoted values in a text, as they stand between their quotes. A quote that is never closed is
passed over. -/
def quotedValues : Text → List Text
  | [] => []
  | character :: rest =>
      if character = '"' then
        match _ : quotedValue? rest with
        | some (value, after) => value :: quotedValues after
        | none => quotedValues rest
      else quotedValues rest
termination_by text => text.length
decreasing_by
  · have shorter := quotedValue?_length_lt (by assumption)
    simp only [List.length_cons]
    omega
  · simp
  · simp

/-- The first word of a line and the text behind it. Nothing comes of a line of fewer than two words. -/
def directive? (line : Text) : Option (Text × Text) :=
  let text := Text.trim line
  let isLetter (character : Char) : Bool := !isBlank character
  let rest := Text.trimLeft (text.dropWhile isLetter)
  if rest.isEmpty then none else some (text.takeWhile isLetter, rest)

def Manifest.read (manifest : Manifest) (line : Text) : Manifest :=
  match directive? line with
  | none => manifest
  | some (directive, rest) =>
      match quotedValues rest with
      | [] => manifest
      | first :: more =>
          if directive = "name".toList then { manifest with name := first }
          else if directive = "sourcePaths".toList then
            { manifest with sourceDirectories := first :: more }
          else manifest

def directiveManifest (text : Text) : Manifest :=
  (Text.lines text).foldl Manifest.read .default

def readDirectiveManifest (workspace : Workspace) (path : FilePath) : Reading Manifest := do
  match ← readSource workspace path with
  | some text => return directiveManifest text
  | none => return .default

end DocSite
