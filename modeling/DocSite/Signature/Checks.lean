/-
Telling signatures from other lines.

Five checks look at the code of a line in turn. Each accepts, rejects or leaves the decision to the
next one, and a line on which all are silent is no signature.
-/
import DocSite.Signature.Keywords
import DocSite.Source.Code

namespace DocSite

/-! ### The parameter list -/

/-- The code before and after the parenthesis that opens the parameter list. When nothing but blanks
lies between the first linkage keyword and the first parenthesis, that parenthesis and its argument
are passed over. -/
def cutAtParameters? (code : Text) : Option (Text × Text) :=
  match Text.cutAt? '(' code with
  | none => none
  | some (before, afterFirst) =>
      let first := some (before, afterFirst)
      match Text.cut? linkageKeyword before with
      | none => first
      | some (_, between) =>
          if (Text.trim between).isEmpty then
            match Text.cutAt? ')' afterFirst with
            | none => first
            | some (argument, behind) =>
                (Text.cutAt? '(' behind).map fun parts =>
                  (before ++ '(' :: argument ++ ')' :: parts.1, parts.2)
          else first

def parameterParen? (code : Text) : Option Nat :=
  (cutAtParameters? code).map fun parts => parts.1.length

/-! ### Single checks -/

/-- What a check says about a line; nothing when it has no opinion. -/
abbrev Verdict := Option Bool

def checkParentheses (code : Text) : Verdict :=
  match Text.cutAt? '(' code with
  | some (_, rest) => if rest.contains ')' then none else some false
  | none => some false

def afterAccessModifier? (code : Text) : Option Text :=
  accessModifiers.findSome? fun modifier =>
    match Text.afterPrefix? modifier code with
    | some rest => if (rest.head?.map isBlank).getD false then some (Text.trimLeft rest) else none
    | none => none

def startsConstructor (code : Text) : Bool :=
  let name := (Text.afterPrefix? ['~'] code).getD code
  match Text.afterPrefix? "this".toList name with
  | some rest => Text.beginsWith ['('] (Text.trimLeft rest)
  | none => false

/-- Accepts constructors and destructors, with or without an access modifier. -/
def checkConstructor (code : Text) : Verdict :=
  if startsConstructor code || ((afterAccessModifier? code).map startsConstructor).getD false then
    some true
  else none

def leadingWord? (text : Text) : Option (Text × Text) :=
  if Text.startsName text then some (text.takeWhile isWordChar, text.dropWhile isWordChar)
  else none

/-- A line without the closing braces and the blanks before its first word. -/
def afterClosedBlocks (code : Text) : Text :=
  code.dropWhile fun character => character == '\x7d' || character == ' ' || character == '\t'

def checkControlFlow (code : Text) : Verdict :=
  match leadingWord? (afterClosedBlocks code) with
  | none => none
  | some (first, rest) =>
      if controlFlowKeywords.contains first || declarationKeywords.contains first then some false
      else
        let rest := Text.trimLeft rest
        let second := (leadingWord? rest).map (·.1)
        if first == "static".toList && (second.map staticControlKeywords.contains).getD false then
          some false
        else if guardedKeywords.contains first && Text.beginsWith ['('] rest then some false
        else none

/-- Rejects an assignment before the first parenthesis, unless the line begins with a built-in type
and a name. -/
def checkAssignment (code : Text) : Verdict :=
  match Text.cutAt? '(' code with
  | none => none
  | some (before, _) =>
      if before.contains '=' then
        match Text.words code with
        | first :: second :: _ =>
            if initializerKeywords.contains first && Text.startsName second then none
            else some false
        | _ => some false
      else none

/-- A type without the array brackets and pointer stars at its end. -/
def dropTypeSuffix (type : Text) : Text :=
  (dropReversed type.reverse).reverse
where
  /-- The same on a type whose characters stand in reverse. -/
  dropReversed : Text → Text
    | '*' :: rest => dropReversed rest
    | ']' :: '[' :: rest => dropReversed rest
    | rest => rest

/-- Whether the last two words before a parameter list may be a return type and a name. -/
def shapeOfPair (type name : Text) : Bool :=
  let type := dropTypeSuffix type
  let isKeyword := signatureKeywords.contains type
  ((isKeyword || Text.beginsWith ['@'] type) &&
      (Text.isIdentifier name || name == "~this".toList)) ||
    (Text.isIdentifier type && !isKeyword)

def checkSignatureShape (code : Text) : Verdict :=
  match cutAtParameters? code with
  | none => some false
  | some (before, _) =>
      let words := Text.words before
      if words.any fun word => word.contains '.' || word.contains '=' then some false
      else
        match words.reverse with
        | [] => some false
        | [name] => some (Text.isIdentifier name)
        | name :: type :: _ => some (shapeOfPair type name)

/-! ### The decision -/

def signatureChecks : List (Text → Verdict) :=
  [checkParentheses, checkConstructor, checkControlFlow, checkAssignment, checkSignatureShape]

def isSignatureCode (code : Text) : Bool :=
  (signatureChecks.findSome? fun check => check code).getD false

def isFunction (line : Text) : Bool :=
  isSignatureCode (codeOf (Text.trim line))

end DocSite
