/-
Reading signatures.

The last word before the parameter list is the name, the words before it are the return type, and
the parameters stand between top-level commas. Of two groups of parentheses in a row the second one
holds the parameters, since the first belongs to a template.
-/
import DocSite.Doc.Basic
import DocSite.Signature.Checks
import DocSite.Source.Nesting

namespace DocSite

/-- The parameter list whose opening parenthesis stands before a text. Without a proper closer it
ends at the first closing parenthesis of any kind. -/
def parameterText? (afterParen : Text) : Option Text :=
  match cutParenthesis? afterParen with
  | none => (Text.cutAt? ')' afterParen).map (·.1)
  | some (inside, rest) =>
      match Text.trimLeft rest with
      | '(' :: second =>
          match cutParenthesis? second with
          | some (parameters, _) => some parameters
          | none => some inside
      | _ => some inside

/-- The name and the return type that a list of words gives. A single word is a function without a
result, and constructors have no return type. -/
def nameAndType? (words : List Text) : Option (Text × Text) :=
  match words.getLast? with
  | none => none
  | some name =>
      let type := words.dropLast
      if isConstructorName name then some (name, [])
      else if type.isEmpty then some (name, "void".toList)
      else some (name, Text.join [' '] type)

def parseSignature? (code : Text) (comments : List Text) (line : Int) : Option FunctionDoc :=
  match cutAtParameters? code with
  | none => none
  | some (before, afterParen) =>
      match parameterText? afterParen with
      | none => none
      | some parameters =>
          (nameAndType? (Text.words before)).map fun named =>
            { name := named.1
              returnType := named.2
              parameters := (splitTopLevelAt ',' parameters).filter fun piece => !piece.isEmpty
              comments := comments
              line := line
              isPrivate := isPrivateDeclaration code }

def parseFunction? (line : Text) (comments : List Text) (number : Int) : Option FunctionDoc :=
  parseSignature? (codeOf (Text.trim line)) comments number

end DocSite
