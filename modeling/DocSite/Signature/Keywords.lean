/-
Keywords of the documented language.

The sets decide which lines may be signatures: what may lead a statement, what may lead a declaration
that is no function, and what may stand where a return type is expected.
-/
import DocSite.Text.Word

namespace DocSite

/-- Words that lead statements and are never part of a signature. -/
def controlFlowKeywords : List Text :=
  ["if", "else", "while", "do", "for", "foreach", "foreach_reverse", "switch", "case", "default",
    "try", "catch", "finally", "assert", "throw", "return", "break", "continue", "goto", "with",
    "version", "debug", "mixin", "pragma", "new", "delete"].map String.toList

/-- Words that lead a statement only when a parenthesis follows. -/
def guardedKeywords : List Text :=
  ["synchronized", "scope"].map String.toList

def declarationKeywords : List Text :=
  ["import", "module", "struct", "class", "interface", "enum", "union", "template",
    "alias"].map String.toList

/-- Words that make a compile-time statement when `static` stands before them. -/
def staticControlKeywords : List Text :=
  ["if", "assert", "foreach"].map String.toList

def accessModifiers : List Text :=
  ["public", "private", "protected", "package", "export"].map String.toList

def storageModifiers : List Text :=
  ["static", "final", "override", "abstract", "const", "immutable", "shared", "pure", "nothrow",
    "ref", "inout", "scope", "extern", "__gshared", "synchronized", "deprecated"].map String.toList

def primitiveTypes : List Text :=
  ["void", "bool", "byte", "ubyte", "short", "ushort", "int", "uint", "long", "ulong", "float",
    "double", "real", "char", "wchar", "dchar", "string", "wstring", "dstring", "size_t",
    "ptrdiff_t"].map String.toList

def initializerKeywords : List Text :=
  "auto".toList :: primitiveTypes

/-- Words that may stand directly before the name of a function. -/
def signatureKeywords : List Text :=
  accessModifiers ++ storageModifiers ++ initializerKeywords

def linkageKeyword : Text := "extern".toList

def privateKeyword : Text := "private".toList

/-- Whether the first word of a declaration is the modifier that hides it. A modifier with an
argument is another word. -/
def isPrivateDeclaration (declaration : Text) : Bool :=
  Text.firstWord? declaration == some privateKeyword

end DocSite
