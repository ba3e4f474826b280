/-
Canonical sources.

A tree holds what a canonical source declares. Its names, types, values and comments carry the proofs that
they are well formed, so every tree can be printed: one declaration to a line, each line of a comment behind
three slashes directly above its declaration, and the members of a container between the line of its header
and a line with the closing brace. The documentation of a tree is read off the tree alone, with the numbers
of the lines on which its declarations are printed.
-/
import DocSite.Doc.Extraction
import DocSite.Proofs.Text.Lines
import DocSite.Proofs.Text.Words
import Mathlib.Algebra.GroupWithZero.Nat

namespace DocSite.Canonical

/-! ### Names -/

def blockedWords : List Text :=
  controlFlowKeywords ++ guardedKeywords ++ declarationKeywords ++ staticControlKeywords ++
    accessModifiers ++ storageModifiers ++
      ["import", "module", "unittest", "invariant", "this"].map String.toList

def reservedWords : List Text :=
  blockedWords ++ initializerKeywords

structure Identifier where
  text : Text
  formed : Text.isIdentifier text = true
  free : text ∉ reservedWords
  unlinked : Text.includes linkageKeyword text = false

inductive TypeName where
  | primitive (name : Text) (known : name ∈ primitiveTypes)
  | named (name : Identifier)

def TypeName.text : TypeName → Text
  | .primitive name _ => name
  | .named name => name.text

structure Variable where
  type : TypeName
  name : Identifier

def Variable.text (declared : Variable) : Text :=
  declared.type.text ++ ' ' :: declared.name.text

structure DottedName where
  first : Identifier
  further : List Identifier

def DottedName.text (name : DottedName) : Text :=
  Text.join ['.'] ((name.first :: name.further).map Identifier.text)

def isNumeralChar (character : Char) : Bool :=
  isNameChar character || character == '.' || character == '+' || character == '-'

def isNumeral : Text → Bool
  | '-' :: digit :: rest => digit.isDigit && rest.all isNumeralChar
  | digit :: rest => digit.isDigit && rest.all isNumeralChar
  | [] => false

inductive Value where
  | named (constant : Identifier)
  | number (numeral : Text) (formed : isNumeral numeral = true)

def Value.text : Value → Text
  | .named constant => constant.text
  | .number numeral _ => numeral

/-! ### Comments -/

/-- Whether a text is the word of the repetition marker when case is ignored. -/
def isDittoWord (text : Text) : Bool :=
  text.length == 5 && (List.zipWith agreesIgnoringCase "ditto".toList text).all id

/-- A comment of trimmed lines. It may be empty; otherwise its first and last line are not. -/
structure Prose where
  lines : List Text
  trimmed : ∀ line ∈ lines, Text.trim line = line
  oneLine : ∀ line ∈ lines, Text.OneLine line
  noMarker : ∀ line ∈ lines, isDittoWord line = false
  starts : lines.head? ≠ some []
  ends : lines.getLast? ≠ some []

/-! ### Declarations -/

def isClauseChar (character : Char) : Bool :=
  isNameChar character || character == '.' || character == ',' || character == ':' ||
    character == '=' || character == ' '

structure Import where
  modifiers : List Text
  known : ∀ modifier ∈ modifiers, modifier ∈ importModifiers
  clause : Text
  allowed : ∀ character ∈ clause, isClauseChar character = true

structure ModuleName where
  comments : Prose
  name : DottedName

structure Function where
  comments : Prose
  result : Variable
  parameters : List Variable

inductive Member where
  | field (isPrivate : Bool) (comments : Prose) (declared : Variable)
  | method (isPrivate : Bool) (function : Function)

structure Aggregate where
  comments : Prose
  kind : AggregateKind
  name : Identifier
  members : List Member

structure EnumMember where
  comments : Prose
  name : Identifier
  value : Option Value

structure Enum where
  comments : Prose
  name : Identifier
  members : List EnumMember

structure Tree where
  declared : Option ModuleName
  imports : List Import
  aggregates : List Aggregate
  enums : List Enum
  functions : List Function

/-! ### Printing -/

def Prose.print (comments : Prose) : List Text :=
  comments.lines.map fun line => "/// ".toList ++ line

def ModuleName.code (declared : ModuleName) : Text :=
  "module ".toList ++ declared.name.text ++ [';']

def Import.code (declared : Import) : Text :=
  declared.modifiers.foldr (fun modifier rest => modifier ++ ' ' :: rest)
    ("import ".toList ++ declared.clause ++ [';'])

def Function.code (function : Function) : Text :=
  function.result.text ++ '(' ::
    Text.join [',', ' '] (function.parameters.map Variable.text) ++ [')', ';']

def privacy (isPrivate : Bool) : Text :=
  if isPrivate then privateKeyword ++ [' '] else []

def Member.code : Member → Text
  | .field isPrivate _ declared => privacy isPrivate ++ declared.text ++ [';']
  | .method isPrivate function => privacy isPrivate ++ function.code

def Member.comments : Member → Prose
  | .field _ comments _ => comments
  | .method _ function => function.comments

def EnumMember.code (member : EnumMember) : Text :=
  match member.value with
  | none => member.name.text ++ [',']
  | some value => member.name.text ++ " = ".toList ++ value.text ++ [',']

def headerCode (kind : ContainerKind) (name : Identifier) : Text :=
  kind.keyword ++ ' ' :: name.text ++ [' ', '\x7b']

def Member.print (member : Member) : List Text :=
  member.comments.print ++ [member.code]

def EnumMember.print (member : EnumMember) : List Text :=
  member.comments.print ++ [member.code]

def printContainer (indentation : Nat) (comments : Prose) (kind : ContainerKind) (name : Identifier)
    (body : List Text) : List Text :=
  comments.print ++ headerCode kind name ::
    (body.map fun line => List.replicate indentation ' ' ++ line) ++ [['\x7d']]

def Aggregate.print (indentation : Nat) (aggregate : Aggregate) : List Text :=
  printContainer indentation aggregate.comments (.aggregate aggregate.kind) aggregate.name
    (aggregate.members.flatMap Member.print)

def Enum.print (indentation : Nat) (enum : Enum) : List Text :=
  printContainer indentation enum.comments .enum enum.name (enum.members.flatMap EnumMember.print)

def Function.print (function : Function) : List Text :=
  function.comments.print ++ [function.code]

def ModuleName.print (declared : ModuleName) : List Text :=
  declared.comments.print ++ [declared.code]

def Import.print (declared : Import) : List Text :=
  [declared.code]

def Tree.lines (indentation : Nat) (tree : Tree) : List Text :=
  tree.declared.toList.flatMap ModuleName.print ++ tree.imports.flatMap Import.print ++
    tree.aggregates.flatMap (Aggregate.print indentation) ++
      tree.enums.flatMap (Enum.print indentation) ++ tree.functions.flatMap Function.print

def Tree.print (indentation : Nat) (tree : Tree) : Text :=
  Text.unlines (tree.lines indentation)

/-! ### Documentation -/

/-- The number of lines from the first line of a comment to the line of its declaration. -/
def Prose.height (comments : Prose) : Nat :=
  comments.lines.length + 1

def Member.height (member : Member) : Nat :=
  member.comments.height

def EnumMember.height (member : EnumMember) : Nat :=
  member.comments.height

def Aggregate.height (aggregate : Aggregate) : Nat :=
  aggregate.comments.height + (aggregate.members.map Member.height).sum + 1

def Enum.height (enum : Enum) : Nat :=
  enum.comments.height + (enum.members.map EnumMember.height).sum + 1

def Function.height (function : Function) : Nat :=
  function.comments.height

/-- What items are documented as when they are printed one behind the other from a given line on. -/
def documentAll {Item Document : Type} (height : Item → Nat) (document : Nat → Item → Document) :
    Nat → List Item → List Document
  | _, [] => []
  | number, item :: rest =>
      document number item :: documentAll height document (number + height item) rest

def Function.document (isPrivate : Bool) (number : Nat) (function : Function) : FunctionDoc :=
  { name := function.result.name.text
    returnType := privacy isPrivate ++ function.result.type.text
    parameters := function.parameters.map Variable.text
    comments := function.comments.lines
    line := Int.ofNat (number + function.comments.lines.length)
    isPrivate := isPrivate }

def Member.document (number : Nat) : Member → AggregateMember
  | .field isPrivate comments declared =>
      .field { declaration := privacy isPrivate ++ declared.text ++ [';']
               comments := comments.lines
               line := Int.ofNat (number + comments.lines.length)
               isPrivate := isPrivate }
  | .method isPrivate function => .method (function.document isPrivate number)

def Aggregate.document (number : Nat) (aggregate : Aggregate) : AggregateDoc :=
  let members := documentAll Member.height Member.document (number + aggregate.comments.height)
    aggregate.members
  { name := aggregate.name.text
    kind := aggregate.kind
    comments := aggregate.comments.lines
    methods := members.filterMap AggregateMember.method?
    fields := members.filterMap AggregateMember.field?
    line := Int.ofNat (number + aggregate.comments.lines.length) }

def EnumMember.document (number : Nat) (member : EnumMember) : EnumMemberDoc :=
  { name := member.name.text
    value := (member.value.map Value.text).getD []
    comments := member.comments.lines
    line := Int.ofNat (number + member.comments.lines.length) }

def Enum.document (number : Nat) (enum : Enum) : EnumDoc :=
  { name := enum.name.text
    comments := enum.comments.lines
    members := documentAll EnumMember.height EnumMember.document (number + enum.comments.height)
      enum.members
    line := Int.ofNat (number + enum.comments.lines.length) }

def Tree.document (file : FilePath) (tree : Tree) : ModuleDoc :=
  let imports := 1 + (tree.declared.map fun declared => declared.comments.height).getD 0
  let aggregates := imports + tree.imports.length
  let enums := aggregates + (tree.aggregates.map Aggregate.height).sum
  let functions := enums + (tree.enums.map Enum.height).sum
  { name := (tree.declared.map fun declared => declared.name.text).getD file.stem
    file := file
    comments := (tree.declared.map fun declared => declared.comments.lines).getD []
    imports := tree.imports.map Import.code
    functions := documentAll Function.height (Function.document false) functions tree.functions
    aggregates := documentAll Aggregate.height Aggregate.document aggregates tree.aggregates
    enums := documentAll Enum.height Enum.document enums tree.enums }

end DocSite.Canonical
