/-
The documentation tree.

A module holds functions, class-like aggregates and enums; aggregates hold methods and fields, enums
hold members. Every declaration keeps its comment and the number of the line it stands on.
-/
import DocSite.Files.Path

namespace DocSite

structure FunctionDoc where
  name : Text
  /-- Empty for constructors and destructors. -/
  returnType : Text := []
  parameters : List Text := []
  comments : List Text := []
  line : Int := 0
  isPrivate : Bool := false
  deriving DecidableEq, Repr

structure FieldDoc where
  declaration : Text
  comments : List Text := []
  line : Int := 0
  isPrivate : Bool := false
  deriving DecidableEq, Repr

inductive AggregateKind where
  | classType
  | structType
  | interfaceType
  deriving DecidableEq, Repr

structure AggregateDoc where
  name : Text
  kind : AggregateKind
  comments : List Text := []
  methods : List FunctionDoc := []
  fields : List FieldDoc := []
  line : Int := 0
  deriving DecidableEq, Repr

/-- A member of an enum. The value is empty when none is written. -/
structure EnumMemberDoc where
  name : Text
  value : Text := []
  comments : List Text := []
  line : Int := 0
  deriving DecidableEq, Repr

structure EnumDoc where
  name : Text
  comments : List Text := []
  members : List EnumMemberDoc := []
  line : Int := 0
  deriving DecidableEq, Repr

structure ModuleDoc where
  name : Text
  file : FilePath
  comments : List Text := []
  imports : List Text := []
  functions : List FunctionDoc := []
  aggregates : List AggregateDoc := []
  enums : List EnumDoc := []
  deriving DecidableEq, Repr

/-! ### Short texts -/

def AggregateKind.keyword : AggregateKind → Text
  | .classType => "class".toList
  | .structType => "struct".toList
  | .interfaceType => "interface".toList

def AggregateKind.ofKeyword? (keyword : Text) : Option AggregateKind :=
  if keyword = "class".toList then some .classType
  else if keyword = "struct".toList then some .structType
  else if keyword = "interface".toList then some .interfaceType
  else none

def FunctionDoc.signature (function : FunctionDoc) : Text :=
  (if function.returnType.isEmpty then [] else function.returnType ++ [' ']) ++
    function.name ++ '(' :: Text.join [',', ' '] function.parameters ++ [')']

def isConstructorName (name : Text) : Bool :=
  name == "this".toList || name == "~this".toList

def FunctionDoc.isConstructor (function : FunctionDoc) : Bool :=
  isConstructorName function.name

/-! ### Type names -/

/-- Sorts texts by the codes of their characters and keeps one of equal ones. -/
def sortedDistinct (names : List Text) : List Text :=
  ((names.mergeSort fun left right => decide (¬ right < left))).foldr
    (fun name kept => if kept.head? = some name then kept else name :: kept) []

def ModuleDoc.typeNames (module : ModuleDoc) : List Text :=
  sortedDistinct (module.aggregates.map (·.name) ++ module.enums.map (·.name))

end DocSite
