/-
Where declarations come from.

Nothing in the documentation is made up. The walk line by line keeps, at every line, that each entry so far stands
on one of the lines that were read and that its comment quotes lines up to that one; so do the members of the
container that the walk is in and the paragraphs that still wait. At the end of a source this says where every
part of its documentation stands.
-/
import DocSite.Proofs.Walk.OpenComment
import DocSite.Proofs.Walk.Records

namespace DocSite

/-! ### Traces -/

def Quoted (lines : List Line) (piece : Text) : Prop :=
  ∃ line ∈ lines, piece <:+: line.text

/-- A declaration stands on one of the lines, and its comment quotes that line or the ones before it. -/
def Traced (lines : List Line) (comments : List Text) (stands : Line → Prop) : Prop :=
  ∃ seen line, seen ++ [line] <+: lines ∧ stands line ∧
    ∀ paragraph ∈ comments, Quoted (seen ++ [line]) paragraph

def AggregateMember.Traced (lines : List Line) (member : AggregateMember) : Prop :=
  DocSite.Traced lines member.comments fun line => member.DeclaredOn line

def EnumMemberDoc.Traced (lines : List Line) (member : EnumMemberDoc) : Prop :=
  DocSite.Traced lines member.comments fun line => member.DeclaredOn line

structure AggregateDoc.Traced (lines : List Line) (aggregate : AggregateDoc) : Prop where
  header : DocSite.Traced lines aggregate.comments fun line =>
    aggregate.name <:+: line.text ∧ aggregate.line = line.number
  methods : ∀ declared ∈ aggregate.methods, (AggregateMember.method declared).Traced lines
  fields : ∀ declared ∈ aggregate.fields, (AggregateMember.field declared).Traced lines

structure EnumDoc.Traced (lines : List Line) (enum : EnumDoc) : Prop where
  header : DocSite.Traced lines enum.comments fun line =>
    enum.name <:+: line.text ∧ enum.line = line.number
  members : ∀ declared ∈ enum.members, declared.Traced lines

def ModuleEntry.Traced (lines : List Line) : ModuleEntry → Prop
  | .moduleName name comments =>
      DocSite.Traced lines comments fun line => moduleName? (codeOf line.text) = some name
  | .importLine declaration => ∃ line ∈ lines, declaration = codeOf line.text
  | .function declared => DocSite.Traced lines declared.comments fun line => declared.DeclaredOn line
  | .aggregate declared => declared.Traced lines
  | .enum declared => declared.Traced lines

theorem Quoted.mono {lines more : List Line} {piece : Text} (quoted : Quoted lines piece)
    (longer : lines <+: more) : Quoted more piece := by
  obtain ⟨line, member, inside⟩ := quoted
  exact ⟨line, longer.mem member, inside⟩

theorem Traced.mono {lines more : List Line} {comments : List Text} {stands : Line → Prop}
    (traced : Traced lines comments stands) (longer : lines <+: more) : Traced more comments stands := by
  obtain ⟨seen, line, early, here, quoted⟩ := traced
  exact ⟨seen, line, early.trans longer, here, quoted⟩

theorem offers_last (seen : List Line) (line : Line) : line.text.Offers (Quoted (seen ++ [line])) :=
  fun _ inside => ⟨line, List.mem_append_right seen (List.mem_singleton_self line), inside⟩

theorem ModuleEntry.Traced.mono {lines more : List Line} {entry : ModuleEntry}
    (traced : entry.Traced lines) (longer : lines <+: more) : entry.Traced more := by
  cases entry with
  | moduleName name comments => exact DocSite.Traced.mono traced longer
  | importLine declaration =>
      obtain ⟨line, member, equal⟩ := traced
      exact ⟨line, longer.mem member, equal⟩
  | function declared => exact DocSite.Traced.mono traced longer
  | aggregate declared =>
      exact ⟨traced.header.mono longer,
        fun method listed => DocSite.Traced.mono (traced.methods method listed) longer,
        fun field listed => DocSite.Traced.mono (traced.fields field listed) longer⟩
  | enum declared =>
      exact ⟨traced.header.mono longer,
        fun member listed => DocSite.Traced.mono (traced.members member listed) longer⟩

/-- What a line records is traced to that line. -/
theorem ModuleEntry.AddedBy.traced {seen : List Line} {line : Line} {entry : ModuleEntry}
    (added : entry.AddedBy (Quoted (seen ++ [line])) line) : entry.Traced (seen ++ [line]) := by
  cases entry with
  | moduleName name comments => exact ⟨seen, line, List.prefix_rfl, added.1, added.2⟩
  | importLine declaration =>
      exact ⟨line, List.mem_append_right seen (List.mem_singleton_self line), added⟩
  | function declared => exact ⟨seen, line, List.prefix_rfl, added.1, added.2⟩
  | aggregate declared => exact added.elim
  | enum declared => exact added.elim

/-! ### Walks -/

structure ContainerScope.Traced (lines : List Line) (scope : ContainerScope) : Prop where
  header : DocSite.Traced lines scope.register.pending fun line =>
    scope.name <:+: line.text ∧ (scope.number : Int) = line.number
  register : scope.register.Within (Quoted lines)

def WalkMode.Traced (lines : List Line) : WalkMode → Prop
  | .module reader => reader.Within (Quoted lines)
  | .skipping register _ _ _ => register.Within (Quoted lines)
  | .aggregate _ scope state =>
      scope.Traced lines ∧ state.Holds (Quoted lines) (AggregateMember.Traced lines)
  | .enum scope state => scope.Traced lines ∧ state.Holds (Quoted lines) (EnumMemberDoc.Traced lines)

structure ModuleWalk.Traced (lines : List Line) (walk : ModuleWalk) : Prop where
  recorded : ∀ entry ∈ walk.recorded, entry.Traced lines
  mode : walk.mode.Traced lines

theorem ContainerScope.Traced.mono {lines more : List Line} {scope : ContainerScope}
    (traced : scope.Traced lines) (longer : lines <+: more) : scope.Traced more :=
  ⟨traced.header.mono longer, traced.register.mono fun _ quoted => quoted.mono longer⟩

theorem ModuleWalk.Traced.mono {lines more : List Line} {walk : ModuleWalk}
    (traced : walk.Traced lines) (longer : lines <+: more) : walk.Traced more := by
  refine ⟨fun entry listed => (traced.recorded entry listed).mono longer, ?_⟩
  obtain ⟨recorded, mode⟩ := walk
  have inMode := traced.mode
  cases mode with
  | module reader => exact CommentReader.Within.mono inMode fun _ quoted => quoted.mono longer
  | skipping register balance opened unclosed =>
      exact CommentRegister.Within.mono inMode fun _ quoted => quoted.mono longer
  | aggregate kind scope state =>
      exact ⟨inMode.1.mono longer, inMode.2.mono (fun _ quoted => quoted.mono longer)
        fun _ member => DocSite.Traced.mono member longer⟩
  | enum scope state =>
      exact ⟨inMode.1.mono longer, inMode.2.mono (fun _ quoted => quoted.mono longer)
        fun _ member => DocSite.Traced.mono member longer⟩

namespace ContainerScope

variable {lines : List Line} {scope : ContainerScope}

theorem Traced.after (traced : scope.Traced lines) : scope.after.Within (Quoted lines) := by
  unfold ContainerScope.after
  split
  · exact traced.register.discard
  · exact traced.register.attach

theorem Traced.aggregate (traced : scope.Traced lines) (kind : AggregateKind)
    {members : List AggregateMember} (all : ∀ member ∈ members, member.Traced lines) :
    ∀ entry ∈ scope.aggregate kind members, entry.Traced lines := by
  intro entry listed
  unfold ContainerScope.aggregate at listed
  split at listed
  · cases listed
  · rw [List.mem_singleton.mp listed]
    refine ⟨traced.header, ?_, ?_⟩
    · intro declared inside
      exact all _ (AggregateMember.mem_of_mem_methods inside)
    · intro declared inside
      exact all _ (AggregateMember.mem_of_mem_fields inside)

theorem Traced.enum (traced : scope.Traced lines) {members : List EnumMemberDoc}
    (all : ∀ member ∈ members, member.Traced lines) :
    ∀ entry ∈ scope.enum members, entry.Traced lines := by
  intro entry listed
  unfold ContainerScope.enum at listed
  split at listed
  · cases listed
  · rw [List.mem_singleton.mp listed]
    exact ⟨traced.header, all⟩

end ContainerScope

namespace ModuleWalk

section States

variable {lines : List Line} {recorded : List ModuleEntry} {register : CommentRegister}
  {scope : ContainerScope}

theorem traced_append {added : List ModuleEntry} (old : ∀ entry ∈ recorded, entry.Traced lines)
    (new : ∀ entry ∈ added, entry.Traced lines) : ∀ entry ∈ recorded ++ added, entry.Traced lines := by
  intro entry listed
  rcases List.mem_append.mp listed with before | here
  · exact old entry before
  · exact new entry here

theorem traced_skip (old : ∀ entry ∈ recorded, entry.Traced lines)
    (within : register.Within (Quoted lines)) (balance : Int) (opened : Bool) :
    (skip recorded register balance opened).Traced lines := by
  unfold skip
  split <;> exact ⟨old, within⟩

theorem traced_skipFrom (old : ∀ entry ∈ recorded, entry.Traced lines)
    (within : register.Within (Quoted lines)) (first : Line) :
    (skipFrom recorded register first).Traced lines := by
  unfold skipFrom
  split
  · exact ⟨old, within⟩
  · exact traced_skip old within _ _

theorem traced_inAggregate (old : ∀ entry ∈ recorded, entry.Traced lines) (header : scope.Traced lines)
    (kind : AggregateKind) {turn : BodyTurn AggregateMember}
    (holds : turn.Holds (Quoted lines) (AggregateMember.Traced lines)) :
    (inAggregate recorded kind scope turn).Traced lines := by
  cases turn with
  | goes state => exact ⟨old, header, holds⟩
  | ends members => exact ⟨traced_append old (header.aggregate kind holds), header.after⟩

theorem traced_inEnum (old : ∀ entry ∈ recorded, entry.Traced lines) (header : scope.Traced lines)
    {turn : BodyTurn EnumMemberDoc} (holds : turn.Holds (Quoted lines) (EnumMemberDoc.Traced lines)) :
    (inEnum recorded scope turn).Traced lines := by
  cases turn with
  | goes state => exact ⟨old, header, holds⟩
  | ends members => exact ⟨traced_append old (header.enum holds), header.after⟩

end States

section Steps

variable {seen : List Line} {line : Line}

theorem traced_aggregateMember {member : AggregateMember}
    (added : member.AddedBy (Quoted (seen ++ [line])) line) : member.Traced (seen ++ [line]) :=
  ⟨seen, line, List.prefix_rfl, added.declared, added.comments⟩

theorem traced_enumMember {member : EnumMemberDoc}
    (added : member.AddedBy (Quoted (seen ++ [line])) line) : member.Traced (seen ++ [line]) :=
  ⟨seen, line, List.prefix_rfl, added.declared, added.comments⟩

theorem header_of_codeKind {code : Text} {header : ContainerHeader}
    (found : codeKind code = .container header) : matchHeader? code = some header := by
  unfold codeKind at found
  split at found
  · cases found
  · split at found
    · rename_i inner accepted
      cases found
      exact accepted
    · split at found <;> cases found

/-- A line of code at module scope. -/
theorem traced_code {recorded : List ModuleEntry} {register : CommentRegister}
    (old : ∀ entry ∈ recorded, entry.Traced (seen ++ [line]))
    (within : register.Within (Quoted (seen ++ [line]))) :
    (code recorded register line).Traced (seen ++ [line]) := by
  have offers := offers_last seen line
  obtain ⟨added, behind⟩ := lineRecord_adds offers within
  have all := traced_append old fun entry listed => (added entry listed).traced
  unfold code
  dsimp only
  cases kind : codeKind (splitLineComment line.text).1 with
  | plain => exact ⟨all, behind⟩
  | bodied => exact traced_skipFrom all behind line
  | container header =>
      have name : header.name <:+: line.text :=
        (name_infix_of_matchHeader? (header_of_codeKind kind)).trans (codeOf_isInfix line.text)
      have scope : ContainerScope.Traced (seen ++ [line]) ⟨header.name, register, line.number⟩ :=
        ⟨⟨seen, line, List.prefix_rfl, ⟨name, rfl⟩, within.pending⟩, within⟩
      simp only [inContainer]
      cases header.kind with
      | enum =>
          exact traced_inEnum old scope
            ((enumRules_records.header offers).mono fun _ member => traced_enumMember member)
      | aggregate kind =>
          exact traced_inAggregate old scope kind
            ((aggregateRules_records.header offers).mono fun _ member => traced_aggregateMember member)

/-- One more line keeps every trace. -/
theorem traced_step {walk : ModuleWalk} (traced : walk.Traced seen) :
    (walk.step line).Traced (seen ++ [line]) := by
  have offers := offers_last seen line
  obtain ⟨old, inMode⟩ := traced.mono (List.prefix_append seen [line])
  obtain ⟨recorded, mode⟩ := walk
  cases mode with
  | module reader =>
      cases reads : reader.read? line.text with
      | some next =>
          rw [step_read reads]
          exact ⟨old, CommentReader.Within.read? inMode offers reads⟩
      | none =>
          rw [step_code reads]
          exact traced_code old (CommentReader.Within.register inMode)
  | skipping register balance opened unclosed =>
      simp only [step]
      split
      · exact ⟨old, inMode⟩
      · exact traced_skip old inMode _ _
  | aggregate kind scope state =>
      apply traced_inAggregate old inMode.1
      exact aggregateRules_records.step inMode.2 offers fun _ member => traced_aggregateMember member
  | enum scope state =>
      apply traced_inEnum old inMode.1
      exact enumRules_records.step inMode.2 offers fun _ member => traced_enumMember member

end Steps

theorem traced_read (lines : List Line) : (start.read lines).Traced lines := by
  induction lines using List.reverseRecOn with
  | nil => exact ⟨nofun, CommentRegister.within_empty⟩
  | append_singleton seen line ih =>
      rw [read_append]
      exact traced_step ih

theorem Traced.entries {lines : List Line} {walk : ModuleWalk} (traced : walk.Traced lines) :
    ∀ entry ∈ walk.entries, entry.Traced lines := by
  obtain ⟨recorded, mode⟩ := walk
  obtain ⟨old, inMode⟩ := traced
  cases mode with
  | module reader => exact traced_append old nofun
  | skipping register balance opened unclosed => exact traced_append old nofun
  | aggregate kind scope state =>
      exact traced_append old (inMode.1.aggregate kind inMode.2.members)
  | enum scope state => exact traced_append old (inMode.1.enum inMode.2.members)

end ModuleWalk

theorem traced_moduleEntries (lines : List Line) :
    ∀ entry ∈ moduleEntries .empty lines, entry.Traced lines := by
  rw [ModuleWalk.moduleEntries_eq_read]
  exact (ModuleWalk.traced_read lines).entries

/-! ### Sources -/

/-- The line of a source with a number. Lines are numbered from one. -/
def Text.HasLine (source : Text) (number : Int) (text : Text) : Prop :=
  ∃ position : Nat, (Text.lines source)[position]? = some text ∧ number = position + 1

/-- A declaration stands on the line of a source with its number, and each paragraph of its comment is a piece
of that line or of an earlier one. -/
def Text.Backs (source : Text) (number : Int) (comments : List Text) (stands : Text → Prop) : Prop :=
  ∃ text, source.HasLine number text ∧ stands text ∧
    ∀ paragraph ∈ comments, ∃ earlier other, source.HasLine earlier other ∧ earlier ≤ number ∧
      paragraph <:+: other

/-- A field stands on a line, up to its final semicolon. -/
def FieldDoc.QuotedFrom (declared : FieldDoc) (text : Text) : Prop :=
  ∃ piece, piece <:+: text ∧ declared.declaration = piece ++ [';']

/-- Every part of the documentation of a module is taken from the source, and from nowhere behind the line
that declares it. -/
structure ModuleDoc.QuotedFrom (module : ModuleDoc) (file : FilePath) (source : Text) : Prop where
  functions : ∀ declared ∈ module.functions,
    source.Backs declared.line declared.comments declared.QuotedFrom
  aggregates : ∀ aggregate ∈ module.aggregates,
    source.Backs aggregate.line aggregate.comments (aggregate.name <:+: ·)
  methods : ∀ aggregate ∈ module.aggregates, ∀ declared ∈ aggregate.methods,
    source.Backs declared.line declared.comments declared.QuotedFrom
  fields : ∀ aggregate ∈ module.aggregates, ∀ declared ∈ aggregate.fields,
    source.Backs declared.line declared.comments declared.QuotedFrom
  enums : ∀ enum ∈ module.enums, source.Backs enum.line enum.comments (enum.name <:+: ·)
  members : ∀ enum ∈ module.enums, ∀ declared ∈ enum.members,
    source.Backs declared.line declared.comments fun text =>
      declared.name <:+: text ∧ declared.value <:+: text
  imports : ∀ declaration ∈ module.imports, ∃ number text, source.HasLine number text ∧
    declaration = codeOf (Text.trim text)
  name : (module.name = file.stem ∧ module.comments = []) ∨ ∃ number,
    source.Backs number module.comments fun text =>
      moduleName? (codeOf (Text.trim text)) = some module.name ∧ module.name <:+: text

theorem getElem?_numberedLines (number : Nat) (texts : List Text) (position : Nat) :
    (numberedLines number texts)[position]? =
      texts[position]?.map fun text => ⟨number + position, Text.trim text⟩ := by
  induction texts generalizing number position with
  | nil => rfl
  | cons text rest ih =>
      cases position with
      | zero => rfl
      | succ position =>
          rw [numberedLines, List.getElem?_cons_succ, List.getElem?_cons_succ, ih]
          congr 2
          funext other
          rw [Nat.add_assoc, Nat.add_comm 1]

/-- The numbered lines of a source are its lines, trimmed. -/
theorem exists_line_of_sourceLines {source : Text} {position : Nat} {line : Line}
    (found : (sourceLines source)[position]? = some line) :
    ∃ text, source.HasLine line.number text ∧ line = ⟨position + 1, Text.trim text⟩ := by
  unfold sourceLines at found
  rw [getElem?_numberedLines] at found
  obtain ⟨text, here, equal⟩ := Option.map_eq_some_iff.mp found
  rw [Nat.add_comm] at equal
  refine ⟨text, ⟨position, here, ?_⟩, equal.symm⟩
  rw [← equal]
  push_cast
  rfl

/-- A trace in the numbered lines of a source leads to its lines as they are written. -/
theorem Traced.exists_backs {source : Text} {comments : List Text} {stands : Line → Prop}
    (traced : Traced (sourceLines source) comments stands) :
    ∃ line text, stands line ∧ line.text = Text.trim text ∧
      source.Backs line.number comments (text = ·) := by
  obtain ⟨seen, line, early, here, quoted⟩ := traced
  have inSource {position : Nat} (inside : position < (seen ++ [line]).length) :
      (sourceLines source)[position]? = some (seen ++ [line])[position] :=
    List.prefix_iff_getElem?.mp early position inside
  have final : seen.length < (seen ++ [line]).length := by
    rw [List.length_append, List.length_singleton]
    exact Nat.lt_succ_self _
  have last : (sourceLines source)[seen.length]? = some line := by
    rw [inSource final, List.getElem_concat_length rfl]
  obtain ⟨text, hasLine, equal⟩ := exists_line_of_sourceLines last
  refine ⟨line, text, here, congrArg Line.text equal, text, hasLine, rfl, ?_⟩
  intro paragraph member
  obtain ⟨other, inside, piece⟩ := quoted paragraph member
  obtain ⟨position, within, found⟩ := List.getElem_of_mem inside
  obtain ⟨written, hasOther, same⟩ := exists_line_of_sourceLines ((inSource within).trans (by rw [found]))
  refine ⟨other.number, written, hasOther, ?_, ?_⟩
  · rw [equal, same]
    rw [List.length_append, List.length_singleton] at within
    exact_mod_cast within
  · rw [same] at piece
    exact piece.trans (Text.trim_isInfix written)

theorem Traced.backs {source : Text} {comments : List Text} {stands : Line → Prop} {number : Int}
    {parts : Text → Prop} (traced : Traced (sourceLines source) comments stands)
    (numbers : ∀ line, stands line → number = line.number)
    (shows : ∀ line text, stands line → line.text <:+: text → parts text) :
    source.Backs number comments parts := by
  obtain ⟨line, text, here, trimmed, written, hasLine, same, quoted⟩ := traced.exists_backs
  have inside : line.text <:+: text := by
    rw [trimmed]
    exact Text.trim_isInfix text
  rw [numbers line here]
  refine ⟨written, hasLine, ?_, quoted⟩
  rw [← same]
  exact shows line text here inside

/-- Nothing in the documentation of a source is made up. Names, parameters, words of types, declarations, values
and imports are pieces of the lines that the documentation points to, and comments are pieces of these lines or
of earlier ones. -/
theorem extractModule_quotedFrom (file : FilePath) (source : Text) :
    (extractModule file source).QuotedFrom file source := by
  have traces := traced_moduleEntries (sourceLines source)
  have aggregates {aggregate : AggregateDoc}
      (member : aggregate ∈ (extractModule file source).aggregates) :
      aggregate.Traced (sourceLines source) := traces _ (mem_of_mem_aggregates member)
  have enums {enum : EnumDoc} (member : enum ∈ (extractModule file source).enums) :
      enum.Traced (sourceLines source) := traces _ (mem_of_mem_enums member)
  constructor
  case functions =>
    intro declared member
    have traced : Traced _ _ _ := traces _ (mem_of_mem_functions member)
    exact traced.backs (fun line on => on.number) fun line text on inside => on.quotedFrom.mono inside
  case aggregates =>
    intro aggregate member
    exact (aggregates member).header.backs (fun line on => on.2) fun line text on inside =>
      on.1.trans inside
  case methods =>
    intro aggregate member declared inside
    have traced : Traced _ _ _ := (aggregates member).methods declared inside
    exact traced.backs (fun line on => FunctionDoc.DeclaredOn.number on) fun line text on within =>
      (FunctionDoc.DeclaredOn.quotedFrom on).mono within
  case fields =>
    intro aggregate member declared inside
    have traced : Traced _ _ _ := (aggregates member).fields declared inside
    exact traced.backs (fun line on => FieldDoc.DeclaredOn.number on) fun line text on within => by
      obtain ⟨piece, part, written⟩ := FieldDoc.DeclaredOn.statement on
      exact ⟨piece, part.trans within, written⟩
  case enums =>
    intro enum member
    exact (enums member).header.backs (fun line on => on.2) fun line text on inside =>
      on.1.trans inside
  case members =>
    intro enum member declared inside
    have traced : Traced _ _ _ := (enums member).members declared inside
    exact traced.backs (fun line on => on.number) fun line text on within =>
      ⟨on.name.trans within, on.value.trans within⟩
  case imports =>
    intro declaration member
    obtain ⟨line, inside, written⟩ := traces _ (mem_of_mem_imports member)
    obtain ⟨position, here⟩ := List.mem_iff_getElem?.mp inside
    obtain ⟨text, hasLine, equal⟩ := exists_line_of_sourceLines here
    refine ⟨line.number, text, hasLine, ?_⟩
    rw [written, equal]
  case name =>
    rcases declared_of_ofEntries file (moduleEntries .empty (sourceLines source)) with unnamed | declared
    · exact .inl unnamed
    · obtain ⟨line, text, named, trimmed, backs⟩ := Traced.exists_backs (traces _ declared)
      obtain ⟨written, hasLine, same, quoted⟩ := backs
      refine .inr ⟨line.number, written, hasLine, ?_, quoted⟩
      rw [trimmed] at named
      rw [← same]
      exact ⟨named, (moduleName?_isInfix named).trans (codeOf_trim_isInfix text)⟩

end DocSite
