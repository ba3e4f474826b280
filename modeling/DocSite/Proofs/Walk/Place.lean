/-
Where a walk over a container stands.

How far a walk over a container goes depends on the braces and on the comments that span lines, but neither on
what the comments say nor on the members. So a walk has a place: the balance of the braces and, once the body
has opened, whether it stands inside a comment. The place behind a line depends on the place in front of it
and on the text of the line alone, for aggregates and enums alike.
-/
import DocSite.Proofs.Comment.Visits
import DocSite.Proofs.Source.Append
import DocSite.Proofs.Walk.Body

namespace DocSite

/-! ### Comments -/

/-- Where a scope stands with its comments, whatever they say. -/
inductive CommentPlace where
  | between
  | block
  | nested (depth : Int)
  deriving DecidableEq

namespace CommentPlace

def behindBlock (body : Text) : CommentPlace :=
  if (Text.cut? "*/".toList body).isSome then .between else .block

def behindNested (depth : Int) : CommentPlace :=
  if depth ≤ 0 then .between else .nested depth

def opened (text : Text) : CommentStyle → CommentPlace
  | .line => .between
  | .block => behindBlock (blockBody text)
  | .nested => behindNested (nestingDelta text)

def read? : CommentPlace → Text → Option CommentPlace
  | .between, text => if isDitto text then some .between else (commentStyle? text).map (opened text)
  | .block, text => some (behindBlock text)
  | .nested depth, text => some (behindNested (depth + nestingDelta text))

end CommentPlace

namespace CommentReader

def place : CommentReader → CommentPlace
  | .idle _ => .between
  | .block _ _ => .block
  | .nested _ depth _ => .nested depth

theorem place_readBlock (register : CommentRegister) (paragraphs : List Text) (body : Text) :
    (readBlock register paragraphs body).place = .behindBlock body := by
  unfold readBlock CommentPlace.behindBlock
  cases Text.cut? "*/".toList body <;> rfl

theorem place_readNested (register : CommentRegister) (depth : Int) (paragraphs : List Text)
    (body : Text) : (readNested register depth paragraphs body).place = .behindNested depth := by
  unfold readNested CommentPlace.behindNested
  split <;> rfl

theorem place_opened (register : CommentRegister) (text : Text) (style : CommentStyle) :
    (opened register text style).place = .opened text style := by
  cases style with
  | line => rfl
  | block => exact place_readBlock register [] (blockBody text)
  | nested => exact place_readNested register (nestingDelta text) [] (text.drop 2)

theorem read?_place (reader : CommentReader) (text : Text) :
    reader.place.read? text = (reader.read? text).map place := by
  cases reader with
  | idle register =>
      simp only [place, CommentPlace.read?, read?]
      by_cases ditto : isDitto text = true
      · rw [if_pos ditto, if_pos ditto]
        rfl
      · rw [if_neg ditto, if_neg ditto, Option.map_map]
        congr 1
        funext style
        exact (place_opened register text style).symm
  | block register paragraphs => exact congrArg some (place_readBlock register paragraphs text).symm
  | nested register depth paragraphs =>
      exact congrArg some (place_readNested register _ paragraphs text).symm

/-- Between comments a line is code exactly if the register of the scope does not take it. -/
theorem read?_between_eq_none_iff (register : CommentRegister) (line : Line) (rest : List Line) :
    CommentPlace.between.read? line.text = none ↔ register.consume? line rest = none := by
  have reads := read?_place (idle register) line.text
  rw [← read?_idle_eq_none_iff, ← Option.map_eq_none_iff (f := place), ← reads]
  rfl

end CommentReader

/-! ### Bodies -/

structure BodyPlace where
  balance : Int
  comment? : Option CommentPlace
  deriving DecidableEq

namespace BodyPlace

def start : BodyPlace := ⟨0, none⟩

def step (place : BodyPlace) (line : Text) : Option BodyPlace :=
  let after := place.balance + braceDelta line
  match place.comment? with
  | none =>
      if opensBrace line then if after ≤ 0 then none else some ⟨after, some .between⟩
      else if endsStatement line then none
      else some ⟨after, none⟩
  | some comment =>
      match comment.read? line with
      | some next => some ⟨place.balance, some next⟩
      | none => if after ≤ 0 then none else some ⟨after, some .between⟩

def through (place : BodyPlace) : List Text → Option BodyPlace
  | [] => some place
  | line :: rest => (place.step line).bind fun next => next.through rest

def behind (place : BodyPlace) : List Line → List Line
  | [] => []
  | line :: rest =>
      match place.step line.text with
      | some next => next.behind rest
      | none => rest

/-- A body that has opened is not closed yet. -/
def Unclosed (place : BodyPlace) : Prop :=
  place.comment?.isSome = true → 0 < place.balance

theorem unclosed_start : start.Unclosed :=
  nofun

/-- What a line that a container goes on behind can be: it opens the body, stands in front of it, is taken by a
comment or is code inside the body. -/
inductive Leads (line : Text) : BodyPlace → BodyPlace → Prop where
  | opens (balance : Int) (opened : opensBrace line = true) (left : 0 < balance + braceDelta line) :
      Leads line ⟨balance, none⟩ ⟨balance + braceDelta line, some .between⟩
  | waits (balance : Int) (unopened : opensBrace line = false) (unended : endsStatement line = false) :
      Leads line ⟨balance, none⟩ ⟨balance + braceDelta line, none⟩
  | comment (balance : Int) {comment next : CommentPlace} (reads : comment.read? line = some next) :
      Leads line ⟨balance, some comment⟩ ⟨balance, some next⟩
  | code (balance : Int) {comment : CommentPlace} (reads : comment.read? line = none)
      (left : 0 < balance + braceDelta line) :
      Leads line ⟨balance, some comment⟩ ⟨balance + braceDelta line, some .between⟩

theorem leads_of_step {place next : BodyPlace} {line : Text} (goes : place.step line = some next) :
    Leads line place next := by
  obtain ⟨balance, comment?⟩ := place
  unfold BodyPlace.step at goes
  cases comment? with
  | none =>
      dsimp only at goes
      split_ifs at goes with opened closed ended
      · cases goes
        exact .opens balance opened (Int.not_le.mp closed)
      · cases goes
        exact .waits balance (eq_false_of_ne_true opened) (eq_false_of_ne_true ended)
  | some comment =>
      dsimp only at goes
      cases reads : comment.read? line with
      | some further =>
          rw [reads] at goes
          cases goes
          exact .comment balance reads
      | none =>
          rw [reads] at goes
          dsimp only at goes
          split_ifs at goes with closed
          cases goes
          exact .code balance reads (Int.not_le.mp closed)

theorem Unclosed.step {place next : BodyPlace} {line : Text} (unclosed : place.Unclosed)
    (goes : place.step line = some next) : next.Unclosed := by
  cases leads_of_step goes with
  | opens balance opened left => exact fun _ => left
  | waits balance unopened unended => exact nofun
  | comment balance reads => exact fun _ => unclosed rfl
  | code balance reads left => exact fun _ => left

end BodyPlace

def BodyState.place {Member : Type} : BodyState Member → BodyPlace
  | .pending balance => ⟨balance, none⟩
  | .inside balance reader _ => ⟨balance, some reader.place⟩

def BodyTurn.place? {Member : Type} : BodyTurn Member → Option BodyPlace
  | .goes state => some state.place
  | .ends _ => none

/-- Rules by which a walk moves from place to place, as long as its body opens at an allowed balance. -/
structure BodyRules.Moves {Member : Type} (rules : BodyRules Member) (allowed : Int → Prop) : Prop where
  header : ∀ line, (rules.header line).place? = BodyPlace.start.step line.text
  pending : ∀ balance line, (opensBrace line.text = true → allowed balance) →
    (rules.pending balance line).place? = BodyPlace.step ⟨balance, none⟩ line.text
  inside : ∀ balance register line, 0 < balance →
    (rules.inside balance register line).2.map Prod.fst =
      if balance + braceDelta line.text ≤ 0 then none else some (balance + braceDelta line.text)

namespace BodyRules.Moves

variable {Member : Type} {rules : BodyRules Member} {allowed : Int → Prop} (moves : rules.Moves allowed)

include moves

theorem stepInside {balance : Int} (positive : 0 < balance) (register : CommentRegister)
    (members : List Member) (line : Line) :
    (rules.stepInside balance register members line).place? =
      if balance + braceDelta line.text ≤ 0 then none
      else some ⟨balance + braceDelta line.text, some .between⟩ := by
  have turn := moves.inside balance register line positive
  unfold BodyRules.stepInside
  generalize rules.inside balance register line = found at turn ⊢
  rcases found with ⟨more, _ | ⟨after, next⟩⟩
  · by_cases closed : balance + braceDelta line.text ≤ 0
    · rw [if_pos closed]
      rfl
    · rw [if_neg closed] at turn
      cases turn
  · by_cases closed : balance + braceDelta line.text ≤ 0
    · rw [if_pos closed] at turn
      cases turn
    · rw [if_neg closed] at turn ⊢
      cases turn
      rfl

/-- The place behind a line is told by the place in front of it. -/
theorem step {state : BodyState Member} {line : Line} (unclosed : state.place.Unclosed)
    (opens : state.place.comment? = none → opensBrace line.text = true → allowed state.place.balance) :
    (rules.step state line).place? = state.place.step line.text := by
  cases state with
  | pending balance => exact moves.pending balance line (opens rfl)
  | inside balance reader members =>
      simp only [BodyRules.step, BodyState.place, BodyPlace.step, CommentReader.read?_place]
      cases reader.read? line.text with
      | some next => rfl
      | none => exact moves.stepInside (unclosed rfl) reader.register members line

end BodyRules.Moves

/-! ### Aggregates and enums -/

theorem code_splitLineComment (line : Text) : (splitLineComment line).1 = codeOf line := rfl

theorem closesBody_eq_decide {balance delta : Int} (positive : 0 < balance) (code : Text) :
    closesBody (balance + delta) delta code = decide (balance + delta ≤ 0) := by
  by_cases closes : closesBody (balance + delta) delta code = true
  · rw [closes, decide_eq_true (nonpositive_of_closesBody closes)]
  · have further := positive_of_not_closesBody positive closes
    rw [eq_false_of_ne_true closes, decide_eq_false (by omega)]

theorem aggregateRules_moves : aggregateRules.Moves fun _ => True := by
  have turn (balance : Int) (line : Line) :
      (pendingAggregateTurn balance line).place? = BodyPlace.step ⟨balance, none⟩ line.text := by
    unfold pendingAggregateTurn BodyPlace.step endsStatement
    simp only [braceDelta_codeOf, opensBrace_codeOf]
    split_ifs <;> rfl
  constructor
  · exact turn 0
  · exact fun balance line _ => turn balance line
  · intro balance register line positive
    simp only [aggregateRules, insideAggregate, code_splitLineComment, braceDelta_codeOf,
      closesBody_eq_decide positive, decide_eq_true_eq]
    split_ifs <;> rfl

theorem place?_enumTurn (balance : Int) (closed : Bool) (found : List EnumMemberDoc × CommentRegister) :
    (enumTurn balance closed found).place? =
      if closed then none else some ⟨balance, some .between⟩ := by
  cases closed <;> rfl

/-- Code that opens a brace without leaving one open has a closing brace. -/
theorem contains_closer {code : Text} (opens : opensBrace code = true) (closed : braceDelta code ≤ 0) :
    code.contains '\x7d' = true := by
  have opener : 0 < (scanCode code).bare.count '\x7b' :=
    List.count_pos_iff.mpr (List.contains_iff_mem.mp opens)
  have closer : 0 < (scanCode code).bare.count '\x7d' := by
    unfold braceDelta at closed
    simp only [Int.ofNat_eq_natCast] at closed
    omega
  exact List.contains_iff_mem.mpr
    ((CodeScan.bare_sublist .code false code).mem (List.count_pos_iff.mp closer))

theorem closesBody_of_opens {line : Text} (opens : opensBrace line = true) :
    closesBody (braceDelta line) (braceDelta line) (codeOf line) = decide (braceDelta line ≤ 0) := by
  unfold closesBody
  by_cases closed : braceDelta line ≤ 0
  · rw [contains_closer ((opensBrace_codeOf line).trans opens) ((braceDelta_codeOf line).trans_le closed),
      Bool.or_true, Bool.and_true]
  · rw [decide_eq_false closed, Bool.false_and]

theorem enumRules_moves : enumRules.Moves fun balance => balance = 0 := by
  constructor
  · intro line
    simp only [enumRules, enumHeaderTurn, BodyPlace.start, BodyPlace.step, endsStatement,
      braceDelta_codeOf, opensBrace_codeOf, code_splitLineComment, Int.zero_add]
    by_cases opens : opensBrace line.text = true
    · simp only [opens, if_true, place?_enumTurn, decide_eq_true_eq]
    · simp only [opens, Bool.false_eq_true, if_false]
      split_ifs <;> rfl
  · intro balance line level
    have ended : Text.endsWith ';' (codeOf line.text) = endsStatement line.text := rfl
    simp only [enumRules, pendingEnumTurn, BodyPlace.step, code_splitLineComment, opensBrace_codeOf,
      braceDelta_codeOf, ended]
    by_cases opens : opensBrace line.text = true
    · simp only [opens, if_true, place?_enumTurn, level opens, Int.zero_add, closesBody_of_opens opens,
        decide_eq_true_eq]
    · simp only [opens, Bool.false_eq_true, if_false]
      split_ifs <;> rfl
  · intro balance register line positive
    simp only [enumRules, insideEnum, code_splitLineComment, braceDelta_codeOf,
      closesBody_eq_decide positive, decide_eq_true_eq]
    split_ifs <;> rfl

end DocSite
