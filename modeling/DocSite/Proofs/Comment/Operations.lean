/-
Sequences of operations on a register.

A register is driven by operations in any order and with any arguments. Whatever has gone before, the last
comment that it remembers is the most recent one that it returned and that is not empty, no comment that it
returns or keeps waiting begins or ends with an empty line, and a repetition marker brings back exactly what is
remembered. One lemma says what an operation preserves, and the run follows by induction on its operations.
-/
import DocSite.Proofs.Comment.Prose
import DocSite.Proofs.Cursor.Basic

namespace DocSite

/-- A comment without empty lines at its ends; the empty comment is one. -/
structure HasFilledEnds (comments : List Text) : Prop where
  starts : ∀ line ∈ comments.head?, line ≠ []
  ends : ∀ line ∈ comments.getLast?, line ≠ []

theorem hasFilledEnds_nil : HasFilledEnds [] := ⟨nofun, nofun⟩

theorem hasFilledEnds_trimEmptyLines (lines : List Text) : HasFilledEnds (trimEmptyLines lines) := by
  have trimmed := withoutEmptyEnds_trimEmptyLines lines
  constructor
  · rintro line first rfl
    exact trimmed.starts first
  · rintro line last rfl
    exact trimmed.ends last

theorem HasFilledEnds.trimEmptyLines {comments : List Text} (filled : HasFilledEnds comments) :
    DocSite.trimEmptyLines comments = comments :=
  Canonical.trimEmptyLines_eq_self (fun first => filled.starts [] first rfl)
    (fun last => filled.ends [] last rfl)

namespace CommentRegister

/-! ### Operations -/

inductive Operation where
  | beginBlock (paragraphs : List Text)
  | extend (paragraphs : List Text)
  | ditto
  | attach
  /-- A declaration takes what waits, or else the trailing comment of its line. -/
  | attachWith (trailing : Text)
  /-- The comment or the marker at a position in some lines is read, if there is one. -/
  | consume (lines : List Text) (position : Nat)
  | discard
  | reset
  deriving DecidableEq, Repr

def perform (register : CommentRegister) : Operation → Option (List Text) × CommentRegister
  | .beginBlock paragraphs => (none, register.beginBlock paragraphs)
  | .extend paragraphs => (none, register.extend paragraphs)
  | .ditto => (none, register.ditto)
  | .attach => (some register.attach.1, register.attach.2)
  | .attachWith trailing =>
      (some (register.attachWith trailing).1, (register.attachWith trailing).2)
  | .consume lines position =>
      match Cursor.linesFrom lines position with
      | [] => (none, register)
      | first :: rest => (none, ((register.consume? first rest).map Prod.fst).getD register)
  | .discard => (none, register.discard)
  | .reset => (none, .empty)

def behind (operations : List Operation) : CommentRegister :=
  operations.foldl (fun register operation => (register.perform operation).2) .empty

abbrev Performed := Operation × Option (List Text)

def performed (register : CommentRegister) : List Operation → List Performed
  | [] => []
  | operation :: later =>
      (operation, (register.perform operation).1) :: (register.perform operation).2.performed later

def filledReturn? (returned : Option (List Text)) : Option (List Text) :=
  returned.filter fun comments => !comments.isEmpty

/-- The most recent comment that was returned since the last reset and is not empty. -/
def lastReturned (history : List Performed) : List Text :=
  ((history.reverse.takeWhile fun step => step.1 != .reset).findSome? fun step =>
    filledReturn? step.2).getD []

theorem getD_filledReturn?_self (comments : List Text) :
    (filledReturn? (some comments)).getD comments = comments := by
  unfold filledReturn?
  cases nothing : comments.isEmpty <;> simp [Option.filter, nothing]

theorem behind_concat (operations : List Operation) (operation : Operation) :
    behind (operations ++ [operation]) = ((behind operations).perform operation).2 := by
  unfold behind
  rw [List.foldl_append]
  rfl

theorem performed_append (register : CommentRegister) (earlier later : List Operation) :
    register.performed (earlier ++ later) = register.performed earlier ++
      (earlier.foldl (fun register operation => (register.perform operation).2) register).performed later := by
  induction earlier generalizing register with
  | nil => rfl
  | cons operation earlier ih =>
      rw [List.cons_append, performed, performed, ih]
      rfl

theorem performed_concat (operations : List Operation) (operation : Operation) :
    empty.performed (operations ++ [operation]) =
      empty.performed operations ++ [(operation, ((behind operations).perform operation).1)] :=
  performed_append empty operations [operation]

theorem lastReturned_concat_reset (history : List Performed) (returned : Option (List Text)) :
    lastReturned (history ++ [(.reset, returned)]) = [] := by
  unfold lastReturned
  rw [List.reverse_append]
  rfl

theorem lastReturned_concat {history : List Performed} {operation : Operation}
    (noReset : operation ≠ .reset) (returned : Option (List Text)) :
    lastReturned (history ++ [(operation, returned)]) =
      (filledReturn? returned).getD (lastReturned history) := by
  have goesOn : ((operation, returned).1 != Operation.reset) = true := bne_iff_ne.mpr noReset
  unfold lastReturned
  rw [List.reverse_append, List.reverse_singleton, List.singleton_append, List.takeWhile_cons, if_pos goesOn,
    List.findSome?_cons]
  cases filledReturn? returned <;> rfl

/-! ### What an operation preserves -/

/-- What is returned is remembered unless it is empty, and nothing waits any longer. -/
theorem attach_eq (register : CommentRegister) :
    register.attach =
      (register.pending, ⟨[], (filledReturn? (some register.pending)).getD register.last⟩) := by
  unfold attach filledReturn?
  cases nothing : register.pending.isEmpty <;> simp [Option.filter, nothing]

/-- A declaration takes the pending comment of some register that remembers the same. -/
theorem exists_attachWith_eq (register : CommentRegister) (trailing : Text) :
    ∃ waiting : CommentRegister, waiting.last = register.last ∧
      register.attachWith trailing = waiting.attach := by
  unfold attachWith
  split
  · split
    · rename_i text _
      exact ⟨register.beginBlock [text], rfl, rfl⟩
    · exact ⟨register, rfl, rfl⟩
  · exact ⟨register, rfl, rfl⟩

theorem last_consume? {register next : CommentRegister} {first : Line} {rest remaining : List Line}
    (consumed : register.consume? first rest = some (next, remaining)) : next.last = register.last := by
  unfold consume? at consumed
  split at consumed
  · cases consumed
    rfl
  · split at consumed
    · cases consumed
    · dsimp only at consumed
      split at consumed <;> cases consumed <;> rfl

/-- Besides a reset, only what is returned changes what is remembered. -/
theorem last_perform (register : CommentRegister) {operation : Operation} (noReset : operation ≠ .reset) :
    (register.perform operation).2.last =
      (filledReturn? (register.perform operation).1).getD register.last := by
  cases operation with
  | beginBlock paragraphs => rfl
  | extend paragraphs => rfl
  | ditto => rfl
  | attach =>
      change register.attach.2.last = (filledReturn? (some register.attach.1)).getD register.last
      rw [attach_eq]
  | attachWith trailing =>
      obtain ⟨waiting, same, taken⟩ := exists_attachWith_eq register trailing
      change (register.attachWith trailing).2.last =
        (filledReturn? (some (register.attachWith trailing).1)).getD register.last
      rw [taken, attach_eq, same]
  | consume lines position =>
      unfold perform
      dsimp only
      split
      · rfl
      · rename_i first rest _
        cases consumed : register.consume? first rest with
        | none => rfl
        | some parts => exact last_consume? (consumed : _ = some (parts.1, parts.2))
  | discard => rfl
  | reset => exact absurd rfl noReset

theorem hasFilledEnds_perform (register : CommentRegister) (operation : Operation) :
    ∀ comments ∈ (register.perform operation).1, HasFilledEnds comments := by
  cases operation with
  | attach =>
      rintro _ ⟨⟩
      exact hasFilledEnds_trimEmptyLines register.collected
  | attachWith trailing =>
      obtain ⟨waiting, -, taken⟩ := exists_attachWith_eq register trailing
      rintro _ ⟨⟩
      rw [taken]
      exact hasFilledEnds_trimEmptyLines waiting.collected
  | consume lines position =>
      unfold perform
      dsimp only
      split <;> rintro _ ⟨⟩
  | _ => rintro _ ⟨⟩

/-- A register with the operations that have led to it. -/
structure RemembersReturned (register : CommentRegister) (history : List Performed) : Prop where
  last : register.last = lastReturned history
  filled : HasFilledEnds register.last
  returned : ∀ step ∈ history, ∀ comments ∈ step.2, HasFilledEnds comments

theorem remembersReturned_empty : RemembersReturned .empty [] := ⟨rfl, hasFilledEnds_nil, nofun⟩

theorem RemembersReturned.perform {register : CommentRegister} {history : List Performed}
    (remembers : RemembersReturned register history) (operation : Operation) :
    RemembersReturned (register.perform operation).2
      (history ++ [(operation, (register.perform operation).1)]) := by
  have filled := hasFilledEnds_perform register operation
  have returned : ∀ step ∈ history ++ [(operation, (register.perform operation).1)],
      ∀ comments ∈ step.2, HasFilledEnds comments := by
    intro step member
    rcases List.mem_append.mp member with before | here
    · exact remembers.returned step before
    · rw [List.mem_singleton.mp here]
      exact filled
  by_cases reset : operation = .reset
  · subst reset
    exact ⟨(lastReturned_concat_reset history none).symm, hasFilledEnds_nil, returned⟩
  · have last := register.last_perform reset
    refine ⟨?_, ?_, returned⟩
    · rw [last, lastReturned_concat reset, remembers.last]
    · rw [last]
      cases kept : filledReturn? (register.perform operation).1 with
      | none => exact remembers.filled
      | some comments => exact filled comments (Option.mem_filter_iff.mp kept).1

/-! ### Runs -/

theorem remembersReturned_behind (operations : List Operation) :
    RemembersReturned (behind operations) (empty.performed operations) := by
  induction operations using List.reverseRecOn with
  | nil => exact remembersReturned_empty
  | append_singleton operations operation ih =>
      rw [behind_concat, performed_concat]
      exact ih.perform operation

/-- Operations after which nothing waits. -/
def Operation.clears : Operation → Bool
  | .attach => true
  | .attachWith _ => true
  | .discard => true
  | .reset => true
  | _ => false

theorem collected_perform (register : CommentRegister) {operation : Operation}
    (clears : operation.clears = true) : (register.perform operation).2.collected = [] := by
  cases operation with
  | attach => rfl
  | attachWith trailing =>
      obtain ⟨waiting, -, taken⟩ := exists_attachWith_eq register trailing
      change (register.attachWith trailing).2.collected = []
      rw [taken]
      rfl
  | discard => rfl
  | reset => rfl
  | _ => cases clears

/-- After any operations on a new register: it remembers the last comment that it returned and that is not
empty, all comments have filled ends, a repetition marker brings back what is remembered and leaves it so, and
nothing waits behind a declaration, a line that drops the comment or a reset. -/
theorem operations_remembered (operations : List Operation) :
    (behind operations).last = lastReturned (empty.performed operations) ∧
      (∀ step ∈ empty.performed operations, ∀ comments ∈ step.2, HasFilledEnds comments) ∧
      HasFilledEnds (behind operations).pending ∧
      (behind (operations ++ [.ditto])).attach.1 = (behind operations).last ∧
      (behind (operations ++ [.ditto, .attach])).last = (behind operations).last ∧
      ∀ operation : Operation, operation.clears = true →
        (behind (operations ++ [operation])).attach.1 = [] := by
  have remembers := remembersReturned_behind operations
  have repeated : (behind (operations ++ [.ditto])).attach.1 = (behind operations).last := by
    rw [behind_concat]
    exact remembers.filled.trimEmptyLines
  refine ⟨remembers.last, remembers.returned, hasFilledEnds_trimEmptyLines _, repeated, ?_, ?_⟩
  · have kept : (behind (operations ++ [.ditto])).last = (behind operations).last := by
      rw [behind_concat]
      rfl
    rw [attach_eq] at repeated
    rw [List.append_cons, behind_concat]
    change (behind (operations ++ [.ditto])).attach.2.last = _
    rw [attach_eq, kept]
    dsimp only at repeated ⊢
    rw [repeated, getD_filledReturn?_self]
  · intro operation clears
    rw [behind_concat]
    change trimEmptyLines ((behind operations).perform operation).2.collected = []
    rw [collected_perform _ clears]
    rfl

end CommentRegister
end DocSite
