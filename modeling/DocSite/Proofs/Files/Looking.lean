/-
Looking at a changed workspace.

A path that goes down only leads to the names that it consists of. What is seen there after changes is then told
by what may become of one place: files that may not be written are seen exactly where they were seen before,
with their contents, although the path may lead through directories that have been made in between. What may not
be looked at before may not be looked at afterwards, and nothing else is closed.
-/
import Mathlib.Tactic.SplitIfs
import DocSite.Proofs.Files.Reading

namespace DocSite

def FilePath.GoesDown (path : FilePath) : Prop := ['.', '.'] ∉ path.parts

def FilePath.HasShortParts (path : FilePath) : Prop :=
  ∀ part ∈ path.parts, (encodeUtf8 part).length ≤ nameLimit

instance (path : FilePath) : Decidable path.GoesDown := inferInstanceAs (Decidable (¬_))

instance (path : FilePath) : Decidable path.HasShortParts :=
  inferInstanceAs (Decidable (∀ part ∈ path.parts, _))

namespace FilePath

variable {path next : FilePath} {name : Text}

theorem GoesDown.child (down : path.GoesDown) (ordinary : name ≠ ['.', '.']) : (path.child name).GoesDown := by
  unfold GoesDown FilePath.child
  rw [List.mem_append, List.mem_singleton, not_or]
  exact ⟨down, Ne.symm ordinary⟩

theorem GoesDown.join (down : path.GoesDown) (downNext : next.GoesDown) : (path.join next).GoesDown := by
  unfold FilePath.join
  split
  · rw [GoesDown, List.mem_append, not_or]
    exact ⟨down, downNext⟩
  · exact downNext

theorem HasShortParts.child (short : path.HasShortParts) (fits : (encodeUtf8 name).length ≤ nameLimit) :
    (path.child name).HasShortParts := by
  intro part member
  rcases List.mem_append.mp member with above | last
  · exact short part above
  · rwa [List.mem_singleton.mp last]

theorem HasShortParts.join (short : path.HasShortParts) (shortNext : next.HasShortParts) :
    (path.join next).HasShortParts := by
  unfold FilePath.join
  split
  · intro part member
    exact (List.mem_append.mp member).elim (short part) (shortNext part)
  · exact shortNext

end FilePath

namespace Workspace

open FileNode (Changes Becomes)

def place (workspace : Workspace) (path : FilePath) : List Text := workspace.start path ++ path.parts

section Following

variable {root : FileNode} {reached parts names : List Text}

theorem follow_down (down : ['.', '.'] ∉ parts) (leads : follow root reached parts = .ok names) :
    names = reached ++ parts ∧ ∀ part ∈ parts, (encodeUtf8 part).length ≤ nameLimit := by
  induction parts generalizing reached with
  | nil =>
      rw [follow, Except.ok.injEq] at leads
      refine ⟨by rw [List.append_nil, leads], ?_⟩
      intro part member
      exact absurd member List.not_mem_nil
  | cons part parts ih =>
      rw [List.mem_cons, not_or] at down
      obtain ⟨-, short, further⟩ := follow_cons_eq_ok.mp leads
      rw [if_neg (Ne.symm down.1)] at further
      obtain ⟨equal, shortRest⟩ := ih down.2 further
      refine ⟨by rw [equal, List.append_assoc]; rfl, fun other member => ?_⟩
      rcases List.mem_cons.mp member with rfl | member
      · exact short
      · exact shortRest other member

/-- A way down that cannot be followed leads to nothing, or through a directory that may not be searched. -/
theorem follow_down_cases (root : FileNode) (reached : List Text) (down : ['.', '.'] ∉ parts)
    (short : ∀ part ∈ parts, (encodeUtf8 part).length ≤ nameLimit) :
    follow root reached parts = .ok (reached ++ parts) ∨ follow root reached parts = .error .denied ∨
      (follow root reached parts = .error .notFound ∨ follow root reached parts = .error .notDirectory) ∧
        root.descend? (reached ++ parts) = none := by
  induction parts generalizing reached with
  | nil => exact .inl (by rw [follow, List.append_nil])
  | cons part parts ih =>
      rw [List.mem_cons, not_or] at down
      have fits := short part List.mem_cons_self
      rw [follow, FileNode.descend?_append]
      cases found : root.descend? reached with
      | none => exact .inr (.inr ⟨.inl rfl, rfl⟩)
      | some node =>
          cases node with
          | file content => exact .inr (.inr ⟨.inr rfl, rfl⟩)
          | directory entries rights =>
              have onward := @ih (reached ++ [part]) down.2 fun other member =>
                short other (List.mem_cons_of_mem _ member)
              dsimp only
              cases rights.searches with
              | false => exact .inr (.inl rfl)
              | true =>
                  rw [Bool.not_true, if_neg Bool.false_ne_true, if_neg (Nat.not_lt.mpr fits),
                    if_neg (Ne.symm down.1), ← found, ← FileNode.descend?_append]
                  rwa [List.append_assoc] at onward

section Closed

variable {writable : List Text → Prop} {later : FileNode} (changes : Changes writable root later)
include changes

/-- What changes have added is open. -/
theorem follow_added (down : ['.', '.'] ∉ parts) (absent : root.descend? reached = none) :
    follow later reached parts ≠ .error .denied := by
  induction parts generalizing reached with
  | nil => simp [follow]
  | cons part parts ih =>
      rw [List.mem_cons, not_or] at down
      have becomes := changes.becomes reached
      rw [absent] at becomes
      rw [follow]
      generalize later.descend? reached = node at becomes
      cases becomes with
      | stays => simp
      | written content => simp
      | made entries =>
          dsimp only
          rw [Bool.not_true, if_neg Bool.false_ne_true, if_neg (Ne.symm down.1)]
          split
          · simp
          · refine ih down.2 ?_
            rw [FileNode.descend?_append, absent]
            rfl

/-- Changes neither close a way down nor open it. -/
theorem follow_denied_iff (reached : List Text) (down : ['.', '.'] ∉ parts) :
    follow later reached parts = .error .denied ↔ follow root reached parts = .error .denied := by
  induction parts generalizing reached with
  | nil => exact Iff.rfl
  | cons part parts ih =>
      have added (absent : root.descend? reached = none) := follow_added changes down absent
      rw [List.mem_cons, not_or] at down
      have becomes := changes.becomes reached
      rw [follow, follow] at *
      cases found : root.descend? reached with
      | none => exact iff_of_false (added found) (by simp)
      | some node =>
          rw [found] at becomes
          cases node with
          | file content =>
              generalize later.descend? reached = other at becomes
              cases becomes <;> simp
          | directory entries rights =>
              have same : ∃ after, later.descend? reached = some (.directory after rights) :=
                changes.hasRightsAt ⟨entries, found⟩
              obtain ⟨after, kept⟩ := same
              rw [kept]
              dsimp only
              split
              · exact Iff.rfl
              · split
                · exact Iff.rfl
                · rw [if_neg (Ne.symm down.1)]
                  exact ih _ down.2

end Closed

end Following

section Paths

variable {workspace : Workspace} {path : FilePath}

theorem resolve_down {names : List Text} (down : path.GoesDown) (leads : workspace.resolve path = .ok names) :
    names = workspace.place path ∧ path.HasShortParts := by
  obtain ⟨-, -, followed⟩ := resolve_eq_ok.mp leads
  exact follow_down down followed

/-- What is seen at a path that goes down by short names. -/
theorem node?_down (down : path.GoesDown) (short : path.HasShortParts) :
    workspace.node? path =
      if path.hasNull then .ok none
      else if pathLimit < (encodeUtf8 path.text).length then .error .nameTooLong
      else if follow workspace.root (workspace.start path) path.parts = .error .denied then .error .denied
      else .ok (workspace.root.descend? (workspace.place path)) := by
  cases null : path.hasNull with
  | true =>
      have failed : workspace.resolve path = .error .notFound := by rw [resolve, null, if_pos rfl]
      rw [node?_of_error failed, if_pos rfl]
      rfl
  | false =>
      rw [if_neg Bool.false_ne_true]
      by_cases long : pathLimit < (encodeUtf8 path.text).length
      · have failed : workspace.resolve path = .error .nameTooLong := by
          rw [resolve, null, if_neg Bool.false_ne_true, if_pos long]
        rw [node?_of_error failed, if_pos long, if_pos (.inl rfl)]
      · have resolved : workspace.resolve path = follow workspace.root (workspace.start path) path.parts := by
          rw [resolve, null, if_neg Bool.false_ne_true, if_neg long]
          rfl
        rw [if_neg long]
        rcases follow_down_cases workspace.root (workspace.start path) down short with
          leads | closed | ⟨failed | failed, nothing⟩
        · rw [leads, if_neg nofun, node?_of_resolve (resolved.trans leads), place]
        · rw [if_pos closed, node?_of_error (resolved.trans closed), if_pos (.inr rfl)]
        · rw [failed, if_neg nofun, node?_of_error (resolved.trans failed), place, nothing]
          rfl
        · rw [failed, if_neg nofun, node?_of_error (resolved.trans failed), place, nothing]
          rfl

theorem node?_eq_some {node : FileNode} : workspace.node? path = .ok (some node) ↔
    ∃ names, workspace.resolve path = .ok names ∧ workspace.root.descend? names = some node := by
  cases resolved : workspace.resolve path with
  | error error =>
      rw [node?_of_error resolved]
      cases error <;> simp
  | ok names =>
      rw [node?_of_resolve resolved]
      simp

end Paths

section Changed

variable {writable : List Text → Prop} {before after : Workspace} {path : FilePath}

theorem place_changed (changes : before.ChangesTo writable after) (path : FilePath) :
    after.place path = before.place path := by
  unfold place
  rw [changes.start]

/-- What is seen at a place after changes is what may have become of what was seen before. -/
theorem node?_changed (changes : before.ChangesTo writable after) (down : path.GoesDown)
    (short : path.HasShortParts) :
    (∃ error, before.node? path = .error error ∧ after.node? path = .error error) ∨
      ∃ old new, before.node? path = .ok old ∧ after.node? path = .ok new ∧
        Becomes (writable (before.place path)) old new ∧
          (new = none ∨ before.root.descend? (before.place path) = old) := by
  have closed := follow_denied_iff changes.root (before.start path) down
  rw [node?_down down short, node?_down down short, place_changed changes, changes.start]
  simp only [closed]
  split_ifs
  · exact .inr ⟨none, none, rfl, rfl, .stays none, .inl rfl⟩
  · exact .inl ⟨.nameTooLong, rfl, rfl⟩
  · exact .inl ⟨.denied, rfl, rfl⟩
  · exact .inr ⟨_, _, rfl, rfl, changes.root.becomes (before.place path), .inr rfl⟩

/-- A file that may not be written is seen after changes if and only if it has been seen before. -/
theorem isFile_changed (changes : before.ChangesTo writable after) (down : path.GoesDown)
    (short : path.HasShortParts) (spared : ¬writable (before.place path)) :
    after.isFile path = before.isFile path := by
  unfold isFile
  rcases node?_changed changes down short with ⟨error, old, new⟩ | ⟨old, new, isOld, isNew, becomes, -⟩
  · rw [old, new]
  · rw [isOld, isNew]
    cases becomes with
    | stays => rfl
    | written content permitted => exact absurd permitted spared
    | filled => rfl
    | made => rfl

theorem read_changed (changes : before.ChangesTo writable after) (down : path.GoesDown)
    (spared : ¬writable (before.place path)) (content : Bytes) :
    after.read path = .ok content ↔ before.read path = .ok content := by
  rw [read_eq_ok, read_eq_ok]
  constructor
  · rintro ⟨names, resolved, found⟩
    obtain ⟨equal, short⟩ := resolve_down down resolved
    rw [equal, place_changed changes] at found
    rcases changes.root.file_before found with there | permitted
    · refine ⟨before.place path, ?_, there⟩
      obtain ⟨noNull, fits, -⟩ := resolve_eq_ok.mp resolved
      refine resolve_eq_ok.mpr ⟨noNull, fits, ?_⟩
      rcases follow_down_cases before.root (before.start path) down short with
        leads | closed | ⟨-, nothing⟩
      · exact leads
      · obtain ⟨-, -, leads⟩ := resolve_eq_ok.mp resolved
        rw [changes.start, (follow_denied_iff changes.root _ down).mpr closed] at leads
        cases leads
      · rw [place, nothing] at there
        cases there
    · exact absurd permitted spared
  · rintro ⟨names, resolved, found⟩
    obtain ⟨later, kept, same⟩ := changes.root.file found
    rw [← (resolve_down down resolved).1] at spared
    exact ⟨names, changes.resolve resolved, same spared ▸ kept⟩

end Changed

end Workspace

/-! ### Reading texts -/

theorem Workspace.exists_read_of_isFile {workspace : Workspace} {path : FilePath}
    (looked : workspace.isFile path = .ok true) : ∃ content, workspace.read path = .ok content := by
  unfold isFile at looked
  cases found : workspace.node? path with
  | error error =>
      rw [found] at looked
      cases looked
  | ok node =>
      rw [found] at looked
      rcases node with _ | (content | ⟨entries, rights⟩)
      · cases looked
      · exact ⟨content, read_eq_ok.mpr (node?_eq_some.mp found)⟩
      · cases looked

/-- A file that is not written is read alike after changes. -/
theorem readSource_changed {writable : List Text → Prop} {before after : Workspace} {path : FilePath}
    (changes : before.ChangesTo writable after) (down : path.GoesDown)
    (spared : ¬writable (before.place path)) (isFile : before.isFile path = .ok true) :
    readSource after path = readSource before path := by
  obtain ⟨content, read⟩ := Workspace.exists_read_of_isFile isFile
  unfold readSource
  rw [(Workspace.read_changed changes down spared content).mpr read, read]

end DocSite
