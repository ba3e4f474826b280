/-
What comes of readings.

A reading has a value and a log. Two readings agree when their values are the same and their logs differ in
entries for debugging at most, and readings that are made in the same way of readings that agree do so too.
-/
import DocSite.Files.Reading
import DocSite.Proofs.Files.Operations
import Mathlib.Data.List.Forall2

namespace DocSite

theorem Logged.ext {Value : Type} {first other : Logged Value} (value : first.value = other.value)
    (log : first.log = other.log) : first = other := by
  cases first
  cases other
  cases value
  cases log
  rfl

instance : LawfulMonad Logged :=
  LawfulMonad.mk' Logged
    (fun logged => Logged.ext rfl (List.append_nil _))
    (fun _ _ => Logged.ext rfl (List.nil_append _))
    (fun _ _ _ => Logged.ext rfl (List.append_assoc ..))

def Log.loud (log : Log) : Log := log.filter fun entry => entry.level != .debug

namespace Reading

section Agreement

variable {First Second : Type} {first other : Reading First} {next nextOther : First → Reading Second}

theorem value_bind : (first >>= next).run.value =
    match first.run.value with
    | .ok value => (next value).run.value
    | .error error => .error error := by
  have step : (first >>= next).run.value = Logged.value (ExceptT.bindCont next first.run.value) := rfl
  rw [step]
  cases first.run.value with
  | ok value => rfl
  | error error => rfl

theorem log_bind : (first >>= next).run.log =
    first.run.log ++
      match first.run.value with
      | .ok value => (next value).run.log
      | .error _ => [] := by
  have step : (first >>= next).run.log =
      first.run.log ++ Logged.log (ExceptT.bindCont next first.run.value) := rfl
  rw [step]
  cases first.run.value with
  | ok value => rfl
  | error error => rfl

theorem value_look (answer : Except FileError First) : (look answer).run.value = answer.mapError .file := by
  cases answer <;> rfl

/-- Whether two readings come to the same and log the same, apart from what is for debugging. -/
structure Agree (first other : Reading First) : Prop where
  value : first.run.value = other.run.value
  log : first.run.log.loud = other.run.log.loud

theorem agree_of_eq (same : first = other) : first.Agree other :=
  same ▸ ⟨rfl, rfl⟩

theorem Agree.symm (same : first.Agree other) : other.Agree first :=
  ⟨same.value.symm, same.log.symm⟩

theorem Agree.trans {third : Reading First} (same : first.Agree other) (further : other.Agree third) :
    first.Agree third :=
  ⟨same.value.trans further.value, same.log.trans further.log⟩

theorem agree_bind (same : first.Agree other)
    (further : ∀ value, first.run.value = .ok value → (next value).Agree (nextOther value)) :
    (first >>= next).Agree (other >>= nextOther) := by
  constructor
  · rw [value_bind, value_bind, ← same.value]
    cases found : first.run.value with
    | error error => rfl
    | ok value => exact (further value found).value
  · have begun := same.log
    unfold Log.loud at begun ⊢
    rw [log_bind, log_bind, ← same.value, List.filter_append, List.filter_append, begun]
    cases found : first.run.value with
    | error error => rfl
    | ok value => exact congrArg _ (further value found).log

theorem agree_look {answer otherAnswer : Except FileError First} (same : answer = otherAnswer) :
    (look answer).Agree (look otherAnswer) :=
  agree_of_eq (congrArg look same)

theorem agree_mapM {Item : Type} {items : List Item} {read readOther : Item → Reading First}
    (same : ∀ item ∈ items, (read item).Agree (readOther item)) :
    Agree (items.mapM read) (items.mapM readOther) := by
  induction items with
  | nil => exact agree_of_eq rfl
  | cons item items ih =>
      have further := ih fun other member => same other (List.mem_cons_of_mem _ member)
      rw [List.mapM_cons, List.mapM_cons]
      exact agree_bind (same item List.mem_cons_self) fun value _ =>
        agree_bind further fun values _ => agree_of_eq rfl

theorem agree_findM? {Item : Type} {items : List Item} {test testOther : Item → Reading Bool}
    (same : ∀ item ∈ items, (test item).Agree (testOther item)) :
    Agree (items.findM? test) (items.findM? testOther) := by
  induction items with
  | nil => exact agree_of_eq rfl
  | cons item items ih =>
      have further := ih fun other member => same other (List.mem_cons_of_mem _ member)
      rw [List.findM?, List.findM?]
      refine agree_bind (same item List.mem_cons_self) fun found _ => ?_
      cases found with
      | true => exact agree_of_eq rfl
      | false => exact further

/-- What has been found has passed the test. -/
theorem mem_of_findM? {Item : Type} {items : List Item} {test : Item → Reading Bool} {item : Item}
    (found : (items.findM? test).run.value = .ok (some item)) :
    item ∈ items ∧ (test item).run.value = .ok true := by
  induction items with
  | nil => cases found
  | cons first items ih =>
      rw [List.findM?, value_bind] at found
      cases tested : (test first).run.value with
      | error error =>
          rw [tested] at found
          cases found
      | ok passed =>
          rw [tested] at found
          cases passed with
          | true =>
              cases found
              exact ⟨List.mem_cons_self, tested⟩
          | false => exact (ih found).imp_left (List.mem_cons_of_mem _)

theorem bind_eq_ok_iff {result : Second} : (first >>= next).run.value = .ok result ↔
    ∃ value, first.run.value = .ok value ∧ (next value).run.value = .ok result := by
  rw [value_bind]
  cases first.run.value with
  | error error => simp
  | ok value => simp

section Lists

variable {Item : Type} {items : List Item} {read : Item → Reading First} {values : List First}

/-- The items of a list are read one after the other. -/
theorem mapM_eq_ok_iff : (items.mapM read).run.value = .ok values ↔
    List.Forall₂ (fun item value => (read item).run.value = .ok value) items values := by
  induction items generalizing values with
  | nil =>
      rw [List.forall₂_nil_left_iff]
      exact ⟨fun done => (Except.ok.inj done).symm, fun done => congrArg Except.ok done.symm⟩
  | cons item items ih =>
      rw [List.mapM_cons, bind_eq_ok_iff, List.forall₂_cons_left_iff]
      refine exists_congr fun value => ?_
      rw [bind_eq_ok_iff, ← exists_and_left]
      refine exists_congr fun rest => ?_
      rw [ih]
      exact and_congr_right' (and_congr_right' ⟨fun done => (Except.ok.inj done).symm,
        fun done => congrArg Except.ok done.symm⟩)

theorem exists_of_mem_mapM (done : (items.mapM read).run.value = .ok values) {value : First}
    (member : value ∈ values) : ∃ item ∈ items, (read item).run.value = .ok value := by
  have each := mapM_eq_ok_iff.mp done
  induction each with
  | nil => cases member
  | cons here further ih =>
      rcases List.mem_cons.mp member with rfl | later
      · exact ⟨_, List.mem_cons_self, here⟩
      · obtain ⟨item, isItem, found⟩ := ih (mapM_eq_ok_iff.mpr further) later
        exact ⟨item, List.mem_cons_of_mem _ isItem, found⟩

end Lists

theorem agree_silently (same : first.Agree other) : first.silently.Agree other.silently :=
  ⟨same.value, rfl⟩

end Agreement

end Reading

end DocSite
