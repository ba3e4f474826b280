/-
The comment of a declaration is the run before it.

The run of a declaration is the longest list of comments, repetition markers and fillers that the walk of its
scope visits directly before it. The comment is what the run leaves when it is replayed from an empty
buffer; a marker stands for the last comment that a declaration of the same scope was handed. This holds at
module scope and on the lines of every recorded aggregate, over all sources.
-/
import DocSite.Proofs.Comment.ModuleVisits

namespace DocSite

section Runs

variable {Record : Type} (comments? : Record → Option (List Text))
  (own? : Record → Line → Option Text)

/-- Every comment that visits record is told by the visits before it, and by no more of them than stand
behind the last line that drops what waits. -/
structure PrecedingRuns (visits : List (Visit Record)) : Prop where
  /-- A run consists of comments, repetition markers and fillers. -/
  plain : ∀ visit ∈ visits, visit.event ≠ .inValue
  handed : ∀ before visit after, visits = before ++ visit :: after →
    ∀ record ∈ visit.records, ∀ found, comments? record = some found →
      visit.event = .declares (own? record visit.line) ∧
        found = CommentEvent.handed (historyOf before) (own? record visit.line)
  undrifted : ∀ before barrier run visit after, visits = before ++ barrier :: run ++ visit :: after →
    barrier.event.keeps = false → (∀ passed ∈ run, passed.event ≠ .ditto) →
      ∀ record ∈ visit.records, ∀ found, comments? record = some found →
        found = CommentEvent.handed (historyOf run) (own? record visit.line)

variable {comments? own?}

theorem historyOf_append (before after : List (Visit Record)) :
    historyOf (before ++ after) = historyOf after ++ historyOf before := by
  unfold historyOf
  rw [List.map_append, List.reverse_append]

theorem Threaded.precedingRuns {visits : List (Visit Record)}
    (threaded : Threaded comments? own? .empty visits)
    (plain : ∀ visit ∈ visits, visit.event ≠ .inValue) : PrecedingRuns comments? own? visits := by
  have handed (before : List (Visit Record)) (visit : Visit Record) (after : List (Visit Record))
      (split : visits = before ++ visit :: after) (record : Record) (member : record ∈ visit.records)
      (found : List Text) (commented : comments? record = some found) :
      visit.event = .declares (own? record visit.line) ∧
        found = CommentEvent.handed (historyOf before) (own? record visit.line) := by
    have told := threaded.comments_eq_handed CommentRegister.remembers_empty split member commented
    rw [List.append_nil] at told
    exact told
  refine ⟨plain, handed, ?_⟩
  intro before barrier run visit after split drops noDitto record member found commented
  have told := (handed _ visit after split record member found commented).2
  have absent : CommentEvent.ditto ∉ historyOf run := by
    intro marked
    obtain ⟨passed, inRun, ditto⟩ := List.mem_map.mp (List.mem_reverse.mp marked)
    exact noDitto passed inRun ditto
  rw [told, historyOf_append, historyOf_cons, List.append_assoc]
  exact CommentEvent.handed_append_of_drops (historyOf before) drops absent _

end Runs

/-! ### The lines of an aggregate -/

theorem precedingRuns_aggregateVisits (first : Line) (rest : List Line) :
    PrecedingRuns (fun member => some member.comments) (fun _ line => line.trailing?)
      ((aggregateVisits first rest).map BodyVisit.toVisit) := by
  obtain ⟨start, walked⟩ := walked_pendingAggregateVisits 0 (first :: rest)
  apply walked.threaded.precedingRuns
  intro visit member
  obtain ⟨inBody, visited, equal⟩ := List.mem_map.mp member
  rw [← equal]
  exact (walked.fit inBody visited).plain

/-- The members that an aggregate records, of which those on the lines of its braces have no comment. -/
structure AggregateDoc.RecordsLines (aggregate : AggregateDoc) (first : Line) (rest : List Line) :
    Prop where
  members : ∃ opening closing : List AggregateMember,
    (∀ member ∈ opening ++ closing, member.comments = []) ∧
      aggregate.methods = (opening ++ (aggregateVisits first rest).flatMap (·.records) ++
        closing).filterMap AggregateMember.method? ∧
      aggregate.fields = (opening ++ (aggregateVisits first rest).flatMap (·.records) ++
        closing).filterMap AggregateMember.field?

theorem recordsLines_of_scanAggregate {kind : AggregateKind} {name : Text} {comments : List Text}
    {first : Line} {rest : List Line} {aggregate : AggregateDoc}
    (scanned : (scanAggregate kind name comments first rest).1 = some aggregate) :
    aggregate.RecordsLines first rest := by
  obtain ⟨opening, closing, silent, equal⟩ := pendingAggregateBody_eq_records 0 (first :: rest)
  unfold scanAggregate aggregateBody at scanned
  dsimp only at scanned
  split at scanned
  · cases scanned
  · cases scanned
    refine ⟨opening, closing, silent, ?_, ?_⟩
    · rw [equal]
      rfl
    · rw [equal]
      rfl

/-! ### Whole sources -/

theorem recordsLines_of_moduleVisits (register : CommentRegister) (lines : List Line) :
    ∀ visit ∈ moduleVisits register lines, ∀ aggregate, .aggregate aggregate ∈ visit.records →
      aggregate.RecordsLines visit.line visit.behind := by
  intro visit member aggregate recorded
  obtain ⟨reached, onLine⟩ := recordedOn_of_moduleVisits register lines visit member _ recorded
  cases onLine with
  | aggregate headed isKind scanned => exact recordsLines_of_scanAggregate scanned

theorem plain_moduleVisits (register : CommentRegister) (lines : List Line) :
    ∀ visit ∈ moduleVisits register lines, visit.event ≠ .inValue := by
  intro visit member
  rcases moduleVisits_cases register lines visit member with comment | ⟨event, _, _⟩
  · rw [comment.1]
    exact CommentEvent.ofComment_ne_inValue visit.line visit.behind
  · rw [event]
    exact moduleEvent_ne_inValue visit.line

/-- In every source, the comment of a declaration that the walk over the module visits, and of a member on a
line that the walk over its aggregate visits, is what the run directly before it hands out. -/
theorem extractModule_precedingRuns (file : FilePath) (source : Text) :
    extractModule file source =
        .ofEntries file ((moduleVisits .empty (sourceLines source)).flatMap Visit.records) ∧
      PrecedingRuns ModuleEntry.comments? ModuleEntry.own?
        (moduleVisits .empty (sourceLines source)) ∧
      ∀ visit ∈ moduleVisits .empty (sourceLines source), ∀ aggregate,
        .aggregate aggregate ∈ visit.records →
          aggregate.RecordsLines visit.line visit.behind ∧
            PrecedingRuns (fun member => some member.comments) (fun _ line => line.trailing?)
              ((aggregateVisits visit.line visit.behind).map BodyVisit.toVisit) := by
  refine ⟨?_, ?_, ?_⟩
  · unfold extractModule extractLines
    rw [moduleEntries_eq_records]
  · exact (threaded_moduleVisits .empty _).precedingRuns (plain_moduleVisits .empty _)
  · intro visit member aggregate recorded
    exact ⟨recordsLines_of_moduleVisits .empty _ visit member aggregate recorded,
      precedingRuns_aggregateVisits visit.line visit.behind⟩

end DocSite
