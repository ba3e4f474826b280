/-
Where the paragraphs of a member's comment come from.

A paragraph stands in the trailing comment of the member's own line, or in a comment from which only comments,
repetition markers and fillers lead to the member, or it is repeated from an earlier member of the same body.
Lines of code in between would have dropped it, so the comment begins at the depth of the member unless lines
of braces alone stand between them.
-/
import DocSite.Proofs.Comment.AggregateVisits
import DocSite.Proofs.Comment.EnumVisits
import DocSite.Proofs.Source.Pieces

namespace DocSite

section Origins

variable {Record : Type}

/-- Whether what waits behind the first of two visits still waits at the second one. In between there are only
comments, repetition markers and fillers, and the two begin at the same balance unless one of the visits in
between moves it. -/
structure WaitsOver (moves : BodyVisit Record → Prop) (run : List (BodyVisit Record))
    (source visit : BodyVisit Record) : Prop where
  quiet : ∀ passed ∈ run, passed.event.brings = true ∨ passed.event = .filler
  level : source.before = visit.before ∨ ∃ passed ∈ run, moves passed

/-- Where a paragraph that a visit declares comes from. The most recent of the earlier visits stands in
front. Of a paragraph that a marker repeats from a line that begins deeper than the members of the body, only the
line is told. -/
inductive Origin (moves : BodyVisit Record → Prop) :
    List (BodyVisit Record) → BodyVisit Record → Text → Prop where
  | trailing {earlier : List (BodyVisit Record)} {visit : BodyVisit Record} {paragraph : Text}
      (own : visit.line.trailing? = some paragraph) : Origin moves earlier visit paragraph
  | comment {run earlier : List (BodyVisit Record)} {source visit : BodyVisit Record}
      {paragraph : Text}
      (waits : WaitsOver moves run source visit)
      (written : paragraph ∈ source.event.paragraphs) :
      Origin moves (run ++ source :: earlier) visit paragraph
  | repeated {run between earlier : List (BodyVisit Record)}
      {marker declared visit : BodyVisit Record} {paragraph : Text}
      (waits : WaitsOver moves run marker visit)
      (ditto : marker.event = .ditto)
      (declares : ∃ trailing, declared.event = .declares trailing)
      (origin : declared.before ≤ 1 → Origin moves earlier declared paragraph) :
      Origin moves (run ++ marker :: (between ++ declared :: earlier)) visit paragraph

/-! ### The balance along a walk -/

/-- Visits of which each begins where the one before it ended. -/
def Linked : Int → List (BodyVisit Record) → Prop
  | _, [] => True
  | balance, visit :: earlier =>
      visit.after = balance ∧ (visit.event.brings = true → visit.after = visit.before) ∧
        Linked visit.before earlier

theorem Walked.linked {comments : Record → List Text} {fits : BodyVisit Record → Prop}
    {balance : Int} {register : CommentRegister} {visits : List (BodyVisit Record)}
    (walked : Walked comments fits balance register visits)
    {earlier before after : List (BodyVisit Record)} {visit : BodyVisit Record}
    (behind : Linked balance earlier) (split : visits = before ++ visit :: after) :
    Linked visit.before (before.reverse ++ earlier) := by
  induction walked generalizing earlier before with
  | nil balance register => cases before <;> cases split
  | @cons balance register first later starts level fit records filled further ih =>
      cases before with
      | nil =>
          cases split
          rw [starts]
          exact behind
      | cons earliest before =>
          cases split
          rw [List.reverse_cons, List.append_assoc]
          refine ih ⟨rfl, ?_, ?_⟩ rfl
          · intro brings
            rw [level brings, starts]
          · rw [starts]
            exact behind

/-- Behind a comment or a marker the balance stays where it is if no visit that begins there moves it. -/
theorem Linked.still {balance : Int} {run earlier : List (BodyVisit Record)} {source : BodyVisit Record}
    (linked : Linked balance (run ++ source :: earlier)) (brings : source.event.brings = true)
    (stays : ∀ passed ∈ run, passed.before = source.before → passed.after = passed.before) :
    source.before = balance ∧ ∀ passed ∈ run, passed.before = source.before := by
  induction run generalizing balance with
  | nil =>
      obtain ⟨ends, level, -⟩ := linked
      exact ⟨(level brings).symm.trans ends, List.forall_mem_nil _⟩
  | cons visit run ih =>
      obtain ⟨ends, -, further⟩ := linked
      obtain ⟨stays, staysBefore⟩ := List.forall_mem_cons.mp stays
      obtain ⟨begins, others⟩ := ih further staysBefore
      have level := stays begins.symm
      exact ⟨begins.trans (level.symm.trans ends), List.forall_mem_cons.mpr ⟨begins.symm, others⟩⟩

/-! ### From paragraphs to origins -/

theorem mem_of_mem_taken {buffer : List Text} {trailing : Option Text} {paragraph : Text}
    (member : paragraph ∈ CommentEvent.taken buffer trailing) :
    paragraph ∈ buffer ∨ trailing = some paragraph := by
  unfold CommentEvent.taken at member
  split at member
  · exact .inr (Option.mem_toList.mp member)
  · exact .inl (mem_of_mem_trimEmptyLines member)

theorem mem_replayOne {last buffer : List Text} {event : CommentEvent} {paragraph : Text}
    (member : paragraph ∈ CommentEvent.replayOne last buffer event) :
    (event.brings = true ∧ (paragraph ∈ event.paragraphs ∨ event = .ditto ∧ paragraph ∈ last)) ∨
      paragraph ∈ buffer := by
  cases event with
  | prose paragraphs =>
      rcases List.mem_append.mp member with waiting | written
      · exact .inr waiting
      · exact .inl ⟨rfl, .inl written⟩
  | block paragraphs => exact .inl ⟨rfl, .inl member⟩
  | ditto => exact .inl ⟨rfl, .inr ⟨rfl, member⟩⟩
  | _ => exact .inr member

/-- What waits was written in the run, or a marker in the run has brought it. -/
theorem mem_replay_runOf {last : List Text} {earlier : List (BodyVisit Record)} {paragraph : Text}
    (member : paragraph ∈ CommentEvent.replay last
      (CommentEvent.runOf (earlier.map fun visit => visit.event))) :
    ∃ run source older, earlier = run ++ source :: older ∧
      (∀ passed ∈ run, passed.event.keeps = true) ∧ source.event.brings = true ∧
        (paragraph ∈ source.event.paragraphs ∨ source.event = .ditto ∧ paragraph ∈ last) := by
  induction earlier with
  | nil => cases member
  | cons visit older ih =>
      rw [List.map_cons] at member
      cases keepsIt : visit.event.keeps with
      | false =>
          rw [CommentEvent.runOf_cons_of_drops _ keepsIt] at member
          cases member
      | true =>
          rw [CommentEvent.runOf_cons_of_keeps _ keepsIt, CommentEvent.replay_append] at member
          rcases mem_replayOne member with ⟨brings, told⟩ | waiting
          · exact ⟨[], visit, older, rfl, nofun, brings, told⟩
          · obtain ⟨run, source, rest, split, kept, brings, told⟩ := ih waiting
            exact ⟨visit :: run, source, rest, by rw [split, List.cons_append],
              List.forall_mem_cons.mpr ⟨keepsIt, kept⟩, brings, told⟩

/-- What was last handed out was handed to an earlier declaration. -/
theorem mem_lastHanded {earlier : List (BodyVisit Record)} {paragraph : Text}
    (member : paragraph ∈ CommentEvent.lastHanded (earlier.map fun visit => visit.event)) :
    ∃ between declared older trailing, earlier = between ++ declared :: older ∧
      declared.event = .declares trailing ∧
        paragraph ∈ CommentEvent.handed (older.map fun visit => visit.event) trailing := by
  induction earlier with
  | nil => cases member
  | cons visit older ih =>
      have before (handed : paragraph ∈ CommentEvent.lastHanded
          (older.map fun visit => visit.event)) :
          ∃ between declared rest trailing, visit :: older = between ++ declared :: rest ∧
            declared.event = .declares trailing ∧
              paragraph ∈ CommentEvent.handed (rest.map fun visit => visit.event) trailing := by
        obtain ⟨between, declared, rest, trailing, split, told⟩ := ih handed
        exact ⟨visit :: between, declared, rest, trailing, by rw [split, List.cons_append], told⟩
      rw [List.map_cons] at member
      cases event : visit.event with
      | declares trailing =>
          rw [event] at member
          unfold CommentEvent.lastHanded at member
          dsimp only at member
          split at member
          · exact before member
          · exact ⟨[], visit, older, trailing, rfl, event, member⟩
      | header =>
          rw [event] at member
          cases member
      | _ =>
          rw [event] at member
          exact before member

theorem lastHanded_append_of_keeps {run : List (BodyVisit Record)} (older : List (BodyVisit Record))
    (kept : ∀ passed ∈ run, passed.event.keeps = true) :
    CommentEvent.lastHanded ((run ++ older).map fun visit => visit.event) =
      CommentEvent.lastHanded (older.map fun visit => visit.event) := by
  induction run with
  | nil => rfl
  | cons visit run ih =>
      rw [List.cons_append, List.map_cons, CommentEvent.lastHanded_cons_of_keeps _
        (kept visit List.mem_cons_self)]
      exact ih fun passed member => kept passed (List.mem_cons_of_mem visit member)

/-- Every paragraph that a visit hands out has an origin, where what waits does so as `WaitsOver` says. -/
theorem origin_of_mem_handed {moves : BodyVisit Record → Prop} {history : List (BodyVisit Record)}
    (declared : ∀ passed ∈ history, ∀ trailing, passed.event = .declares trailing →
      trailing = passed.line.trailing?)
    (waits : ∀ later visit run source older, history = later ++ visit :: (run ++ source :: older) →
      visit.before ≤ 1 → (∀ passed ∈ run, passed.event.keeps = true) → source.event.brings = true →
        WaitsOver moves run source visit)
    {later earlier : List (BodyVisit Record)} {visit : BodyVisit Record}
    (split : history = later ++ visit :: earlier) (shallow : visit.before ≤ 1) {paragraph : Text}
    (member : paragraph ∈ CommentEvent.handed (earlier.map fun passed => passed.event)
      visit.line.trailing?) : Origin moves earlier visit paragraph := by
  induction measured : earlier.length using Nat.strongRecOn generalizing later earlier visit with
  | ind size ih =>
      subst measured
      rcases mem_of_mem_taken member with waiting | own
      · obtain ⟨run, source, older, rfl, kept, brings, told⟩ := mem_replay_runOf waiting
        have waitsHere := waits later visit run source older split shallow kept brings
        rcases told with written | ⟨ditto, remembered⟩
        · exact .comment waitsHere written
        · have passedAll : ∀ passed ∈ run ++ [source], passed.event.keeps = true := by
            intro passed inRun
            rcases List.mem_append.mp inRun with first | last
            · exact kept passed first
            · rw [List.mem_singleton.mp last, ditto]
              rfl
          have regrouped : run ++ source :: older = (run ++ [source]) ++ older := by
            rw [List.append_assoc, List.singleton_append]
          rw [regrouped, lastHanded_append_of_keeps older passedAll] at remembered
          obtain ⟨between, first, oldest, trailing, rfl, declares, handed⟩ := mem_lastHanded remembered
          have further : history = (later ++ visit :: (run ++ source :: between)) ++ first :: oldest := by
            rw [split]
            simp only [List.append_assoc, List.cons_append]
          have inHistory : first ∈ history := by
            rw [further]
            exact List.mem_append_right _ List.mem_cons_self
          have shorter : oldest.length < (run ++ source :: (between ++ first :: oldest)).length := by
            simp only [List.length_append, List.length_cons]
            omega
          rw [declared first inHistory trailing declares] at handed
          exact .repeated waitsHere ditto ⟨trailing, declares⟩ fun shallowToo =>
            ih oldest.length shorter further shallowToo handed rfl
      · exact .trailing own

/-- In a walk over a body, every paragraph of what a visit records has an origin. -/
theorem Walked.origin {comments : Record → List Text} {fits moves : BodyVisit Record → Prop}
    {start : Int} {before after : List (BodyVisit Record)} {visit : BodyVisit Record}
    (walked : Walked comments fits start .empty (before ++ visit :: after))
    (declared : ∀ visit, fits visit → ∀ trailing, visit.event = .declares trailing →
      trailing = visit.line.trailing?)
    (waits : ∀ older source run reached later, before ++ [visit] = older ++ source :: (run ++ reached :: later) →
      Linked reached.before (run.reverse ++ source :: older.reverse) → reached.before ≤ 1 →
        (∀ passed ∈ run, passed.event.keeps = true) → source.event.brings = true →
          WaitsOver moves run.reverse source reached)
    (shallow : visit.before ≤ 1) {record : Record} (recorded : record ∈ visit.records) {paragraph : Text}
    (written : paragraph ∈ comments record) : Origin moves before.reverse visit paragraph := by
  have placed : (before ++ visit :: after).map BodyVisit.toVisit =
      before.map BodyVisit.toVisit ++ visit.toVisit :: after.map BodyVisit.toVisit := by
    rw [List.map_append, List.map_cons]
  have handed := (walked.threaded.comments_eq_handed CommentRegister.remembers_empty placed recorded
    rfl).2
  have history : historyOf (before.map BodyVisit.toVisit) =
      before.reverse.map fun passed => passed.event := by
    unfold historyOf
    rw [List.map_map, List.map_reverse]
    rfl
  rw [List.append_nil, history] at handed
  rw [handed] at written
  refine @origin_of_mem_handed _ _ (visit :: before.reverse) ?_ ?_ [] _ _ rfl shallow _ written
  · intro passed inHistory
    apply declared passed
    apply walked.fit
    rcases List.mem_cons.mp inHistory with rfl | earlier
    · exact List.mem_append_right _ List.mem_cons_self
    · exact List.mem_append_left _ (List.mem_reverse.mp earlier)
  · intro later reached run source older split shallowToo kept brings
    -- The history read from its beginning.
    have turned := congrArg List.reverse split
    simp only [List.reverse_cons, List.reverse_reverse, List.reverse_append, List.append_assoc,
      List.cons_append, List.nil_append] at turned
    have linked : Linked reached.before ((older.reverse ++ source :: run.reverse).reverse ++ []) := by
      refine walked.linked trivial (show before ++ visit :: after = _ ++ reached :: (later.reverse ++ after) from ?_)
      have whole : before ++ visit :: after = (before ++ [visit]) ++ after := by
        rw [List.append_assoc, List.singleton_append]
      rw [whole, turned]
      simp only [List.append_assoc, List.cons_append]
    have keptToo : ∀ passed ∈ run.reverse, passed.event.keeps = true :=
      fun passed inRun => kept passed (List.mem_reverse.mp inRun)
    have waiting := waits older.reverse source run.reverse reached later.reverse turned (by
      simpa only [List.append_nil, List.reverse_append, List.reverse_cons, List.append_assoc,
        List.singleton_append] using linked) shallowToo keptToo brings
    rwa [List.reverse_reverse] at waiting

end Origins

/-! ### Scans -/

end DocSite
