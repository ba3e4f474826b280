/-
Links in code.

Code is cut into maximal runs of word characters and of other characters, and the runs that are names in the table
of links become links. So written code is the escaped code with tags around these runs: the tags stand around all
maximal words with an address and around nothing else, and without the tags the escaped code is left, each of its
characters once.
-/
import DocSite.Page.Links
import DocSite.Proofs.Cursor.Signature
import DocSite.Proofs.Page.Tags
import DocSite.Proofs.Text.Words

namespace DocSite

open Cursor (slice slice_append_drop slice_append_slice slice_middle slice_self)

/-! ### Words in code -/

def IsWordBetween (code : Text) (start stop : Nat) : Prop :=
  ∀ position character, start ≤ position → position < stop → code[position]? = some character →
    isWordChar character = true

structure IsWordRun (code : Text) (start stop : Nat) : Prop where
  filled : start < stop
  inside : stop ≤ code.length
  word : IsWordBetween code start stop
  longest : ∀ first last, first ≤ start → stop ≤ last → last ≤ code.length → IsWordBetween code first last →
    first = start ∧ last = stop

/-- Runs that share a position are the same. -/
theorem IsWordRun.eq_of_overlap {code : Text} {start stop first last : Nat} (run : IsWordRun code start stop)
    (other : IsWordRun code first last) (before : start < last) (behind : first < stop) :
    first = start ∧ last = stop := by
  have joined : IsWordBetween code (min start first) (max stop last) := by
    intro position character from_ upTo found
    by_cases here : start ≤ position ∧ position < stop
    · exact run.word position character here.1 here.2 found
    · exact other.word position character (by omega) (by omega) found
  have inside : max stop last ≤ code.length := Nat.max_le.mpr ⟨run.inside, other.inside⟩
  have whole := run.longest _ _ (Nat.min_le_left _ _) (Nat.le_max_left _ _) inside joined
  have wholeOther := other.longest _ _ (Nat.min_le_right _ _) (Nat.le_max_right _ _) inside joined
  omega

/-- The characters beside a run are no word characters. -/
theorem IsWordRun.not_word_beside {code : Text} {start stop position : Nat} {character : Char}
    (run : IsWordRun code start stop) (beside : position + 1 = start ∨ position = stop)
    (found : code[position]? = some character) : isWordChar character = false := by
  by_contra isWord
  rw [Bool.not_eq_false] at isWord
  have inside := (List.getElem?_eq_some_iff.mp found).1
  have filled := run.filled
  have within := run.inside
  -- With such a character the run would be longer.
  have joined : IsWordBetween code (min start position) (max stop (position + 1)) := by
    intro place other from_ upTo there
    by_cases same : place = position
    · rw [same, found] at there
      cases there
      exact isWord
    · exact run.word place other (by omega) (by omega) there
  have whole := run.longest _ _ (Nat.min_le_left _ _) (Nat.le_max_left _ _) (by omega) joined
  omega

/-! ### Runs of one class -/

def IsOfClass (isWord : Bool) (run : Text) : Prop :=
  ∀ character ∈ run, isWordChar character = isWord

/-- A place between two texts where the class of the characters changes. -/
def ChangesClass (front behind : Text) : Prop :=
  ∀ last ∈ front.getLast?, ∀ first ∈ behind.head?, isWordChar last ≠ isWordChar first

/-- Code is cut behind its first run. -/
theorem exists_wordRuns_eq (character : Char) (rest : Text) :
    ∃ run behind, character :: rest = run ++ behind ∧ wordRuns (character :: rest) = run :: wordRuns behind ∧
      run ≠ [] ∧ IsOfClass (isWordChar character) run ∧ ChangesClass run behind := by
  induction rest generalizing character with
  | nil => exact ⟨[character], [], rfl, rfl, nofun, List.forall_mem_singleton.mpr rfl, fun _ _ => nofun⟩
  | cons next tail ih =>
      by_cases same : isWordChar character = isWordChar next
      · obtain ⟨run, behind, whole, runs, filled, ofClass, changes⟩ := ih next
        refine ⟨character :: run, behind, by rw [whole]; rfl, ?_, nofun, ?_, ?_⟩
        · rw [wordRuns, if_pos same, runs]
          rfl
        · rw [← same] at ofClass
          exact List.forall_mem_cons.mpr ⟨rfl, ofClass⟩
        · intro last isLast
          rw [List.getLast?_cons, List.getLast?_eq_some_getLast filled] at isLast
          exact changes last ((List.getLast?_eq_some_getLast filled).trans isLast)
      · refine ⟨[character], next :: tail, rfl, ?_, nofun, List.forall_mem_singleton.mpr rfl, ?_⟩
        · rw [wordRuns, if_neg same]
        · rintro last ⟨⟩ first ⟨⟩
          exact same

section Middle

variable {front run behind : Text}

theorem getElem?_run {position : Nat} (inside : position < run.length) :
    (front ++ (run ++ behind))[front.length + position]? = run[position]? := by
  rw [List.getElem?_append_right (Nat.le_add_right _ _), Nat.add_sub_cancel_left, List.getElem?_append_left inside]

variable (changesBefore : ChangesClass front run) (changesBehind : ChangesClass run behind) (filled : run ≠ [])

include changesBefore changesBehind filled

/-- A run of word characters between changes of class is a word of the code. -/
theorem isWordRun_run (word : IsOfClass true run) :
    IsWordRun (front ++ (run ++ behind)) front.length (front.length + run.length) := by
  have long : 0 < run.length := List.length_pos_iff.mpr filled
  have whole : (front ++ (run ++ behind)).length = front.length + (run.length + behind.length) := by
    rw [List.length_append, List.length_append]
  refine ⟨by omega, by omega, ?_, ?_⟩
  · intro position character from_ upTo found
    have there := @getElem?_run front run behind (position - front.length) (by omega)
    rw [Nat.add_sub_cancel' from_, found] at there
    exact word character (List.mem_of_getElem? there.symm)
  · intro first last from_ upTo bound between
    constructor
    · -- The character in front of the run is of the other class.
      by_contra other
      have earlier : front.length - 1 < front.length := by omega
      have found : (front ++ (run ++ behind))[front.length - 1]? = some front[front.length - 1] := by
        rw [List.getElem?_append_left earlier, List.getElem?_eq_getElem earlier]
      have isLast : front.getLast? = some front[front.length - 1] := by
        rw [List.getLast?_eq_getElem?, List.getElem?_eq_getElem earlier]
      have isFirst : run.head? = some (run.head filled) := List.head?_eq_some_head filled
      have isWord := between _ _ (by omega) (by omega) found
      exact changesBefore _ isLast _ isFirst (isWord.trans (word _ (List.head_mem filled)).symm)
    · -- So is the character behind it.
      by_contra other
      have later : 0 < behind.length := by omega
      have found : (front ++ (run ++ behind))[front.length + run.length]? = some behind[0] := by
        rw [List.getElem?_append_right (Nat.le_add_right _ _), Nat.add_sub_cancel_left,
          List.getElem?_append_right le_rfl, Nat.sub_self, List.getElem?_eq_getElem later]
      have isFirst : behind.head? = some behind[0] := by
        rw [List.head?_eq_getElem?, List.getElem?_eq_getElem later]
      have isLast : run.getLast? = some (run.getLast filled) := List.getLast?_eq_some_getLast filled
      have isWord := between _ _ (by omega) (by omega) found
      exact changesBehind _ isLast _ isFirst ((word _ (List.getLast_mem filled)).trans isWord.symm)

/-- A word of the code that does not begin in front of a run is the run or begins behind it. -/
theorem isWordRun_cases {isWord : Bool} (ofClass : IsOfClass isWord run) {start stop : Nat}
    (isRun : IsWordRun (front ++ (run ++ behind)) start stop) (from_ : front.length ≤ start) :
    front.length + run.length ≤ start ∨
      isWord = true ∧ start = front.length ∧ stop = front.length + run.length := by
  rcases Nat.lt_or_ge start (front.length + run.length) with here | later
  · have inside : start - front.length < run.length := by omega
    have found := @getElem?_run front run behind _ inside
    rw [Nat.add_sub_cancel' from_, List.getElem?_eq_getElem inside] at found
    have word := isRun.word _ _ le_rfl isRun.filled found
    rw [ofClass _ (List.getElem_mem inside)] at word
    subst word
    have alone := isWordRun_run changesBefore changesBehind filled ofClass
    obtain ⟨sameStart, sameStop⟩ := alone.eq_of_overlap isRun (by have := isRun.filled; omega) here
    exact .inr ⟨rfl, sameStart, sameStop⟩
  · exact .inl later

end Middle

/-! ### Tags around spans -/

@[ext] structure LinkSpan where
  start : Nat
  stop : Nat
  address : Text

structure LinkSpan.IsLinked (links : TypeLinks) (code : Text) (span : LinkSpan) : Prop where
  run : IsWordRun code span.start span.stop
  listed : links.lookup (slice code span.start span.stop) = some span.address
  filled : span.address ≠ []

def linkOpening : Text := "<a href=\"".toList

def linkEnding : Text := "</a>".toList

def taggedText (address text : Text) : Text :=
  linkOpening ++ (escape address ++ '"' :: '>' :: (escape text ++ linkEnding))

def taggedFrom (code : Text) (position : Nat) : List LinkSpan → Text
  | [] => escape (code.drop position)
  | span :: spans =>
      escape (slice code position span.start) ++
        (taggedText span.address (slice code span.start span.stop) ++ taggedFrom code span.stop spans)

/-- What stands in front of the first span is escaped in one or in two parts. -/
theorem taggedFrom_eq_append (code : Text) {position middle : Nat} (order : position ≤ middle) {spans : List LinkSpan}
    (behind : ∀ span ∈ spans, middle ≤ span.start) :
    taggedFrom code position spans = escape (slice code position middle) ++ taggedFrom code middle spans := by
  cases spans with
  | nil => rw [taggedFrom, taggedFrom, ← slice_append_drop code order, escape_append]
  | cons span spans =>
      rw [taggedFrom, taggedFrom, ← slice_append_slice code order (behind span List.mem_cons_self), escape_append,
        List.append_assoc]

/-! ### Runs as links -/

theorem linkOf?_eq_some_iff {links : TypeLinks} {run address : Text} {isWord : Bool} (filled : run ≠ [])
    (ofClass : IsOfClass isWord run) :
    linkOf? links run = some address ↔ isWord = true ∧ links.lookup run = some address ∧ address ≠ [] := by
  have first : (run.head?.map isWordChar).getD false = isWord := by
    rw [List.head?_eq_some_head filled]
    exact ofClass _ (List.head_mem filled)
  unfold linkOf?
  rw [first]
  cases isWord with
  | false => simp
  | true =>
      cases links.lookup run with
      | none => simp
      | some listed =>
          cases listed with
          | nil =>
              simp only [List.isEmpty_nil, if_true, true_and]
              refine iff_of_false nofun ?_
              rintro ⟨⟨⟩, other⟩
              exact other rfl
          | cons character more =>
              simp only [List.isEmpty_cons, Bool.false_eq_true, if_false, if_true, true_and]
              refine ⟨fun same => ⟨same, ?_⟩, And.left⟩
              cases same
              exact nofun

theorem linkMarkup_eq (address text : Text) :
    "<a href=\"".toList ++ escape address ++ "\">".toList ++ escape text ++ "</a>".toList =
      taggedText address text := by
  have between : "\">".toList = ['"', '>'] := rfl
  unfold taggedText linkOpening linkEnding
  rw [between]
  simp only [List.append_assoc, List.cons_append, List.nil_append]

theorem linkRun_eq (links : TypeLinks) (run : Text) :
    linkRun links run = ((linkOf? links run).map (taggedText · run)).getD (escape run) := by
  unfold linkRun
  cases linkOf? links run with
  | none => rfl
  | some address => exact linkMarkup_eq address run

/-- The linked words from a run on are the run itself, if it has an address, and the linked words behind it. -/
theorem isLinked_iff_first (links : TypeLinks) {front run behind : Text} {isWord : Bool}
    (changesBefore : ChangesClass front run) (changesBehind : ChangesClass run behind) (filled : run ≠ [])
    (ofClass : IsOfClass isWord run) (span : LinkSpan) :
    span.IsLinked links (front ++ (run ++ behind)) ∧ front.length ≤ span.start ↔
      (span.start = front.length ∧ span.stop = front.length + run.length ∧
        linkOf? links run = some span.address) ∨
        span.IsLinked links (front ++ (run ++ behind)) ∧ front.length + run.length ≤ span.start := by
  constructor
  · rintro ⟨linked, from_⟩
    rcases isWordRun_cases changesBefore changesBehind filled ofClass linked.run from_ with
      later | ⟨isWord, sameStart, sameStop⟩
    · exact .inr ⟨linked, later⟩
    · have listed := linked.listed
      rw [sameStart, sameStop, slice_middle] at listed
      exact .inl ⟨sameStart, sameStop, (linkOf?_eq_some_iff filled ofClass).mpr ⟨isWord, listed, linked.filled⟩⟩
  · rintro (⟨sameStart, sameStop, found⟩ | ⟨linked, later⟩)
    · obtain ⟨rfl, listed, named⟩ := (linkOf?_eq_some_iff filled ofClass).mp found
      have isRun := isWordRun_run changesBefore changesBehind filled ofClass
      rw [← sameStop, ← sameStart] at isRun
      exact ⟨⟨isRun, by rw [sameStart, sameStop, slice_middle, listed], named⟩, sameStart.ge⟩
    · exact ⟨linked, by omega⟩

/-- Code behind a change of class is written with tags around the words in it that are linked. -/
theorem exists_linkSpans (links : TypeLinks) {front rest : Text} (changes : ChangesClass front rest) :
    ∃ spans : List LinkSpan,
      (∀ span, span ∈ spans ↔ span.IsLinked links (front ++ rest) ∧ front.length ≤ span.start) ∧
        spans.Pairwise (fun earlier later => earlier.stop ≤ later.start) ∧
          linkify links rest = taggedFrom (front ++ rest) front.length spans := by
  induction measured : rest.length using Nat.strongRecOn generalizing front rest with
  | ind size ih =>
      subst measured
      cases rest with
      | nil =>
          refine ⟨[], fun span => iff_of_false nofun ?_, .nil, ?_⟩
          · rintro ⟨linked, from_⟩
            have filled := linked.run.filled
            have inside := linked.run.inside
            rw [List.append_nil] at inside
            omega
          · rw [taggedFrom, List.append_nil, List.drop_length]
            rfl
      | cons character rest =>
          obtain ⟨run, behind, whole, runs, filled, ofClass, changesBehind⟩ := exists_wordRuns_eq character rest
          have changesBefore : ChangesClass front run := by
            intro last isLast first isFirst
            refine changes last isLast first ?_
            rw [whole, List.head?_append, isFirst]
            rfl
          have changesAfter : ChangesClass (front ++ run) behind := by
            intro last isLast
            refine changesBehind last ?_
            rwa [List.getLast?_append_of_ne_nil _ filled] at isLast
          have shorter : behind.length < (character :: rest).length := by
            have long := List.length_pos_iff.mpr filled
            rw [whole, List.length_append]
            omega
          obtain ⟨spans, linked, ordered, written⟩ := ih behind.length shorter changesAfter rfl
          have writes : linkify links (character :: rest) = linkRun links run ++ linkify links behind := by
            unfold linkify
            rw [runs, List.flatMap_cons]
          rw [List.append_assoc, List.length_append] at written
          rw [List.append_assoc, List.length_append] at linked
          rw [writes, written, linkRun_eq, whole]
          have isFirst := isLinked_iff_first links changesBefore changesBehind filled ofClass
          cases found : linkOf? links run with
          | none =>
              refine ⟨spans, fun span => ?_, ordered, ?_⟩
              · rw [linked, isFirst, found]
                exact ⟨.inr, fun either => either.resolve_left fun first => nomatch first.2.2⟩
              · rw [taggedFrom_eq_append _ (Nat.le_add_right _ _) fun span member => ((linked span).mp member).2,
                  slice_middle]
                rfl
          | some address =>
              refine ⟨⟨front.length, front.length + run.length, address⟩ :: spans, fun span => ?_, ?_, ?_⟩
              · rw [List.mem_cons, linked, isFirst, found, Option.some_inj, LinkSpan.ext_iff, @eq_comm _ address]
              · exact List.pairwise_cons.mpr ⟨fun span member => ((linked span).mp member).2, ordered⟩
              · rw [taggedFrom, slice_middle, slice_self]
                rfl

/-! ### Without the tags -/

def afterLinkTag? (markup : Text) : Option Text :=
  match Text.afterPrefix? linkEnding markup with
  | some rest => some rest
  | none =>
      match Text.afterPrefix? linkOpening markup with
      | some value => (Text.cutAt? '"' value).bind fun parts => Text.afterPrefix? ['>'] parts.2
      | none => none

theorem afterLinkTag?_length_lt {markup rest : Text} (found : afterLinkTag? markup = some rest) :
    rest.length < markup.length := by
  unfold afterLinkTag? at found
  split at found
  · rename_i behind ends
    have lengths := Text.length_of_afterPrefix? ends
    have long : linkEnding.length = 4 := by decide
    cases found
    omega
  · split at found
    · rename_i value begins
      obtain ⟨parts, cut, closes⟩ := Option.bind_eq_some_iff.mp found
      have lengths := Text.length_of_afterPrefix? begins
      have lengthsToo := Text.length_of_cutAt? cut
      have lengthsLast := Text.length_of_afterPrefix? closes
      omega
    · cases found

def withoutLinkTags (markup : Text) : Text :=
  match _ : afterLinkTag? markup with
  | some rest => withoutLinkTags rest
  | none =>
      match markup with
      | [] => []
      | character :: rest => character :: withoutLinkTags rest
termination_by markup.length
decreasing_by
  · exact afterLinkTag?_length_lt (by assumption)
  · simp

theorem withoutLinkTags_cons {character : Char} (other : character ≠ '<') (rest : Text) :
    withoutLinkTags (character :: rest) = character :: withoutLinkTags rest := by
  have opening : linkOpening = '<' :: linkOpening.tail := by decide
  have ending : linkEnding = '<' :: linkEnding.tail := by decide
  have untagged : afterLinkTag? (character :: rest) = none := by
    unfold afterLinkTag?
    rw [ending, Text.afterPrefix?_eq_none other.symm, opening, Text.afterPrefix?_eq_none other.symm]
  rw [withoutLinkTags]
  split
  · rename_i found
    rw [untagged] at found
    cases found
  · rfl

theorem withoutLinkTags_of_tag {markup rest : Text} (found : afterLinkTag? markup = some rest) :
    withoutLinkTags markup = withoutLinkTags rest := by
  rw [withoutLinkTags]
  split
  · rename_i again
    rw [found] at again
    cases again
    rfl
  · rename_i missing
    rw [found] at missing
    cases missing

/-- Escaped text holds no tags. -/
theorem withoutLinkTags_escape_append (text rest : Text) :
    withoutLinkTags (escape text ++ rest) = escape text ++ withoutLinkTags rest := by
  have untagged : '<' ∉ escape text := not_mem_escape text '<' (by decide)
  generalize escape text = plain at untagged ⊢
  induction plain with
  | nil => rfl
  | cons character plain ih =>
      rw [List.mem_cons, not_or] at untagged
      rw [List.cons_append, withoutLinkTags_cons (Ne.symm untagged.1), ih untagged.2, List.cons_append]

theorem withoutLinkTags_escape (text : Text) : withoutLinkTags (escape text) = escape text := by
  have alone := withoutLinkTags_escape_append text []
  rw [List.append_nil] at alone
  rw [alone, withoutLinkTags]
  exact List.append_nil _

/-- The tags of a link are its own: an escaped address holds no mark that ends it. -/
theorem withoutLinkTags_taggedText_append (address text rest : Text) :
    withoutLinkTags (taggedText address text ++ rest) = escape text ++ withoutLinkTags rest := by
  have unmarked : '"' ∉ escape address := not_mem_escape address '"' (by decide)
  have whole : taggedText address text ++ rest =
      linkOpening ++ (escape address ++ '"' :: ('>' :: (escape text ++ (linkEnding ++ rest)))) := by
    unfold taggedText
    simp only [List.append_assoc, List.cons_append]
  have opens : afterLinkTag? (taggedText address text ++ rest) = some (escape text ++ (linkEnding ++ rest)) := by
    have notEnding (value : Text) : Text.afterPrefix? linkEnding (linkOpening ++ value) = none := rfl
    rw [whole]
    unfold afterLinkTag?
    rw [notEnding, Text.afterPrefix?_append]
    dsimp only
    rw [Text.cutAt?_append unmarked]
    exact Text.afterPrefix?_append ['>'] _
  have ends : afterLinkTag? (linkEnding ++ rest) = some rest := by
    unfold afterLinkTag?
    rw [Text.afterPrefix?_append]
  rw [withoutLinkTags_of_tag opens, withoutLinkTags_escape_append, withoutLinkTags_of_tag ends]

/-- Without the tags the code from the position on is left. -/
theorem withoutLinkTags_taggedFrom {code : Text} {position : Nat} {spans : List LinkSpan}
    (ordered : spans.Pairwise fun earlier later => earlier.stop ≤ later.start)
    (behind : ∀ span ∈ spans, position ≤ span.start ∧ span.start ≤ span.stop) :
    withoutLinkTags (taggedFrom code position spans) = escape (code.drop position) := by
  induction spans generalizing position with
  | nil => exact withoutLinkTags_escape _
  | cons span spans ih =>
      obtain ⟨first, ordered⟩ := List.pairwise_cons.mp ordered
      obtain ⟨⟨from_, forward⟩, others⟩ := List.forall_mem_cons.mp behind
      have rest := ih ordered fun later member => ⟨first later member, (others later member).2⟩
      rw [taggedFrom, withoutLinkTags_escape_append, withoutLinkTags_taggedText_append, rest, ← escape_append,
        ← escape_append, slice_append_drop code forward, slice_append_drop code from_]

/-- Code with its links is the escaped code with tags around it, which stand around the words with an address in the
table, each with its own address, and around no part of a longer word. -/
theorem linkify_tags (links : TypeLinks) (code : Text) :
    withoutLinkTags (linkify links code) = escape code ∧
      ∃ spans : List LinkSpan,
        linkify links code = taggedFrom code 0 spans ∧
          spans.Pairwise (fun earlier later => earlier.stop ≤ later.start) ∧
            (∀ span, span ∈ spans ↔ span.IsLinked links code) ∧
              ∀ span ∈ spans, ∀ position character, position + 1 = span.start ∨ position = span.stop →
                code[position]? = some character → isWordChar character = false := by
  have changes : ChangesClass [] code := fun last isLast => nomatch isLast
  obtain ⟨spans, linked, ordered, written⟩ := exists_linkSpans links changes
  rw [List.nil_append, List.length_nil] at written
  have isLinked (span : LinkSpan) : span ∈ spans ↔ span.IsLinked links code :=
    (linked span).trans ⟨And.left, fun alone => ⟨alone, Nat.zero_le _⟩⟩
  have forward (span : LinkSpan) (member : span ∈ spans) : 0 ≤ span.start ∧ span.start ≤ span.stop :=
    ⟨Nat.zero_le _, ((isLinked span).mp member).run.filled.le⟩
  refine ⟨?_, spans, written, ordered, isLinked, fun span member position character beside found => ?_⟩
  · rw [written, withoutLinkTags_taggedFrom ordered forward, List.drop_zero]
  · exact ((isLinked span).mp member).run.not_word_beside beside found

end DocSite
