/-
Directives and blocks.

A manifest of directives is made of lines, some of which stand in blocks, at any depth. The reader takes the name
and the source directories from the last lines that tell them, and it knows nothing of blocks: a line inside one
counts like a line outside. So the blocks can be left out exactly if the last line that tells anything under a
keyword stands outside of them, or tells the same as the last one that does.
-/
import DocSite.Proofs.Files.Reading
import DocSite.Proofs.Project.Quoted
import DocSite.Proofs.Source.Segments
import DocSite.Proofs.Text.Lines

namespace DocSite

open Text (trim trimLeft)

/-! ### Lines that tell something -/

/-- Whether a line tells values under a keyword: the keyword is its first word, and the values are quoted behind
it. -/
def Tells (keyword line : Text) (values : List Text) : Prop :=
  ∃ margin gap rest, line = margin ++ (keyword ++ (gap ++ rest)) ∧
    (∀ character ∈ margin, isBlank character = true) ∧ (∀ character ∈ gap, isBlank character = true) ∧ gap ≠ [] ∧
      Quotes rest values ∧ values ≠ []

def Silent (keyword : Text) (lines : List Text) : Prop :=
  ∀ line ∈ lines, ∀ values, ¬Tells keyword line values

def TellsLast (keyword : Text) (lines : List Text) (values : List Text) : Prop :=
  ∃ before line after, lines = before ++ line :: after ∧ Tells keyword line values ∧ Silent keyword after

def nameKeyword : Text := "name".toList

def directoriesKeyword : Text := "sourcePaths".toList

theorem isWord_nameKeyword : Text.IsWord nameKeyword := Text.isWord_of_isIdentifier rfl

theorem isWord_directoriesKeyword : Text.IsWord directoriesKeyword := Text.isWord_of_isIdentifier rfl

section Lines

variable {keyword line rest margin gap : Text} {values : List Text}

theorem mark_not_blank {blanks : Text} (blank : ∀ character ∈ blanks, isBlank character = true) : '"' ∉ blanks :=
  fun mark => absurd (blank _ mark) (by decide)

/-- The text behind a gap, trimmed, when more than blanks stands there. -/
theorem exists_trim_behind (front : Text) (told : trim rest ≠ []) :
    ∃ lead, (∀ character ∈ lead, isBlank character = true) ∧
      trim (front ++ rest) = trimLeft (front ++ lead) ++ trim rest := by
  obtain ⟨lead, split, blank⟩ := Text.exists_blanks_trimLeft rest
  refine ⟨lead, blank, ?_⟩
  cases starts : trimLeft rest with
  | nil =>
      rw [← Text.trim_trimLeft, starts] at told
      exact absurd rfl told
  | cons character behind =>
      have ink : isBlank character = false := Text.startsInk_trimLeft rest character (by rw [starts]; rfl)
      have trimmed : trim rest = character :: Text.trimRight behind := by
        rw [← Text.trim_trimLeft, starts]
        exact Text.trim_append_ink ink [] behind
      rw [trimmed, ← Text.trim_append_ink ink, List.append_assoc, ← starts, ← split]

theorem directive?_of_trim (ink : ∀ character ∈ keyword, isBlank character = false)
    (blankGap : ∀ character ∈ gap, isBlank character = true) (separated : gap ≠ [])
    (starts : Text.StartsInk rest) (told : rest ≠ []) (words : trim line = keyword ++ (gap ++ rest)) :
    directive? line = some (keyword, rest) := by
  have word : ∀ character ∈ keyword, (!isBlank character) = true :=
    fun character member => by rw [ink character member]; rfl
  obtain ⟨blank, blanks, rfl⟩ := List.exists_cons_of_ne_nil separated
  have ends : (!isBlank blank) = false := by rw [blankGap blank List.mem_cons_self]; rfl
  unfold directive?
  dsimp only
  rw [words, List.takeWhile_append_of_pos word, List.dropWhile_append_of_pos word, List.cons_append,
    List.takeWhile_cons, List.dropWhile_cons, ends, if_neg Bool.false_ne_true, if_neg Bool.false_ne_true,
    List.append_nil, ← List.cons_append, Text.trimLeft_blanks_append blankGap starts,
    List.isEmpty_eq_false_iff.mpr told]
  rfl

theorem directive?_of_parts (blankMargin : ∀ character ∈ margin, isBlank character = true)
    (isWord : Text.IsWord keyword) (blankGap : ∀ character ∈ gap, isBlank character = true) (separated : gap ≠ [])
    (told : trim rest ≠ []) :
    directive? (margin ++ (keyword ++ (gap ++ rest))) = some (keyword, trim rest) := by
  obtain ⟨lead, blankLead, trimmed⟩ := exists_trim_behind (keyword ++ gap) told
  have blank : ∀ character ∈ gap ++ lead, isBlank character = true :=
    fun character member => (List.mem_append.mp member).elim (blankGap character) (blankLead character)
  refine directive?_of_trim isWord.ink blank (List.append_ne_nil_of_left_ne_nil separated lead)
    (Text.startsInk_trim rest) told ?_
  rw [Text.trim_blanks_append blankMargin, ← List.append_assoc, trimmed, List.append_assoc keyword,
    Text.trimLeft_eq_self (isWord.startsInk (gap ++ lead)), List.append_assoc]

theorem exists_parts_of_directive? (found : directive? line = some (keyword, rest)) :
    ∃ margin gap trail, line = margin ++ (keyword ++ (gap ++ (rest ++ trail))) ∧
      (∀ character ∈ margin, isBlank character = true) ∧ (∀ character ∈ gap, isBlank character = true) ∧ gap ≠ [] ∧
      ∀ character ∈ trail, isBlank character = true := by
  obtain ⟨margin, before, blankMargin⟩ := Text.exists_blanks_trimLeft line
  obtain ⟨trail, after, blankTrail⟩ := Text.exists_blanks_trimRight (trimLeft line)
  obtain ⟨gap, between, blankGap⟩ :=
    Text.exists_blanks_trimLeft ((trim line).dropWhile fun character => !isBlank character)
  have whole : line = margin ++ (trim line ++ trail) := by
    conv_lhs => rw [before, after]
    rfl
  have words := List.takeWhile_append_dropWhile (p := fun character => !isBlank character) (l := trim line)
  unfold directive? at found
  dsimp only at found
  split at found
  · cases found
  · rename_i filled
    cases found
    refine ⟨margin, gap, trail, whole.trans ?_, blankMargin, blankGap, ?_, blankTrail⟩
    · rw [← List.append_assoc gap, ← between, ← List.append_assoc (List.takeWhile _ _), words]
    · rintro rfl
      rw [List.nil_append] at between
      have outside := List.head?_dropWhile_not (fun character => !isBlank character) (trim line)
      have ink := Text.startsInk_trimLeft ((trim line).dropWhile fun character => !isBlank character)
      rw [← between] at filled ink
      cases starts : (trim line).dropWhile fun character => !isBlank character with
      | nil =>
          rw [starts] at filled
          exact filled rfl
      | cons character behind =>
          rw [starts] at outside ink
          have blank : (!isBlank character) = false := outside
          rw [ink character rfl] at blank
          cases blank

def told? (line : Text) : Option (Text × List Text) := do
  let (keyword, rest) ← directive? line
  if (quotedValues rest).isEmpty then none else some (keyword, quotedValues rest)

theorem told?_eq_some_iff : told? line = some (keyword, values) ↔
    ∃ rest, directive? line = some (keyword, rest) ∧ quotedValues rest = values ∧ values ≠ [] := by
  unfold told?
  cases directive? line with
  | none => exact ⟨nofun, nofun⟩
  | some parts =>
      obtain ⟨other, rest⟩ := parts
      rw [Option.bind_eq_bind, Option.bind_some]
      dsimp only
      constructor
      · intro found
        split at found
        · cases found
        · rename_i filled
          cases found
          exact ⟨rest, rfl, rfl, fun nothing => filled (List.isEmpty_iff.mpr nothing)⟩
      · rintro ⟨same, found, rfl, filled⟩
        cases found
        rw [List.isEmpty_eq_false_iff.mpr filled]
        rfl

theorem tells_iff (isWord : Text.IsWord keyword) :
    Tells keyword line values ↔ told? line = some (keyword, values) := by
  rw [told?_eq_some_iff]
  constructor
  · rintro ⟨margin, gap, rest, rfl, blankMargin, blankGap, separated, quotes, told⟩
    obtain ⟨lead, split, blankLead⟩ := Text.exists_blanks_trimLeft rest
    obtain ⟨trail, splitToo, blankTrail⟩ := Text.exists_blanks_trimRight (trimLeft rest)
    have same : quotedValues (trim rest) = values := by
      have around := ((quotes_quotedValues (trim rest)).before (mark_not_blank blankTrail)).behind
        (mark_not_blank blankLead)
      have whole : lead ++ (trim rest ++ trail) = rest := by
        conv_rhs => rw [split, splitToo]
        rfl
      rw [whole] at around
      exact around.unique quotes
    refine ⟨trim rest, directive?_of_parts blankMargin isWord blankGap separated fun nothing => ?_, same, told⟩
    rw [nothing, quotedValues] at same
    exact told same.symm
  · rintro ⟨rest, found, same, told⟩
    obtain ⟨margin, gap, trail, rfl, blankMargin, blankGap, separated, blankTrail⟩ :=
      exists_parts_of_directive? found
    exact ⟨margin, gap, rest ++ trail, rfl, blankMargin, blankGap, separated,
      (quotedValues_eq_iff.mp same).before (mark_not_blank blankTrail), told⟩

theorem silent_iff (isWord : Text.IsWord keyword) {lines : List Text} :
    Silent keyword lines ↔ ∀ line ∈ lines, (told? line).map Prod.fst ≠ some keyword := by
  refine forall₂_congr fun line _ => ?_
  simp only [tells_iff isWord]
  cases told? line with
  | none => simp
  | some parts => simp [Prod.ext_iff]

theorem silent_append {first second : List Text} :
    Silent keyword (first ++ second) ↔ Silent keyword first ∧ Silent keyword second :=
  List.forall_mem_append

theorem tellsLast_append {first second : List Text} : TellsLast keyword (first ++ second) values ↔
    TellsLast keyword second values ∨ (Silent keyword second ∧ TellsLast keyword first values) := by
  constructor
  · rintro ⟨before, line, after, split, tells, silent⟩
    rcases List.append_eq_append_iff.mp split with ⟨more, rfl, whole⟩ | ⟨more, rfl, whole⟩
    · exact .inl ⟨more, line, after, whole, tells, silent⟩
    · cases more with
      | nil => exact .inl ⟨[], line, after, whole.symm, tells, silent⟩
      | cons other more =>
          obtain ⟨rfl, rfl⟩ := List.cons.inj whole
          obtain ⟨silentFirst, silentSecond⟩ := silent_append.mp silent
          exact .inr ⟨silentSecond, before, line, more, rfl, tells, silentFirst⟩
  · rintro (⟨before, line, after, rfl, tells, silent⟩ | ⟨silentSecond, before, line, after, rfl, tells, silent⟩)
    · exact ⟨first ++ before, line, after, (List.append_assoc ..).symm, tells, silent⟩
    · exact ⟨before, line, after ++ second, List.append_assoc .., tells, silent_append.mpr ⟨silent, silentSecond⟩⟩

theorem tellsLast_singleton : TellsLast keyword [line] values ↔ Tells keyword line values := by
  constructor
  · rintro ⟨before, other, after, split, tells, -⟩
    cases before with
    | nil =>
        obtain ⟨rfl, -⟩ := List.cons.inj split
        exact tells
    | cons first before => simp at split
  · exact fun tells => ⟨[], line, [], rfl, tells, List.forall_mem_nil _⟩

theorem tellsLast_cons {lines : List Text} : TellsLast keyword (line :: lines) values ↔
    TellsLast keyword lines values ∨ (Silent keyword lines ∧ Tells keyword line values) := by
  rw [← tellsLast_singleton, ← tellsLast_append]
  rfl

theorem silent_or_tellsLast (keyword : Text) (lines : List Text) :
    Silent keyword lines ∨ ∃ values, TellsLast keyword lines values := by
  induction lines with
  | nil => exact .inl (List.forall_mem_nil _)
  | cons line lines ih =>
      rcases ih with silent | ⟨values, last⟩
      · by_cases tells : ∃ values, Tells keyword line values
        · obtain ⟨values, tells⟩ := tells
          exact .inr ⟨values, tellsLast_cons.mpr (.inr ⟨silent, tells⟩)⟩
        · exact .inl (List.forall_mem_cons.mpr ⟨fun values told => tells ⟨values, told⟩, silent⟩)
      · exact .inr ⟨values, tellsLast_cons.mpr (.inl last)⟩

end Lines

/-! ### What a manifest is taken from -/

theorem Manifest.read_eq (manifest : Manifest) (line : Text) : manifest.read line =
    match told? line with
    | none => manifest
    | some (keyword, values) =>
        if keyword = nameKeyword then { manifest with name := values.headD [] }
        else if keyword = directoriesKeyword then { manifest with sourceDirectories := values }
        else manifest := by
  unfold Manifest.read told?
  cases directive? line with
  | none => rfl
  | some parts =>
      obtain ⟨keyword, rest⟩ := parts
      rw [Option.bind_eq_bind, Option.bind_some]
      dsimp only
      cases quotedValues rest <;> rfl

/-- Whether a field of a manifest is taken from the values that are told last under a keyword. -/
structure Manifest.TakesLast {Value : Type} (keyword : Text) (field : Manifest → Value)
    (taken : List Text → Value) : Prop where
  told : ∀ (manifest : Manifest) (line : Text) (values : List Text), Tells keyword line values →
    field (manifest.read line) = taken values
  kept : ∀ (manifest : Manifest) (line : Text), (∀ values, ¬Tells keyword line values) →
    field (manifest.read line) = field manifest

theorem takesLast_name : Manifest.TakesLast nameKeyword Manifest.name (List.headD · []) := by
  have means {line : Text} {values : List Text} :
      Tells nameKeyword line values ↔ told? line = some (nameKeyword, values) := tells_iff isWord_nameKeyword
  constructor
  · intro manifest line values tells
    rw [Manifest.read_eq, means.mp tells]
    rfl
  · intro manifest line silent
    rw [Manifest.read_eq]
    cases told : told? line with
    | none => rfl
    | some parts =>
        obtain ⟨keyword, values⟩ := parts
        dsimp only
        rw [if_neg fun isName : keyword = nameKeyword => silent values (means.mpr (isName ▸ told))]
        split <;> rfl

theorem takesLast_sourceDirectories : Manifest.TakesLast directoriesKeyword Manifest.sourceDirectories id := by
  have means {line : Text} {values : List Text} :
      Tells directoriesKeyword line values ↔ told? line = some (directoriesKeyword, values) :=
    tells_iff isWord_directoriesKeyword
  constructor
  · intro manifest line values tells
    rw [Manifest.read_eq, means.mp tells]
    rfl
  · intro manifest line silent
    rw [Manifest.read_eq]
    cases told : told? line with
    | none => rfl
    | some parts =>
        obtain ⟨keyword, values⟩ := parts
        dsimp only
        split
        · rfl
        · rw [if_neg fun areDirectories : keyword = directoriesKeyword =>
            silent values (means.mpr (areDirectories ▸ told))]

section Readings

variable {Value : Type} {keyword : Text} {field : Manifest → Value} {taken : List Text → Value}
  (takes : Manifest.TakesLast keyword field taken)

include takes

theorem Manifest.TakesLast.foldl_silent {lines : List Text} (silent : Silent keyword lines) (manifest : Manifest) :
    field (lines.foldl Manifest.read manifest) = field manifest := by
  induction lines generalizing manifest with
  | nil => rfl
  | cons line lines ih =>
      obtain ⟨first, further⟩ := List.forall_mem_cons.mp silent
      rw [List.foldl_cons, ih further, takes.kept manifest line first]

theorem Manifest.TakesLast.foldl_tellsLast {lines : List Text} {values : List Text}
    (last : TellsLast keyword lines values) (manifest : Manifest) :
    field (lines.foldl Manifest.read manifest) = taken values := by
  obtain ⟨before, line, after, rfl, tells, silent⟩ := last
  rw [List.foldl_append, List.foldl_cons, takes.foldl_silent silent, takes.told _ line values tells]

end Readings

structure Manifest.IsToldBy (manifest : Manifest) (lines : List Text) : Prop where
  name : ∀ first more, TellsLast nameKeyword lines (first :: more) → manifest.name = first
  noName : Silent nameKeyword lines → manifest.name = []
  directories : ∀ values, TellsLast directoriesKeyword lines values → manifest.sourceDirectories = values
  noDirectories : Silent directoriesKeyword lines → manifest.sourceDirectories = defaultSourceDirectories

theorem directiveManifest_isToldBy {text : Text} {lines : List Text} (whole : Text.lines text = lines) :
    (directiveManifest text).IsToldBy lines := by
  unfold directiveManifest
  rw [whole]
  exact
    { name := fun _ _ last => takesLast_name.foldl_tellsLast last _
      noName := fun silent => takesLast_name.foldl_silent silent _
      directories := fun _ last => takesLast_sourceDirectories.foldl_tellsLast last _
      noDirectories := fun silent => takesLast_sourceDirectories.foldl_silent silent _ }

/-! ### Blocks -/

/-- An item of a manifest: a line, or a block of items between the line with its opening brace and the line with
its closing one. What else these two lines hold is left open. -/
inductive ManifestItem where
  | directive (line : Text)
  | block (opening : Text) (items : List ManifestItem) (closing : Text)

namespace ManifestItem

mutual

def lines : ManifestItem → List Text
  | directive line => [line]
  | block opening items closing => opening :: (linesOf items ++ [closing])

def linesOf : List ManifestItem → List Text
  | [] => []
  | item :: rest => item.lines ++ linesOf rest

end

/-- The lines of items that stand in none of their blocks. -/
def outerLines : List ManifestItem → List Text
  | [] => []
  | directive line :: rest => line :: outerLines rest
  | block .. :: rest => outerLines rest

/-- Whether values are those that are told last under a keyword, and a block tells them. -/
def BlockTellsLast (keyword : Text) (items : List ManifestItem) (values : List Text) : Prop :=
  ∃ before opening inner closing after, items = before ++ block opening inner closing :: after ∧
    TellsLast keyword (block opening inner closing).lines values ∧ Silent keyword (linesOf after)

variable {keyword : Text} {values : List Text} {items : List ManifestItem}

theorem linesOf_append (first second : List ManifestItem) :
    linesOf (first ++ second) = linesOf first ++ linesOf second := by
  induction first with
  | nil => rfl
  | cons item first ih => rw [List.cons_append, linesOf, linesOf, ih, List.append_assoc]

theorem silent_outerLines (silent : Silent keyword (linesOf items)) : Silent keyword (outerLines items) := by
  induction items with
  | nil => exact silent
  | cons item items ih =>
      rw [linesOf] at silent
      obtain ⟨first, further⟩ := silent_append.mp silent
      cases item with
      | directive line => exact silent_append.mpr ⟨first, ih further⟩
      | block opening inner closing => exact ih further

theorem BlockTellsLast.tellsLast (last : BlockTellsLast keyword items values) :
    TellsLast keyword (linesOf items) values := by
  obtain ⟨before, opening, inner, closing, after, rfl, tells, silent⟩ := last
  rw [linesOf_append, linesOf]
  exact tellsLast_append.mpr (.inl (tellsLast_append.mpr (.inr ⟨silent, tells⟩)))

theorem blockTellsLast_or_tellsLast (last : TellsLast keyword (linesOf items) values) :
    BlockTellsLast keyword items values ∨ TellsLast keyword (outerLines items) values := by
  induction items with
  | nil => exact .inr last
  | cons item items ih =>
      rw [linesOf] at last
      rcases tellsLast_append.mp last with further | ⟨silent, here⟩
      · refine (ih further).imp ?_ fun outside => ?_
        · rintro ⟨before, opening, inner, closing, after, rfl, tells, silent⟩
          exact ⟨item :: before, opening, inner, closing, after, rfl, tells, silent⟩
        · cases item with
          | directive line => exact tellsLast_cons.mpr (.inl outside)
          | block opening inner closing => exact outside
      · cases item with
        | directive line =>
            exact .inr (tellsLast_cons.mpr (.inr ⟨silent_outerLines silent, tellsLast_singleton.mp here⟩))
        | block opening inner closing => exact .inl ⟨[], opening, inner, closing, items, rfl, here, silent⟩

end ManifestItem

open ManifestItem (linesOf outerLines BlockTellsLast)

section Documents

variable {items : List ManifestItem} {text bare : Text}

/-- The text and the text without its blocks agree on a field unless a block tells it last. -/
theorem Manifest.TakesLast.agree_iff {Value : Type} {keyword : Text} {field : Manifest → Value}
    {taken : List Text → Value} (takes : Manifest.TakesLast keyword field taken)
    (whole : Text.lines text = linesOf items) (outer : Text.lines bare = outerLines items) :
    field (directiveManifest text) = field (directiveManifest bare) ↔
      ∀ values, BlockTellsLast keyword items values → field (directiveManifest bare) = taken values := by
  unfold directiveManifest
  rw [whole, outer]
  constructor
  · intro same values last
    rw [← same, takes.foldl_tellsLast last.tellsLast]
  · intro inBlocks
    rcases silent_or_tellsLast keyword (linesOf items) with silent | ⟨values, last⟩
    · rw [takes.foldl_silent silent, takes.foldl_silent (ManifestItem.silent_outerLines silent)]
    · rw [takes.foldl_tellsLast last]
      rcases ManifestItem.blockTellsLast_or_tellsLast last with inBlock | outside
      · exact (inBlocks values inBlock).symm
      · exact (takes.foldl_tellsLast outside _).symm

theorem readDirectiveManifest_value {workspace : Workspace} {path : FilePath}
    (read : (readSource workspace path).run.value = .ok (some text)) :
    (readDirectiveManifest workspace path).run.value = .ok (directiveManifest text) := by
  unfold readDirectiveManifest
  rw [Reading.value_bind, read]
  rfl

/-- What is read from the text of items, and from the text without the blocks. -/
theorem directiveManifest_items (whole : Text.lines text = linesOf items)
    (outer : Text.lines bare = outerLines items) :
    (∀ workspace path, (readSource workspace path).run.value = .ok (some text) →
      (readDirectiveManifest workspace path).run.value = .ok (directiveManifest text)) ∧
    (directiveManifest text).IsToldBy (linesOf items) ∧ (directiveManifest bare).IsToldBy (outerLines items) ∧
    (directiveManifest text = directiveManifest bare ↔
      (∀ values, BlockTellsLast nameKeyword items values → (directiveManifest bare).name = values.headD []) ∧
      ∀ values, BlockTellsLast directoriesKeyword items values →
        (directiveManifest bare).sourceDirectories = values) := by
  refine ⟨fun workspace path => readDirectiveManifest_value, directiveManifest_isToldBy whole,
    directiveManifest_isToldBy outer, ?_⟩
  have agree := takesLast_sourceDirectories.agree_iff whole outer
  dsimp only [id] at agree
  rw [← takesLast_name.agree_iff whole outer, ← agree]
  constructor
  · intro same
    rw [same]
    exact ⟨rfl, rfl⟩
  · rintro ⟨name, directories⟩
    calc directiveManifest text
        = ⟨(directiveManifest text).name, (directiveManifest text).sourceDirectories⟩ := rfl
      _ = ⟨(directiveManifest bare).name, (directiveManifest bare).sourceDirectories⟩ := by rw [name, directories]
      _ = directiveManifest bare := rfl

end Documents

/-! ### A configuration -/

def configuredItems : List ManifestItem :=
  [.directive "name \"a\"".toList,
    .block "configuration \"x\" \x7b".toList
      [.directive "    name \"b\"".toList, .directive "    sourcePaths \"c\"".toList] "\x7d".toList]

/-- The name and the source directory of the configuration are taken for those of the project. -/
theorem configuration_not_skipped :
    let text := Text.unlines (linesOf configuredItems)
    let bare := Text.unlines (outerLines configuredItems)
    Text.lines text = linesOf configuredItems ∧ Text.lines bare = outerLines configuredItems ∧
      directiveManifest bare = ⟨"a".toList, defaultSourceDirectories⟩ ∧
      directiveManifest text = ⟨"b".toList, ["c".toList]⟩ := by
  decide +kernel

theorem directiveManifest_items_configured :
    let text := Text.unlines (linesOf configuredItems)
    let bare := Text.unlines (outerLines configuredItems)
    Text.lines text = linesOf configuredItems ∧ Text.lines bare = outerLines configuredItems ∧
      (directiveManifest bare).sourceDirectories = defaultSourceDirectories ∧
      (directiveManifest text).name = "b".toList ∧ directiveManifest text ≠ directiveManifest bare := by
  intro text bare
  have whole : Text.lines text = linesOf configuredItems := by decide +kernel
  have outer : Text.lines bare = outerLines configuredItems := by decide +kernel
  obtain ⟨-, told, toldOutside, agree⟩ := directiveManifest_items whole outer
  have inBlock : BlockTellsLast nameKeyword configuredItems ["b".toList] := by
    refine ⟨[.directive "name \"a\"".toList], _, _, _, [], rfl, ?_, List.forall_mem_nil _⟩
    refine ⟨["configuration \"x\" \x7b".toList], "    name \"b\"".toList,
      ["    sourcePaths \"c\"".toList, "\x7d".toList], rfl, ?_, ?_⟩
    · exact (tells_iff isWord_nameKeyword).mpr (by decide +kernel)
    · exact (silent_iff isWord_nameKeyword).mpr (by decide +kernel)
  have outside : TellsLast nameKeyword (outerLines configuredItems) ["a".toList] :=
    tellsLast_singleton.mpr ((tells_iff isWord_nameKeyword).mpr (by decide +kernel))
  have none : Silent directoriesKeyword (outerLines configuredItems) :=
    (silent_iff isWord_directoriesKeyword).mpr (by decide +kernel)
  refine ⟨whole, outer, toldOutside.noDirectories none, told.name _ _ inBlock.tellsLast, fun same => ?_⟩
  have name := (agree.mp same).1 _ inBlock
  rw [toldOutside.name _ _ outside] at name
  exact absurd name (by decide)

end DocSite
