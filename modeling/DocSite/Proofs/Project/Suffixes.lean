/-
Suffixes of sources.

A name is told to be that of a source by what stands behind its last point, in either case, provided that
something stands in front of the point. Of all letters only the four of the suffixes themselves are written in
lower case like one of them.
-/
import Mathlib.Tactic.SplitIfs
import DocSite.Proofs.Project.Names
import DocSite.Proofs.Text.Pieces

namespace DocSite

def HasSourceSuffix (name : Text) : Prop :=
  ∃ stem extension, stem ≠ [] ∧ name = stem ++ '.' :: extension ∧
    (extension.map Char.toLower = ['d'] ∨ extension.map Char.toLower = ['d', 'i'])

/-! ### Lower case -/

def IsSuffixLetter (character : Char) : Prop := character = 'd' ∨ character = 'i'

theorem IsSuffixLetter.toNat_lt {character : Char} (letter : IsSuffixLetter character) :
    0 < character.toNat ∧ character.toNat < 0x6b := by
  rcases letter with rfl | rfl <;> decide

theorem movedBy_lowerRuns {code : Nat} (large : 0x80 ≤ code) : 0x6b ≤ movedBy lowerRuns code := by
  have shifted : ∀ run ∈ lowerRuns, 0x6b ≤ (run.first : Int) + run.shift := by decide +kernel
  unfold movedBy
  cases found : lowerRuns.find? (·.moves code) with
  | none => exact Nat.le_trans (by decide) large
  | some run =>
      have far := shifted run (List.mem_of_find?_eq_some found)
      have moves := List.find?_some found
      unfold CaseRun.moves at moves
      rw [Bool.and_eq_true, Bool.and_eq_true, decide_eq_true_iff, decide_eq_true_iff] at moves
      have within := moves.1.1
      dsimp only [Int.ofNat_eq_natCast]
      omega

theorem not_isSuffixLetter_ofNat {code : Nat} (large : 0x6b ≤ code) : ¬IsSuffixLetter (Char.ofNat code) := by
  intro letter
  have bounds := letter.toNat_lt
  by_cases valid : code.isValidChar
  · rw [Char.ofNat, dif_pos valid, show (Char.ofNatAux code valid).toNat = code from rfl] at bounds
    omega
  · rw [Char.ofNat, dif_neg valid] at bounds
    exact absurd bounds.1 (by decide)

theorem toLower_of_large {character : Char} (large : 0x80 ≤ character.toNat) : character.toLower = character := by
  unfold Char.toLower
  rw [dif_neg]
  rintro ⟨-, capital⟩
  have small : character.toNat ≤ 0x5a := capital
  omega

/-- In lower case a letter beyond U+007F has a character that belongs to no suffix. -/
theorem exists_mem_lowerCase {character : Char} (large : 0x80 ≤ character.toNat) :
    ∃ lowered ∈ lowerCase character, ¬IsSuffixLetter lowered := by
  unfold lowerCase
  dsimp only
  rw [if_neg (Nat.not_lt.mpr large)]
  by_cases dotted : character.toNat = 0x130
  · rw [if_pos dotted]
    refine ⟨Char.ofNat 0x307, List.mem_cons_of_mem _ List.mem_cons_self, ?_⟩
    exact not_isSuffixLetter_ofNat (by decide)
  · rw [if_neg dotted]
    exact ⟨_, List.mem_cons_self, not_isSuffixLetter_ofNat (movedBy_lowerRuns large)⟩

namespace Text

theorem lowerAfter_ascii {character : Char} (small : character.toNat < 0x80) (before rest : Text) :
    lowerAfter before (character :: rest) = character.toLower :: lowerAfter (character :: before) rest := by
  rw [lowerAfter, if_neg (by omega), lowerCase, if_pos small, List.singleton_append]

theorem exists_mem_lowerAfter {character : Char} (large : 0x80 ≤ character.toNat) (before rest : Text) :
    ∃ lowered ∈ lowerAfter before (character :: rest), ¬IsSuffixLetter lowered := by
  rw [lowerAfter]
  by_cases sigma : character.toNat = 0x3a3
  · rw [if_pos sigma, List.singleton_append]
    refine ⟨_, List.mem_cons_self, not_isSuffixLetter_ofNat ?_⟩
    split <;> decide
  · rw [if_neg sigma]
    obtain ⟨lowered, member, other⟩ := exists_mem_lowerCase large
    exact ⟨lowered, List.mem_append_left _ member, other⟩

/-- A text is written like a suffix in lower case exactly if it is in the lower case of ASCII. -/
theorem lowerAfter_eq_iff {suffix : Text} (letters : ∀ character ∈ suffix, IsSuffixLetter character)
    (before text : Text) : lowerAfter before text = suffix ↔ text.map Char.toLower = suffix := by
  induction text generalizing before suffix with
  | nil => rw [lowerAfter, List.map_nil]
  | cons character rest ih =>
      by_cases small : character.toNat < 0x80
      · rw [lowerAfter_ascii small, List.map_cons]
        cases suffix with
        | nil => exact iff_of_false (List.cons_ne_nil _ _) (List.cons_ne_nil _ _)
        | cons letter suffix =>
            rw [List.cons.injEq, List.cons.injEq,
              ih fun other member => letters other (List.mem_cons_of_mem _ member)]
      · have large := Nat.le_of_not_lt small
        refine iff_of_false (fun same => ?_) fun same => ?_
        · obtain ⟨lowered, member, other⟩ := exists_mem_lowerAfter large before rest
          exact other (letters lowered (same ▸ member))
        · have begins : character.toLower ∈ suffix := by
            rw [← same, List.map_cons]
            exact List.mem_cons_self
          have bounds := (letters _ begins).toNat_lt
          rw [toLower_of_large large] at bounds
          omega

theorem toLower_eq_iff {suffix : Text} (letters : ∀ character ∈ suffix, IsSuffixLetter character)
    (extension : Text) :
    toLower ('.' :: extension) = '.' :: suffix ↔ extension.map Char.toLower = suffix := by
  rw [toLower, lowerAfter_ascii (by decide), List.cons.injEq, lowerAfter_eq_iff letters]
  exact and_iff_right (by decide)

end Text

/-! ### Extensions -/

theorem FilePath.splitName_eq_iff {name stem extension : Text} (filled : extension ≠ []) :
    splitName name = (stem, '.' :: extension) ↔
      stem ≠ [] ∧ name = stem ++ '.' :: extension ∧ '.' ∉ extension := by
  unfold splitName
  constructor
  · intro split
    cases cut : Text.cutAtLast? '.' name with
    | none =>
        rw [cut] at split
        cases split
    | some parts =>
        obtain ⟨before, after⟩ := parts
        rw [cut] at split
        dsimp only at split
        split_ifs at split with short
        · cases split
        · cases split
          rw [Bool.or_eq_true, not_or, List.isEmpty_iff, List.isEmpty_iff] at short
          exact ⟨short.1, Text.cutAtLast?_eq_some_iff.mp cut⟩
  · rintro ⟨stemmed, whole⟩
    have full : (stem.isEmpty || extension.isEmpty) = false := by
      rw [Bool.or_eq_false_iff, List.isEmpty_eq_false_iff, List.isEmpty_eq_false_iff]
      exact ⟨stemmed, filled⟩
    rw [Text.cutAtLast?_eq_some_iff.mpr whole]
    dsimp only
    rw [full, if_neg Bool.false_ne_true]

theorem FilePath.splitName_cases (name : Text) : (splitName name).2 = [] ∨
    ∃ stem extension, extension ≠ [] ∧ splitName name = (stem, '.' :: extension) := by
  unfold splitName
  cases Text.cutAtLast? '.' name with
  | none => exact .inl rfl
  | some parts =>
      dsimp only
      split_ifs with short
      · exact .inl rfl
      · rw [Bool.or_eq_true, not_or, List.isEmpty_iff, List.isEmpty_iff] at short
        exact .inr ⟨_, _, short.2, rfl⟩

theorem isSourceFile_iff_toLower {path : FilePath} : isSourceFile path = true ↔
    Text.toLower path.extension = ['.', 'd'] ∨ Text.toLower path.extension = ['.', 'd', 'i'] := by
  unfold isSourceFile
  rw [Bool.or_eq_true, beq_iff_eq, beq_iff_eq]
  exact Iff.rfl

theorem toLower_suffix_iff (extension : Text) :
    (Text.toLower ('.' :: extension) = ['.', 'd'] ∨ Text.toLower ('.' :: extension) = ['.', 'd', 'i']) ↔
      extension.map Char.toLower = ['d'] ∨ extension.map Char.toLower = ['d', 'i'] := by
  have single : ∀ character ∈ ['d'], IsSuffixLetter character := by
    rintro character (_ | ⟨_, impossible⟩)
    · exact .inl rfl
    · cases impossible
  have double : ∀ character ∈ ['d', 'i'], IsSuffixLetter character := by
    rintro character (_ | ⟨_, _ | ⟨_, impossible⟩⟩)
    · exact .inl rfl
    · exact .inr rfl
    · cases impossible
  rw [Text.toLower_eq_iff single, Text.toLower_eq_iff double]

/-- Whether a file is a source is told by the suffix of its name. -/
theorem isSourceFile_iff {path : FilePath} : isSourceFile path = true ↔ HasSourceSuffix path.name := by
  rw [isSourceFile_iff_toLower]
  constructor
  · intro source
    unfold FilePath.extension at source
    rcases FilePath.splitName_cases path.name with none | ⟨stem, extension, filled, split⟩
    · rw [none] at source
      rcases source with impossible | impossible <;> cases impossible
    · rw [split] at source
      obtain ⟨stemmed, whole, -⟩ := (FilePath.splitName_eq_iff filled).mp split
      exact ⟨stem, extension, stemmed, whole, (toLower_suffix_iff extension).mp source⟩
  · rintro ⟨stem, extension, stemmed, whole, lower⟩
    have filled : extension ≠ [] := by
      rintro rfl
      rcases lower with impossible | impossible <;> cases impossible
    have pointless : '.' ∉ extension := by
      intro member
      have lowered : '.' ∈ extension.map Char.toLower := List.mem_map.mpr ⟨'.', member, by decide⟩
      rcases lower with lower | lower <;> rw [lower] at lowered <;> exact absurd lowered (by decide)
    have split := (FilePath.splitName_eq_iff filled).mpr ⟨stemmed, whole, pointless⟩
    rw [FilePath.extension, split]
    exact (toLower_suffix_iff extension).mpr lower

end DocSite
