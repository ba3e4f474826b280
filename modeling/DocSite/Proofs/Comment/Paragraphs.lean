/-
Paragraphs of waiting comments.

The paragraphs that a register remembers, or that the reader of a block has so far, come from the lines that
were read: whatever holds of every piece of these lines holds of every paragraph. Handing a comment to a
declaration, repeating it and dropping it make no new ones.
-/
import DocSite.Proofs.Source.Pieces
import DocSite.Proofs.Walk.Comment

namespace DocSite

def Text.Offers (text : Text) (allowed : Text → Prop) : Prop :=
  ∀ piece, piece <:+: text → allowed piece

theorem Text.Offers.mono {text piece : Text} {allowed : Text → Prop} (offers : text.Offers allowed)
    (inside : piece <:+: text) : piece.Offers allowed :=
  fun part within => offers part (within.trans inside)

theorem Text.offers_anything (text : Text) : text.Offers fun _ => True :=
  fun _ _ => trivial

/-! ### Registers -/

structure CommentRegister.Within (allowed : Text → Prop) (register : CommentRegister) : Prop where
  collected : ∀ paragraph ∈ register.collected, allowed paragraph
  last : ∀ paragraph ∈ register.last, allowed paragraph

namespace CommentRegister

variable {allowed : Text → Prop} {register : CommentRegister}

theorem within_empty : empty.Within allowed :=
  ⟨nofun, nofun⟩

theorem within_anything (register : CommentRegister) : register.Within fun _ => True :=
  ⟨fun _ _ => trivial, fun _ _ => trivial⟩

theorem Within.mono {more : Text → Prop} (within : register.Within allowed)
    (weaker : ∀ paragraph, allowed paragraph → more paragraph) : register.Within more :=
  ⟨fun paragraph member => weaker paragraph (within.collected paragraph member),
    fun paragraph member => weaker paragraph (within.last paragraph member)⟩

theorem Within.pending (within : register.Within allowed) :
    ∀ paragraph ∈ register.pending, allowed paragraph :=
  fun paragraph member => within.collected paragraph (mem_of_mem_trimEmptyLines member)

theorem Within.discard (within : register.Within allowed) : register.discard.Within allowed :=
  ⟨nofun, within.last⟩

theorem Within.ditto (within : register.Within allowed) : register.ditto.Within allowed :=
  ⟨within.last, within.last⟩

theorem Within.beginBlock (within : register.Within allowed) {paragraphs : List Text}
    (fresh : ∀ paragraph ∈ paragraphs, allowed paragraph) :
    (register.beginBlock paragraphs).Within allowed :=
  ⟨fresh, within.last⟩

theorem Within.extend (within : register.Within allowed) {paragraphs : List Text}
    (fresh : ∀ paragraph ∈ paragraphs, allowed paragraph) :
    (register.extend paragraphs).Within allowed := by
  refine ⟨?_, within.last⟩
  intro paragraph member
  rcases List.mem_append.mp member with old | new
  · exact within.collected paragraph old
  · exact fresh paragraph new

theorem Within.attach (within : register.Within allowed) : register.attach.2.Within allowed := by
  refine ⟨nofun, ?_⟩
  unfold CommentRegister.attach
  dsimp only
  split
  · exact within.last
  · exact within.pending

/-- A declaration takes what waits or the trailing comment of its own line. -/
theorem Within.attachWith (within : register.Within allowed) {trailing : Text}
    (offers : trailing.Offers allowed) :
    (∀ paragraph ∈ (register.attachWith trailing).1, allowed paragraph) ∧
      (register.attachWith trailing).2.Within allowed := by
  unfold CommentRegister.attachWith
  split
  · cases found : trailingComment? trailing with
    | none => exact ⟨within.pending, within.attach⟩
    | some text =>
        have fresh : (register.beginBlock [text]).Within allowed := by
          apply within.beginBlock
          intro paragraph member
          rw [List.mem_singleton.mp member]
          exact offers text (trailingComment?_isInfix found)
        exact ⟨fresh.pending, fresh.attach⟩
  · exact ⟨within.pending, within.attach⟩

end CommentRegister

/-! ### Readers -/

def CommentReader.Within (allowed : Text → Prop) : CommentReader → Prop
  | .idle register => register.Within allowed
  | .block register paragraphs =>
      register.Within allowed ∧ ∀ paragraph ∈ paragraphs, allowed paragraph
  | .nested register _ paragraphs =>
      register.Within allowed ∧ ∀ paragraph ∈ paragraphs, allowed paragraph

namespace CommentReader

variable {allowed : Text → Prop}

theorem Within.register {reader : CommentReader} (within : reader.Within allowed) :
    reader.register.Within allowed := by
  cases reader with
  | idle register => exact within
  | block register paragraphs => exact within.1
  | nested register depth paragraphs => exact within.1

theorem Within.mono {more : Text → Prop} {reader : CommentReader} (within : reader.Within allowed)
    (weaker : ∀ paragraph, allowed paragraph → more paragraph) : reader.Within more := by
  cases reader with
  | idle register => exact CommentRegister.Within.mono within weaker
  | block register paragraphs =>
      exact ⟨within.1.mono weaker, fun paragraph member => weaker paragraph (within.2 paragraph member)⟩
  | nested register depth paragraphs =>
      exact ⟨within.1.mono weaker, fun paragraph member => weaker paragraph (within.2 paragraph member)⟩

section Lines

variable {register : CommentRegister} {paragraphs : List Text} {body : Text}

theorem mem_append_cleaned (old : ∀ paragraph ∈ paragraphs, allowed paragraph)
    (offers : body.Offers allowed) :
    ∀ paragraph ∈ paragraphs ++ [cleanCommentLine body], allowed paragraph := by
  intro paragraph member
  rcases List.mem_append.mp member with before | here
  · exact old paragraph before
  · rw [List.mem_singleton.mp here]
    exact offers _ (cleanCommentLine_isInfix body)

theorem within_closed (within : register.Within allowed)
    (old : ∀ paragraph ∈ paragraphs, allowed paragraph) (offers : body.Offers allowed) :
    (register.beginBlock (trimEmptyLines (paragraphs ++ [cleanCommentLine body]))).Within allowed :=
  within.beginBlock fun paragraph member =>
    mem_append_cleaned old offers paragraph (mem_of_mem_trimEmptyLines member)

theorem within_readBlock (within : register.Within allowed)
    (old : ∀ paragraph ∈ paragraphs, allowed paragraph) (offers : body.Offers allowed) :
    (readBlock register paragraphs body).Within allowed := by
  unfold readBlock
  cases found : Text.cut? "*/".toList body with
  | none => exact ⟨within, mem_append_cleaned old offers⟩
  | some parts => exact within_closed within old (offers.mono (Text.fst_infix_of_cut? found))

theorem within_readNested (within : register.Within allowed) (depth : Int)
    (old : ∀ paragraph ∈ paragraphs, allowed paragraph) (offers : body.Offers allowed) :
    (readNested register depth paragraphs body).Within allowed := by
  unfold readNested
  split
  · exact within_closed within old (offers.mono (dropNestingCloser_isInfix body))
  · exact ⟨within, mem_append_cleaned old offers⟩

theorem within_opened (within : register.Within allowed) {text : Text} (offers : text.Offers allowed)
    (style : CommentStyle) : (opened register text style).Within allowed := by
  cases style with
  | line =>
      apply CommentRegister.Within.extend within
      intro paragraph member
      rw [List.mem_singleton.mp member]
      exact offers _ ((Text.trim_isInfix _).trans (List.dropWhile_suffix _).isInfix)
  | block => exact within_readBlock within nofun (offers.mono (blockBody_isInfix text))
  | nested =>
      exact within_readNested within _ nofun (offers.mono (List.drop_suffix 2 text).isInfix)

end Lines

/-- Reading a line adds pieces of the line. -/
theorem Within.read? {reader next : CommentReader} {text : Text} (within : reader.Within allowed)
    (offers : text.Offers allowed) (reads : reader.read? text = some next) : next.Within allowed := by
  cases reader with
  | idle register =>
      by_cases ditto : isDitto text = true
      · rw [CommentReader.read?, if_pos ditto] at reads
        cases reads
        exact CommentRegister.Within.ditto within
      · rw [CommentReader.read?, if_neg ditto] at reads
        obtain ⟨style, _, equal⟩ := Option.map_eq_some_iff.mp reads
        rw [← equal]
        exact within_opened within offers style
  | block register paragraphs =>
      cases reads
      exact within_readBlock within.1 within.2 offers
  | nested register depth paragraphs =>
      cases reads
      exact within_readNested within.1 _ within.2 offers

end CommentReader
end DocSite
