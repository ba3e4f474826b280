/-
The markup of comments.

While a comment is read, at most one of its two flags is set, and what has been written leaves open what the
flags say and nothing else. Every line keeps this, whatever it opens or closes, so the end of the comment
closes all that is open.
-/
import DocSite.Page.Comment
import DocSite.Proofs.Page.Nesting

namespace DocSite

/-! ### Parts -/

section Parts

variable {opened : List Tag}

theorem shows_paragraph (text : Text) : Shows opened (paragraph text) opened [] := by
  have opens : Shows opened "<p>".toList (.paragraph :: opened) [] :=
    .fixed [.bare .paragraph] (by decide) (by decide) rfl
  have closes : Shows (.paragraph :: opened) "</p>\n".toList opened [] :=
    .fixed [.stop .paragraph, .text ['\n']] (by decide) (by decide) rfl
  exact (opens.andThen (.escape text)).andThen closes

theorem shows_parameterItem (text : Text) : Shows opened (parameterItem text) opened [] := by
  have closes : Shows (.item :: opened) "</li>\n".toList opened [] :=
    .fixed [.stop .item, .text ['\n']] (by decide) (by decide) rfl
  unfold parameterItem
  cases Text.cutAt? '=' text with
  | none =>
      have opens : Shows opened "<li>".toList (.item :: opened) [] :=
        .fixed [.bare .item] (by decide) (by decide) rfl
      exact (opens.andThen (.escape text)).andThen closes
  | some parts =>
      obtain ⟨name, description⟩ := parts
      have opens : Shows opened "<li><span class=\"param-name\">".toList (.span :: .item :: opened) [] :=
        .fixed [.bare .item, .start .span "param-name".toList] (by decide) (by decide) rfl
      have named : Shows (.span :: .item :: opened) "</span> ".toList (.item :: opened) [] :=
        .fixed [.stop .span, .text [' ']] (by decide) (by decide) rfl
      exact (((opens.andThen (.escape _)).andThen named).andThen (.escape _)).andThen closes

theorem shows_parametersOpening : Shows opened parametersOpening (.list :: opened) [] :=
  .fixed [.start .division "ddoc-section".toList, .text parametersHeading, .stop .division, .text ['\n'],
    .start .list "params-list".toList, .text ['\n']] (by decide) (by decide) rfl

theorem shows_parametersClosing : Shows (.list :: opened) parametersClosing opened [] :=
  .fixed [.stop .list, .text ['\n']] (by decide) (by decide) rfl

theorem shows_exampleOpening : Shows opened exampleOpening (.code :: .preformatted :: opened) [] :=
  .fixed [.start .preformatted "example".toList, .bare .code] (by decide) (by decide) rfl

theorem shows_exampleClosing : Shows (.code :: .preformatted :: opened) exampleClosing opened [] :=
  .fixed [.stop .code, .stop .preformatted, .text ['\n']] (by decide) (by decide) rfl

theorem shows_returnsPart (description : Text) : Shows opened (returnsPart description) opened [] := by
  have opens : Shows opened ("<div class=\"returns\"><span class=\"ddoc-section\">".toList ++ returnsHeading ++
      "</span> ".toList) (.division :: opened) [] :=
    .fixed [.start .division "returns".toList, .start .span "ddoc-section".toList, .text returnsHeading,
      .stop .span, .text [' ']] (by decide) (by decide) rfl
  have closes : Shows (.division :: opened) "</div>\n".toList opened [] :=
    .fixed [.stop .division, .text ['\n']] (by decide) (by decide) rfl
  exact (opens.andThen (.escape description)).andThen closes

theorem shows_sectionPart (name description : Text) : Shows opened (sectionPart name description) opened [] := by
  have opens : Shows opened "<div class=\"ddoc-section\">".toList (.division :: opened) [] :=
    .fixed [.start .division "ddoc-section".toList] (by decide) (by decide) rfl
  have closes : Shows (.division :: opened) "</div>\n".toList opened [] :=
    .fixed [.stop .division, .text ['\n']] (by decide) (by decide) rfl
  have described : Shows opened (if description.isEmpty then [] else paragraph description) opened [] := by
    cases description.isEmpty with
    | true => exact .nil
    | false => exact shows_paragraph description
  exact ((opens.andThen (.escape _)).andThen closes).andThen described

end Parts

/-! ### Reading -/

namespace CommentPage

def opened (page : CommentPage) : List Tag :=
  (if page.inParameters then [.list] else []) ++ if page.inCode then [.code, .preformatted] else []

/-- Whether what has been written leaves open what the flags say, and not both of it. -/
structure IsTracked (page : CommentPage) : Prop where
  apart : page.inCode = true → page.inParameters = false
  shows {around : List Tag} : Shows around page.written (page.opened ++ around) []

variable {page : CommentPage}

theorem isTracked_begin : IsTracked {} := ⟨nofun, .nil⟩

/-- Markup that closes what it opens changes neither flag. -/
theorem IsTracked.write (tracked : page.IsTracked) {markup : Text}
    (whole : ∀ opened, Shows opened markup opened []) : (page.write markup).IsTracked :=
  ⟨tracked.apart, tracked.shows.andThen (whole _)⟩

/-- A list of parameters that is open is closed, and no other markup is written. -/
theorem IsTracked.closeParameters (tracked : page.IsTracked) :
    page.closeParameters.IsTracked ∧ page.closeParameters.inParameters = false ∧
      page.closeParameters.inCode = page.inCode := by
  obtain ⟨written, inParameters, inCode⟩ := page
  cases inParameters with
  | false => exact ⟨tracked, rfl, rfl⟩
  | true =>
      cases inCode with
      | true => exact nomatch tracked.apart rfl
      | false => exact ⟨⟨nofun, tracked.shows.andThen shows_parametersClosing⟩, rfl, rfl⟩

theorem IsTracked.readPart (tracked : page.IsTracked) (noCode : page.inCode = false) (text : Text) :
    (page.readPart text).IsTracked := by
  obtain ⟨closed, noParameters, sameCode⟩ := tracked.closeParameters
  unfold CommentPage.readPart
  by_cases heading : text = parametersHeading
  · rw [if_pos heading]
    rw [noCode] at sameCode
    generalize page.closeParameters = between at closed noParameters sameCode
    obtain ⟨written, inParameters, inCode⟩ := between
    subst noParameters sameCode
    exact ⟨nofun, closed.shows.andThen shows_parametersOpening⟩
  rw [if_neg heading]
  cases Text.afterPrefix? returnsHeading text with
  | some description => exact closed.write fun _ => shows_returnsPart _
  | none =>
      cases sectionHeading? text with
      | some parts => exact closed.write fun _ => shows_sectionPart parts.1 parts.2
      | none =>
          dsimp only
          cases text.isEmpty with
          | true => exact tracked
          | false =>
              rw [if_neg Bool.false_ne_true]
              refine tracked.write fun _ => ?_
              cases page.inParameters with
              | true => exact shows_parameterItem text
              | false => exact shows_paragraph text

/-- No line of a comment leaves anything open that the flags do not tell. -/
theorem IsTracked.readLine (tracked : page.IsTracked) (line : Text) : (page.readLine line).IsTracked := by
  unfold CommentPage.readLine
  by_cases fence : Text.trim line = codeFence
  · rw [if_pos fence]
    cases inCode : page.inCode with
    | true =>
        obtain ⟨written, inParameters, code⟩ := page
        obtain rfl : code = true := inCode
        obtain rfl : inParameters = false := tracked.apart rfl
        exact ⟨nofun, tracked.shows.andThen shows_exampleClosing⟩
    | false =>
        obtain ⟨closed, noParameters, sameCode⟩ := tracked.closeParameters
        rw [inCode] at sameCode
        generalize page.closeParameters = between at closed noParameters sameCode
        obtain ⟨written, inParameters, code⟩ := between
        subst noParameters sameCode
        exact ⟨fun _ => rfl, closed.shows.andThen shows_exampleOpening⟩
  · rw [if_neg fence]
    cases inCode : page.inCode with
    | true =>
        have lineBreak (opened : List Tag) : Shows opened ['\n'] opened [] :=
          .text ⟨by decide, by decide⟩
        exact tracked.write fun opened => (Shows.escape line).andThen (lineBreak opened)
    | false => exact tracked.readPart inCode _

theorem IsTracked.finish (tracked : page.IsTracked) {around : List Tag} : Shows around page.finish around [] := by
  obtain ⟨closed, noParameters, -⟩ := tracked.closeParameters
  unfold CommentPage.finish
  generalize page.closeParameters = between at closed noParameters
  obtain ⟨written, inParameters, inCode⟩ := between
  subst noParameters
  cases inCode with
  | true => exact closed.shows.andThen shows_exampleClosing
  | false => exact closed.shows

end CommentPage

/-- A comment closes the elements that it opens, whatever its lines are. -/
theorem shows_formatComment (comments : List Text) {opened : List Tag} :
    Shows opened (formatComment comments) opened [] := by
  have tracked (page : CommentPage) (begun : page.IsTracked) :
      (comments.foldl CommentPage.readLine page).IsTracked := by
    induction comments generalizing page with
    | nil => exact begun
    | cons line comments ih => exact ih _ (begun.readLine line)
  exact (tracked _ CommentPage.isTracked_begin).finish

end DocSite
