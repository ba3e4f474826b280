/-
The lines that the walk over an enum visits.

The members of an enum are read from every line that is not inside a value, the opening and the closing line
included. A line inside a value leaves what waits in place.
-/
import DocSite.Proofs.Comment.Visits
import DocSite.Proofs.Source.Code

namespace DocSite

structure EnumMemberDoc.WellPlaced (visit : BodyVisit EnumMemberDoc) : Prop where
  declared : ∀ trailing, visit.event = .declares trailing →
    trailing = visit.line.trailing? ∧ (visit.before ≤ 1 ∨ visit.after ≤ 0)
  recorded : visit.records ≠ [] → visit.before ≤ 1 ∨ visit.after ≤ 0

theorem comments_of_attachMembers {segment : Text} {number : Int} {register : CommentRegister}
    {trailing : Text} {member : EnumMemberDoc}
    (recorded : member ∈ (attachMembers segment number register trailing).1) :
    member.comments = (register.attachWith trailing).1 := by
  unfold attachMembers parseEnumMembers at recorded
  obtain ⟨piece, _, found⟩ := List.mem_filterMap.mp recorded
  unfold enumMember? at found
  dsimp only at found
  split at found
  · cases found
  · cases found
    rfl

end DocSite
