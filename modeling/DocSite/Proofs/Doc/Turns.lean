/-
One turn of a loop.

The loops over the lines of a module, of an aggregate and of an enum have the same shape: a comment goes to
the register, and any other line is read as code. Each loop has one equation for either turn.
-/
import DocSite.Doc.Extraction

namespace DocSite

theorem openAggregateBody_consumed {balance : Int} {register next : CommentRegister} {line : Line}
    {rest remaining : List Line} (consumed : register.consume? line rest = some (next, remaining)) :
    openAggregateBody balance register (line :: rest) =
      openAggregateBody balance next remaining := by
  rw [openAggregateBody]
  split
  · rename_i other others again
    rw [consumed] at again
    cases again
    rfl
  · rename_i ignored
    rw [consumed] at ignored
    cases ignored

theorem openAggregateBody_ignored {balance : Int} {register : CommentRegister} {line : Line}
    {rest : List Line} (ignored : register.consume? line rest = none) :
    openAggregateBody balance register (line :: rest) =
      let (code, trailing) := splitLineComment line.text
      let delta := braceDelta code
      let after := balance + delta
      if closesBody after delta code then
        (if balance = 1 then inlineMembers (bodySegment code false true) line.number else [], rest)
      else
        let (members, register) := memberOfLine balance after register code trailing line.number
        let (more, remaining) := openAggregateBody after register rest
        (members ++ more, remaining) := by
  rw [openAggregateBody]
  split
  · rename_i consumed
    rw [ignored] at consumed
    cases consumed
  · rfl

theorem openEnumBody_consumed {balance : Int} {register next : CommentRegister} {line : Line}
    {rest remaining : List Line} (consumed : register.consume? line rest = some (next, remaining)) :
    openEnumBody balance register (line :: rest) = openEnumBody balance next remaining := by
  rw [openEnumBody]
  split
  · rename_i other others again
    rw [consumed] at again
    cases again
    rfl
  · rename_i ignored
    rw [consumed] at ignored
    cases ignored

theorem openEnumBody_ignored {balance : Int} {register : CommentRegister} {line : Line}
    {rest : List Line} (ignored : register.consume? line rest = none) :
    openEnumBody balance register (line :: rest) =
      let (code, trailing) := splitLineComment line.text
      let delta := braceDelta code
      let after := balance + delta
      let closed := closesBody after delta code
      let (members, register) :=
        membersOfLine balance closed register code trailing line.number false
      if closed then (members, rest)
      else
        let (more, remaining) := openEnumBody after register rest
        (members ++ more, remaining) := by
  rw [openEnumBody]
  split
  · rename_i consumed
    rw [ignored] at consumed
    cases consumed
  · rfl

theorem moduleEntries_consumed {register next : CommentRegister} {line : Line}
    {rest remaining : List Line} (consumed : register.consume? line rest = some (next, remaining)) :
    moduleEntries register (line :: rest) = moduleEntries next remaining := by
  rw [moduleEntries]
  split
  · rename_i other others again
    rw [consumed] at again
    cases again
    rfl
  · rename_i ignored
    rw [consumed] at ignored
    cases ignored

theorem moduleEntries_ignored {register : CommentRegister} {line : Line} {rest : List Line}
    (ignored : register.consume? line rest = none) :
    moduleEntries register (line :: rest) =
      (stepCode register line rest).entries ++
        moduleEntries (stepCode register line rest).register
          (stepCode register line rest).remaining := by
  rw [moduleEntries]
  split
  · rename_i consumed
    rw [ignored] at consumed
    cases consumed
  · rfl

end DocSite
