/-
The part of a line that lies inside a container.

Members may share a line with the braces of their container. The segment of such a line is what stands
behind the first opening brace, if the body opens there, and before the last closing brace, if it
closes there.
-/
import DocSite.Source.Code

namespace DocSite

def bodySegment (code : Text) (opensHere closesHere : Bool) : Text :=
  let behindOpener :=
    if opensHere then ((Text.cutAt? '\x7b' code).map (·.2)).getD code else code
  let beforeCloser :=
    if closesHere then ((Text.cutAtLast? '\x7d' behindOpener).map (·.1)).getD behindOpener
    else behindOpener
  Text.trim beforeCloser

/-- Whether a line ends the body of a container: the braces are back in balance, and the line has a
closing brace of some kind. -/
def closesBody (balance delta : Int) (code : Text) : Bool :=
  decide (balance ≤ 0) && (decide (delta < 0) || code.contains '\x7d')

end DocSite
