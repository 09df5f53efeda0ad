import VideoReceiver.Config.Pattern.Reader
import VideoReceiver.Text.Alphanumeric

/-!
# Groups in patterns

A group may have a name or change what signs mean in it. A directive looks like a group without
content, and changes what signs mean up to the end of the group around it.

## Main definitions

- `Pattern.isGroupName`: the names of groups
- `Pattern.Modes.change`: the effect of flags
- `Pattern.openGroup`: the start of a group, or a directive
-/

namespace VideoReceiver.Pattern

/-- Whether a text is the name of a group: a letter or underscore, and then also numbers, points and
brackets. -/
def isGroupName : List Char → Bool
  | [] => false
  | x :: cs =>
    (x = '_' || Text.isAlphabetic x) &&
      cs.all fun y => y = '_' || y = '.' || y = '[' || y = ']' || Text.isAlphanumeric y

/-- Whether a text is made of flags: each at most once, and at most one hyphen, which is not the
last of them. -/
def areFlags (flags : List Char) : Bool :=
  flags.all ("imsUuRx-".contains ·) && decide flags.Nodup && flags.getLast? != some '-'

/-- The effect of flags. Those behind a hyphen are turned off. Most have no effect on what may be
written. -/
def Modes.change (flags : List Char) (m : Modes) : Modes :=
  let on := flags.takeWhile (· ≠ '-')
  let off := flags.drop on.length
  let value (flag : Char) (old : Bool) : Bool :=
    if on.contains flag then true else old && !off.contains flag
  { unicode := value 'u' m.unicode
    ignoreCase := value 'i' m.ignoreCase
    verbose := value 'x' m.verbose }

/-- Reads the name of a group up to its closing bracket. No two groups have one name. -/
def groupName (cs : List Char) : Reading Unit := do
  let name := cs.takeWhile (· ≠ '>')
  guard (isGroupName name && cs.length ≠ name.length && !(← get).names.contains name)
  modify fun r => { r with names := name :: r.names }
  goOn (cs.drop (name.length + 1))

/-- Reads the start of a group behind its parenthesis, or a whole directive, and says whether it is
a group. A directive has flags. -/
def openGroup : Reading Bool := do
  skipSpace
  match ← rest with
  | '?' :: 'P' :: '<' :: cs | '?' :: '<' :: cs =>
    groupName cs
    return true
  | '?' :: cs =>
    let flags := cs.takeWhile fun x => x ≠ ':' && x ≠ ')'
    guard (areFlags flags)
    setModes ((← modes).change flags)
    goOn (cs.drop flags.length)
    let isGroup := (← next) = ':'
    guard (isGroup || !flags.isEmpty)
    return isGroup
  | _ => return true

end VideoReceiver.Pattern
