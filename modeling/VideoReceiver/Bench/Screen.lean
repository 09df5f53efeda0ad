import VideoReceiver.Display

/-!
# A scripted screen

A display for tests. It follows a script of failures, keeps every commit, and knows what other
parties do to the mailbox while a commit runs.

## Main definitions

- `CommitScript`: the script
- `Screen`: the display
- `presentScript`: a whole run of the display stage over a script
-/

namespace VideoReceiver.Bench

/-- What happens at one commit. -/
structure CommitScript where
  fails : Bool := false
  actions : List MailboxAction := []
  deriving DecidableEq, Repr, Inhabited

/-- A display that follows a script. -/
structure Screen where
  script : List CommitScript := []
  /-- The surfaces committed so far, each with whether it was presented. -/
  commits : List (SurfaceId × Bool) := []
  /-- What other parties do during the latest commit. -/
  current : List MailboxAction := []
  deriving DecidableEq, Repr, Inhabited

namespace Screen

/-- Commits a surface as the next entry of the script says; without one the commit succeeds. -/
def commit (s : Screen) (surface : SurfaceId) : Except ReceiverError Unit × Screen :=
  let entry := s.script.headD {}
  let screen : Screen :=
    { script := s.script.drop 1
      commits := s.commits ++ [(surface, !entry.fails)]
      current := entry.actions }
  (if entry.fails then .error (.display surface (some "fake commit rejected")) else .ok (), screen)

/-- The actions during the latest commit, and the end of the stream once the script is over. -/
def meanwhile (s : Screen) (m : Mailbox) : Mailbox :=
  let m := m.actAll s.current
  if s.script.isEmpty then m.finish else m

instance : DisplaySink Screen where
  commit := commit

end Screen

/-- Runs the display stage over a script, after some actions on a fresh mailbox. An empty script
ends the stream at once. -/
def presentScript (now : Instant) (before : List MailboxAction) (script : List CommitScript) :
    DisplayProgress Screen :=
  let mailbox := ({} : Mailbox).actAll before
  let mailbox := if script.isEmpty then mailbox.finish else mailbox
  DisplayStage.run Screen.meanwhile (fun _ => now) (script.length + 2)
    { sink := { script }, mailbox }

end VideoReceiver.Bench
