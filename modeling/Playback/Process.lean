import Playback.Number.Basic
import Playback.Text.Utf8

/-!
This module contains the commands that are run on the host, and what comes of them.
-/

namespace Playback

/--
A command with the limit on its time in seconds.
-/
structure Command where
  arguments : List String
  timeout : Number
  input : Option String := none
  files : List (String × String) := []
  /-- The encoding that the command is told to use for its input and output. -/
  encoding : Option String := none
deriving DecidableEq

/--
Output of a command that was stopped. It may not have been decoded.
-/
inductive Captured where
  | text (s : String)
  | bytes (bs : List UInt8)
deriving DecidableEq

def Captured.toText : Captured → String
  | .text s => s
  | .bytes bs => Text.decodeUtf8 bs

inductive ProcessOutcome where
  /-- The command came to its end. The time is counted in milliseconds. -/
  | finished (stdout stderr : String) (exitCode : Int) (elapsed : Binary64)
  | unstartable (message : String)
  | timedOut (stdout stderr : Option Captured)
deriving DecidableEq

def capturedText (captured : Option Captured) : String :=
  (captured.map Captured.toText).getD ""

end Playback
