/-
# The machine that modules run on

A host has a tree of files and can start programs. What a program does is up to it: it may
change files, and ends with an exit code or by a signal; or it cannot be started at all. The
host keeps a record of the commands that were started.
-/

import Casework.Host.FileTree
import Casework.Supply

namespace Casework

/-- How a program ended. -/
inductive ExitStatus where
  | code (n : Int)
  | signal
deriving DecidableEq, Repr

/-- A machine with files and programs. -/
structure Host where
  files : FileTree
  /-- What starting a command does: the cause why it cannot start, or its end and the files
  that it leaves. -/
  launch : List String → FileTree → Except String (ExitStatus × FileTree)
  supply : Supply
  /-- The commands that were started, the first one first. -/
  started : List (List String) := []

namespace Host

/-- Starts a command and waits for its end. -/
def execute (h : Host) (command : List String) : Except ModuleError ExitStatus × Host :=
  if command.any fun arg => arg.toList.contains '\x00' then
    (.error (.spawn "nul byte found in provided data"), h)
  else
    match h.launch command h.files with
    | .error cause => (.error (.spawn cause), h)
    | .ok (status, files) =>
      (.ok status, { h with files := files, started := h.started ++ [command] })

end Host
end Casework
