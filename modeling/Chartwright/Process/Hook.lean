import Chartwright.Spec.Manifest

/-!
# Hooks

Commands around a restart: those before it go in front of the command of the process, those after
it become a handler of its life cycle.
-/

namespace Chartwright.Hooks

/-- Commands that run one after the other while they succeed. -/
def chain (commands : List String) : String := " && ".intercalate commands

/-- The handler for the commands after a restart. -/
def lifecycle (hooks : Option Hooks) : Option Extension :=
  match hooks with
  | none => none
  | some h =>
    if h.after = [] then none
    else some [("postStart", .object [("exec", .object
      [("command", .texts ["sh", "-c", chain h.after])])])]

/-- A command with the commands before a restart in front of it; an empty one stays empty. -/
def prepend (before : List String) (command : List String) : List String :=
  let script := chain before ++ " && "
  match command with
  | [] => []
  | [program] => ["/bin/sh", "-lc", script ++ "exec " ++ program]
  | _ => "/bin/sh" :: "-lc" :: (script ++ "exec $0 \"$@\"") :: command

/-- The command of a process. -/
def command (hooks : Option Hooks) (command : List String) : List String :=
  match hooks with
  | none => command
  | some h => if h.before = [] then command else prepend h.before command

end Chartwright.Hooks
