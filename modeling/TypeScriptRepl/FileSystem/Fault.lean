/-! Why an operation on files fails. -/
namespace TypeScriptRepl.FileSystem

inductive Fault where
  | notFound
  | wrongFormat
  | denied
  | alreadyThere
  | notDirectory
  | isDirectory
  | tooLarge
  | noSpace
  | nameTooLong
  | notText
  | nulInPath
  | nulInArgument
  | noParent
deriving Repr, DecidableEq, Inhabited

namespace Fault

private def numbered (what : String) (n : Nat) : String := what ++ " (os error " ++ toString n ++ ")"

def message : Fault → String
  | notFound => numbered "No such file or directory" 2
  | wrongFormat => numbered "Exec format error" 8
  | denied => numbered "Permission denied" 13
  | alreadyThere => numbered "File exists" 17
  | notDirectory => numbered "Not a directory" 20
  | isDirectory => numbered "Is a directory" 21
  | tooLarge => numbered "File too large" 27
  | noSpace => numbered "No space left on device" 28
  | nameTooLong => numbered "File name too long" 36
  | notText => "stream did not contain valid UTF-8"
  | nulInPath => "file name contained an unexpected NUL byte"
  | nulInArgument => "nul byte found in provided data"
  | noParent => "failed to create whole tree"

end Fault
end TypeScriptRepl.FileSystem
