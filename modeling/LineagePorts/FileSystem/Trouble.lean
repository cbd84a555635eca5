/-!
# Troubles with paths

Why the disk refuses what it is asked to do with a path, and in which words it says so.
-/

namespace LineagePorts

inductive Trouble where
  | missing
  /-- A file stands where a directory is needed. -/
  | notDirectory
  | isDirectory
  | nameTooLong
  /-- The path names a directory by a dot, and such a name cannot be given to anything else. -/
  | busy
  /-- The path holds a NUL. -/
  | nulInPath
  /-- A failure of the device, in its own words. -/
  | device (words : String)
deriving DecidableEq

def Trouble.text : Trouble → String
  | .missing => "No such file or directory (os error 2)"
  | .notDirectory => "Not a directory (os error 20)"
  | .isDirectory => "Is a directory (os error 21)"
  | .nameTooLong => "File name too long (os error 36)"
  | .busy => "Device or resource busy (os error 16)"
  | .nulInPath => "file name contained an unexpected NUL byte"
  | .device words => words

end LineagePorts
