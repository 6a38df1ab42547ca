/-!
# Errors of the operating system

What reading, writing, opening and starting can end with. Numbered errors are the system's own;
the others arise before the system is asked, or after it has answered.
-/

namespace Lockstep

/-- Why the system did not do what it was asked for. -/
inductive SystemError where
  /-- An error number of the system. -/
  | numbered (number : Nat)
  /-- A write that took no byte. -/
  | wroteNothing
  /-- A path with a NUL in it. -/
  | nulInPath
  /-- A command or the name of a program with a NUL in it. -/
  | nulInArgument
  /-- A file that was to be text and is not. -/
  | notText
  /-- An error of a reader or writer with a wording of its own. -/
  | worded (text : String)
  deriving Repr, DecidableEq

namespace SystemError

/-- There is no such file. -/
def notFound : SystemError := .numbered 2

/-- The file is not one that can run. -/
def badExecutable : SystemError := .numbered 8

/-- The descriptor is not open for this. -/
def badDescriptor : SystemError := .numbered 9

/-- Access is not allowed. -/
def permissionDenied : SystemError := .numbered 13

/-- A file stands where a directory is needed. -/
def notDirectory : SystemError := .numbered 20

/-- A directory stands where a file is needed. -/
def isDirectory : SystemError := .numbered 21

/-- What is asked for makes no sense there. -/
def invalidArgument : SystemError := .numbered 22

/-- There is no room for what is to be written. -/
def noSpace : SystemError := .numbered 28

/-- A name has too many bytes. -/
def nameTooLong : SystemError := .numbered 36

/-- Symbolic links lead on without end. -/
def tooManyLinks : SystemError := .numbered 40

/-- The address is not one of this machine. -/
def addressUnavailable : SystemError := .numbered 99

/-- There is no way to the address. -/
def networkUnreachable : SystemError := .numbered 101

/-- The connection is over already. -/
def notConnected : SystemError := .numbered 107

/-- What the system says of an error number. -/
def description : Nat → String
  | 1 => "Operation not permitted"
  | 2 => "No such file or directory"
  | 5 => "Input/output error"
  | 7 => "Argument list too long"
  | 8 => "Exec format error"
  | 9 => "Bad file descriptor"
  | 12 => "Cannot allocate memory"
  | 13 => "Permission denied"
  | 17 => "File exists"
  | 20 => "Not a directory"
  | 21 => "Is a directory"
  | 22 => "Invalid argument"
  | 23 => "Too many open files in system"
  | 24 => "Too many open files"
  | 28 => "No space left on device"
  | 30 => "Read-only file system"
  | 32 => "Broken pipe"
  | 36 => "File name too long"
  | 39 => "Directory not empty"
  | 40 => "Too many levels of symbolic links"
  | 98 => "Address already in use"
  | 99 => "Cannot assign requested address"
  | 101 => "Network is unreachable"
  | 103 => "Software caused connection abort"
  | 104 => "Connection reset by peer"
  | 105 => "No buffer space available"
  | 107 => "Transport endpoint is not connected"
  | 110 => "Connection timed out"
  | 111 => "Connection refused"
  | n => s!"Unknown error {n}"

/-- The error in words. -/
def message : SystemError → String
  | .numbered n => s!"{description n} (os error {n})"
  | .wroteNothing => "failed to write whole buffer"
  | .nulInPath => "file name contained an unexpected NUL byte"
  | .nulInArgument => "nul byte found in provided data"
  | .notText => "stream did not contain valid UTF-8"
  | .worded text => text

end SystemError

end Lockstep
