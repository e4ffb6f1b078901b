import EventHooks.Number.IntegerText
import EventHooks.Text.Quoted

/-!
# Errors of the operating system

An error has a number, the words for the number and the files concerned, or it is only words.
-/
namespace EventHooks

/-- The errors that the use of files, processes and programs meets. -/
inductive Errno
  | notPermitted
  | noEntry
  | noProcess
  | noDevice
  | argumentsTooLong
  | execFormat
  | badDescriptor
  | permissionDenied
  | busy
  | fileExists
  | notDirectory
  | isDirectory
  | invalidArgument
  | noSpace
  | brokenPipe
  | nameTooLong
  | notEmpty
  | tooManyLinks
  deriving DecidableEq, Repr

/-- The number of an error. -/
def Errno.number : Errno → Int
  | .notPermitted => 1
  | .noEntry => 2
  | .noProcess => 3
  | .noDevice => 6
  | .argumentsTooLong => 7
  | .execFormat => 8
  | .badDescriptor => 9
  | .permissionDenied => 13
  | .busy => 16
  | .fileExists => 17
  | .notDirectory => 20
  | .isDirectory => 21
  | .invalidArgument => 22
  | .noSpace => 28
  | .brokenPipe => 32
  | .nameTooLong => 36
  | .notEmpty => 39
  | .tooManyLinks => 40

/-- The words for a number. -/
def Errno.words : Errno → String
  | .notPermitted => "Operation not permitted"
  | .noEntry => "No such file or directory"
  | .noProcess => "No such process"
  | .noDevice => "No such device or address"
  | .argumentsTooLong => "Argument list too long"
  | .execFormat => "Exec format error"
  | .badDescriptor => "Bad file descriptor"
  | .permissionDenied => "Permission denied"
  | .busy => "Device or resource busy"
  | .fileExists => "File exists"
  | .notDirectory => "Not a directory"
  | .isDirectory => "Is a directory"
  | .invalidArgument => "Invalid argument"
  | .noSpace => "No space left on device"
  | .brokenPipe => "Broken pipe"
  | .nameTooLong => "File name too long"
  | .notEmpty => "Directory not empty"
  | .tooManyLinks => "Too many levels of symbolic links"

/-- An error of the operating system. -/
inductive OsError
  | plain (words : String)
  | numbered (number : Int) (words : String) (file other : Option String)
  deriving DecidableEq, Repr

namespace OsError

/-- An error of a known number, with the file concerned. -/
def ofErrno (errno : Errno) (file : Option String) : OsError :=
  .numbered errno.number errno.words file none

/-- The number of an error. -/
def number? : OsError → Option Int
  | .plain _ => none
  | .numbered number .. => some number

/-- The words for an error. -/
def message : OsError → String
  | .plain words => words
  | .numbered number words file other =>
    let head := s!"[Errno {IntegerText.render number}] {words}"
    match file, other with
    | some file, some other => s!"{head}: {Text.quoted file} -> {Text.quoted other}"
    | some file, none => s!"{head}: {Text.quoted file}"
    | none, _ => head

end OsError

end EventHooks
