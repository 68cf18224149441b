namespace OfflineSite

/-- Why an operation of the system failed. -/
inductive IoFailure where
  | notFound
  | alreadyExists
  | notADirectory
  | isADirectory
  | nameTooLong
  /-- Something cannot be replaced while it is in use, or by the name `.` or `..`. -/
  | busy
  /-- The operation makes no sense for what it is asked for. -/
  | invalidArgument
  | addressInUse
  | addressNotAvailable
  /-- A name given to the system holds a NUL. -/
  | nulInName
  /-- A file that should hold text is not UTF-8. -/
  | notUtf8
  /-- A failure that only its description tells. -/
  | described (text : String)
  deriving Repr, DecidableEq

namespace IoFailure

/-- The number by which the system reports the failure, if it was the system that did. -/
def code? : IoFailure → Option Nat
  | notFound => some 2
  | busy => some 16
  | alreadyExists => some 17
  | notADirectory => some 20
  | isADirectory => some 21
  | invalidArgument => some 22
  | nameTooLong => some 36
  | addressInUse => some 98
  | addressNotAvailable => some 99
  | nulInName | notUtf8 | described _ => none

/-- The failure in words, without its number. -/
def reason : IoFailure → String
  | notFound => "No such file or directory"
  | alreadyExists => "File exists"
  | notADirectory => "Not a directory"
  | isADirectory => "Is a directory"
  | nameTooLong => "File name too long"
  | busy => "Device or resource busy"
  | invalidArgument => "Invalid argument"
  | addressInUse => "Address already in use"
  | addressNotAvailable => "Cannot assign requested address"
  | nulInName => "file name contained an unexpected NUL byte"
  | notUtf8 => "stream did not contain valid UTF-8"
  | described text => text

def message (failure : IoFailure) : String :=
  match failure.code? with
  | some code => s!"{failure.reason} (os error {code})"
  | none => failure.reason

end IoFailure

end OfflineSite
