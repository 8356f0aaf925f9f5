/-!
# Failures

Why a request was not answered, the wording of each reason and the code that
is reported with it.
-/

namespace HouseStyle

/-- Why a file could not be read. -/
inductive ReadFault where
  | missing
  | notFolder
  | isFolder
  | tooManyLinks
  | nameTooLong
  | nulInName
  | notText
deriving DecidableEq, Repr

/-- Why a file could not be read, in words. -/
def ReadFault.message : ReadFault → String
  | missing => "No such file or directory (os error 2)"
  | notFolder => "Not a directory (os error 20)"
  | isFolder => "Is a directory (os error 21)"
  | tooManyLinks => "Too many levels of symbolic links (os error 40)"
  | nameTooLong => "File name too long (os error 36)"
  | nulInName => "file name contained an unexpected NUL byte"
  | notText => "stream did not contain valid UTF-8"

/-- Why a request was not answered. -/
inductive Failure where
  /-- The request makes no sense. -/
  | invalidArgument (message : String)
  /-- The request was withdrawn. -/
  | cancelled
  /-- A file could not be read. -/
  | unreadable (path cause : String)
  /-- A file could not be parsed. -/
  | unparsable (path message : String)
  /-- A configuration file is malformed. -/
  | misconfigured (path : String) (line : Nat) (message : String)
  /-- Something that cannot happen did. -/
  | internal (message : String)
  /-- The program broke down; unlike all other failures this one is not reported. -/
  | crash
deriving DecidableEq, Repr

namespace Failure

/-- The failure to read the file at a path. -/
def ofRead (path : String) (fault : ReadFault) : Failure :=
  unreadable path fault.message

/-- The reason in words. -/
def message : Failure → String
  | invalidArgument message => "invalid arguments: " ++ message
  | cancelled => "operation cancelled"
  | unreadable path cause => "cannot read " ++ path ++ ": " ++ cause
  | unparsable path message => "cannot parse " ++ path ++ ": " ++ message
  | misconfigured path line message => path ++ ":" ++ toString line ++ ": " ++ message
  | internal message => "internal error: " ++ message
  | crash => "the program broke down"

/-- The code reported with a failure, which is also the exit status of the command line. -/
def code : Failure → Nat
  | invalidArgument _ => 2
  | unreadable _ _ => 3
  | unparsable _ _ => 3
  | misconfigured _ _ _ => 4
  | cancelled => 5
  | internal _ => 10
  | crash => 101

/-- The failure is a withdrawal of the request. -/
def isCancelled : Failure → Bool
  | cancelled => true
  | _ => false

/-- The failure ends a search; any other only makes one file unavailable. -/
def isFatal : Failure → Bool
  | cancelled => true
  | internal _ => true
  | crash => true
  | _ => false

end Failure
end HouseStyle
