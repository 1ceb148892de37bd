/-! # File errors

Why an operation on files fails, in the words of the system that would run it.
-/
namespace AutomatonChart

inductive FileError where
  | notFound
  | alreadyExists
  | notADirectory
  | isADirectory
  | nameTooLong
  | zeroByte
deriving DecidableEq, Repr

namespace FileError

def describe (text : String) (code : Nat) : String := text ++ " (os error " ++ toString code ++ ")"

def message : FileError → String
  | .notFound => describe "No such file or directory" 2
  | .alreadyExists => describe "File exists" 17
  | .notADirectory => describe "Not a directory" 20
  | .isADirectory => describe "Is a directory" 21
  | .nameTooLong => describe "File name too long" 36
  | .zeroByte => "file name contained an unexpected NUL byte"

def ofCode? : Nat → Option FileError
  | 2 => some .notFound
  | 17 => some .alreadyExists
  | 20 => some .notADirectory
  | 21 => some .isADirectory
  | 36 => some .nameTooLong
  | _ => none

end FileError
end AutomatonChart
