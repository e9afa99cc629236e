namespace ClassMetrics

inductive IoError where
  | noEntry
  | notPermitted
  | alreadyExists
  | notDirectory
  | isDirectory
  | nameTooLong
  /-- A NUL cannot stand in a file name. -/
  | nulInName
  /-- The content was to be text and is none. -/
  | notUtf8
deriving Repr, DecidableEq

def IoError.message : IoError → String
  | .noEntry => "No such file or directory (os error 2)"
  | .notPermitted => "Permission denied (os error 13)"
  | .alreadyExists => "File exists (os error 17)"
  | .notDirectory => "Not a directory (os error 20)"
  | .isDirectory => "Is a directory (os error 21)"
  | .nameTooLong => "File name too long (os error 36)"
  | .nulInName => "file name contained an unexpected NUL byte"
  | .notUtf8 => "stream did not contain valid UTF-8"

end ClassMetrics
