/-! Finding texts in texts. -/
namespace SyscallMeter.Text

/-- Whether a text stands anywhere in another. -/
def contains (text part : List Char) : Bool :=
  match text with
  | [] => part.isEmpty
  | c :: rest => part.isPrefixOf (c :: rest) || contains rest part

/-- What stands before and after the first of a character. -/
def splitFirst? (c : Char) : List Char → Option (List Char × List Char)
  | [] => none
  | d :: rest =>
    if d = c then some ([], rest)
    else (splitFirst? c rest).map fun parts => (d :: parts.1, parts.2)

/-- What stands before and after the last of a character. -/
def splitLast? (c : Char) (s : List Char) : Option (List Char × List Char) :=
  (splitFirst? c s.reverse).map fun parts => (parts.2.reverse, parts.1.reverse)

/-- The text between its separators. There is always one part. -/
def splitOn (separator : Char) : List Char → List (List Char)
  | [] => [[]]
  | c :: rest =>
    if c = separator then [] :: splitOn separator rest
    else match splitOn separator rest with
      | [] => [[c]]
      | first :: others => (c :: first) :: others

end SyscallMeter.Text
