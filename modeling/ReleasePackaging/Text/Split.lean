/-!
# Splitting at a delimiter

A text is cut at a character that separates its fields. Joining the fields with the delimiter gives
the text again; no field of a full split holds the delimiter.
-/
namespace ReleasePackaging.Text

/-- The fields of a text, cut at the first `limit` occurrences of a delimiter; `field` is the
reversed beginning of the current one. -/
def splitFrom (delimiter : Char) (limit : Nat) (field : List Char) : List Char → List (List Char)
  | [] => [field.reverse]
  | c :: rest =>
    match limit with
    | 0 => [field.reverse ++ c :: rest]
    | limit + 1 =>
      if c = delimiter then field.reverse :: splitFrom delimiter limit [] rest
      else splitFrom delimiter (limit + 1) (c :: field) rest

/-- The fields of a text, cut at no more than `limit` occurrences of a delimiter. -/
def splitAtMost (delimiter : Char) (limit : Nat) (text : String) : List String :=
  (splitFrom delimiter limit [] text.toList).map String.ofList

/-- The fields of a text, cut at every occurrence of a delimiter. -/
def splitAll (delimiter : Char) (text : String) : List String :=
  splitAtMost delimiter text.length text

/-- The part of a text before the first occurrence of a delimiter, and the part after it if there is
an occurrence. -/
def cut (delimiter : Char) (text : String) : String × Option String :=
  let cs := text.toList
  let before := String.ofList (cs.takeWhile (· != delimiter))
  match cs.dropWhile (· != delimiter) with
  | [] => (before, none)
  | _ :: after => (before, some (String.ofList after))

end ReleasePackaging.Text
