/-!
# File names

A path is a list of parts with slashes between them.  Empty parts and single
dots mean nothing; two dots are no name.
-/

namespace PageFilters.FileName

/-- The last part of a path, none if it names no file. -/
def base? (path : String) : Option String :=
  let parts := (path.splitToList (· == '/')).filter fun part => part != "" && part != "."
  match parts.getLast? with
  | some ".." => none
  | last => last

/-- What stands behind the last dot of a base name; a dot that begins the name
does not count. -/
def extension? (base : String) : Option String :=
  let reversed := base.toList.reverse
  let behind := reversed.takeWhile (· != '.')
  let before := reversed.drop (behind.length + 1)
  if before.isEmpty then none else some (String.ofList behind.reverse)

/-- Whether two names are the same but for the case of ASCII letters. -/
def sameName (left right : String) : Bool :=
  left.toList.map Char.toLower == right.toList.map Char.toLower

end PageFilters.FileName
