import LineLexer.Catalog.BuiltIn

/-!
# Choosing a language

Which language a source is in: the one that is asked for by name, or else the one that the
extension of the source's path belongs to, or else Power Query.
-/

namespace LineLexer

/-- A name that is no language's. -/
structure UnknownLanguage where
  name : String
  suggestion : Option String

/-- The sentence that reports an unknown language. -/
def UnknownLanguage.message (unknown : UnknownLanguage) : String :=
  "unknown language: '" ++ unknown.name ++ "'"

/-- The parts of a path between slashes, without those that lead nowhere. -/
def pathParts : List Char → List (List Char)
  | [] => [[]]
  | '/' :: rest => [] :: pathParts rest
  | char :: rest =>
      match pathParts rest with
      | [] => [[char]]
      | part :: parts => (char :: part) :: parts

/-- The extension of the file that a path names: what follows the last dot of the file's
name, unless that is also its first character. -/
def pathExtension? (path : String) : Option String :=
  let parts := (pathParts path.toList).filter fun part => !part.isEmpty && part != ['.']
  match parts.getLast? with
  | none => none
  | some name =>
      if name = ['.', '.'] then none
      else
        match name.reverse.dropWhile (· != '.') with
        | '.' :: _ :: _ =>
            some (String.ofList (name.reverse.takeWhile (· != '.')).reverse)
        | _ => none

namespace BuiltIn

/-- The language for a source with the given path, when a language is asked for by name or
when none is.  The path `-` stands for standard input and has no extension. -/
def resolve (name : Option String) (path : Option String) :
    Except UnknownLanguage BuiltIn :=
  match name with
  | some name =>
      match ofName? name with
      | some builtIn => .ok builtIn
      | none => .error ⟨name, (suggestion? name).map BuiltIn.name⟩
  | none =>
      match path with
      | none => .ok powerQuery
      | some path =>
          if path = "-" then .ok powerQuery
          else .ok (((pathExtension? path).bind ofExtension?).getD powerQuery)

end BuiltIn

end LineLexer
