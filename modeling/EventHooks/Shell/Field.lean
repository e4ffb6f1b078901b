import EventHooks.Shell.Pattern
import EventHooks.System.FileStore
import EventHooks.Text.ByteText

/-!
# Fields

An expanded word is cut into fields at separators, except where it is quoted. A field with a free
wildcard stands for the paths that match it.
-/
namespace EventHooks.Shell

/-- A character of an expanded word: whether it may be part of a pattern, and whether it may
separate fields. `present` marks a quoted part, which makes a field even if it is empty, and
`boundary` the end of a field. -/
inductive Atom
  | char (c : Char) (free splits : Bool)
  | present
  | boundary

/-- The atoms of a text. -/
def atomsOf (text : String) (free splits : Bool) : List Atom :=
  text.toList.map fun c => .char c free splits

/-- What fields are made of: the fields so far, the characters of the present one, whether there is
a present one, and whether a blank separator ended the last one. -/
structure Fields where
  done : List (List PatternChar) := []
  present : List PatternChar := []
  open? : Bool := false
  afterBlank : Bool := false

/-- Ends the present field. -/
def Fields.close (fields : Fields) : Fields :=
  { done := fields.present.reverse :: fields.done }

/-- Whether a separator is a blank, of which several count as one. -/
def isBlankSeparator (c : Char) : Bool :=
  c == ' ' || c == '\t' || c == '\n'

/-- Takes in an atom. -/
def Fields.take (separators : List Char) (fields : Fields) : Atom → Fields
  | .present => { fields with open? := true, afterBlank := false }
  | .boundary => if fields.open? then fields.close else { fields with afterBlank := false }
  | .char c free splits =>
    if splits && separators.contains c then
      if isBlankSeparator c then
        if fields.open? then { fields.close with afterBlank := true } else fields
      else if fields.open? then fields.close
      else if fields.afterBlank then { fields with afterBlank := false }
      else fields.close
    else
      { fields with present := ⟨c, free⟩ :: fields.present, open? := true, afterBlank := false }

/-- The fields of atoms. -/
def fieldsOf (separators : List Char) (atoms : List Atom) : List (List PatternChar) :=
  let fields := atoms.foldl (Fields.take separators) {}
  (if fields.open? then fields.close else fields).done.reverse

/-- The characters of atoms. -/
def patternOf (atoms : List Atom) : List PatternChar :=
  atoms.filterMap fun
    | .char c free _ => some ⟨c, free⟩
    | .present => none
    | .boundary => some ⟨' ', false⟩

/-- The text of characters. -/
def textOf (chars : List PatternChar) : String :=
  String.ofList (chars.map (·.char))

/-- The text of atoms. -/
def plainOf (atoms : List Atom) : String :=
  textOf (patternOf atoms)

/-! ## Paths -/

/-- Cuts characters at slashes. -/
def namesOfPattern (pattern : List PatternChar) : List (List PatternChar) :=
  let (names, name) := pattern.foldl (fun (names, name) item =>
    if item.char == '/' then (name.reverse :: names, []) else (names, item :: name))
    (([] : List (List PatternChar)), ([] : List PatternChar))
  (name.reverse :: names).reverse

/-- The paths that match the names of a pattern, from a path on. -/
def pathsMatching (files : FileStore) : String → List (List PatternChar) → List String
  | path, [] => [path]
  | path, name :: rest =>
    let extend (found : String) : String := path ++ found ++ if rest.isEmpty then "" else "/"
    if hasWildcard name then
      match files.follow (ByteText.toText (if path.isEmpty then "." else path)) with
      | .ok (.present location .directory) =>
        let isHidden := match unescaped name with
          | c :: _ => c == '.'
          | [] => false
        let names := [".", ".."] ++ (files.namesIn location).map ByteText.ofText
        let names := names.filter fun found =>
          (isHidden || found.toList.head? != some '.') && matchesPattern name found.toList
        names.flatMap fun found => pathsMatching files (extend found) rest
      | _ => []
    else
      let next := extend (String.ofList (unescaped name))
      if rest.isEmpty then
        if (files.status (ByteText.toText next)).toOption.isSome then [next] else []
      else pathsMatching files next rest

/-- Whether a text comes before another one, or is the same. -/
def textBefore (a b : String) : Bool :=
  Utf8.bytesBefore (ByteText.toBytes a) (ByteText.toBytes b)

/-- The paths that a field stands for, or the field itself if there are none. -/
def pathsOf (files : FileStore) (field : List PatternChar) : List String :=
  if hasWildcard field then
    match pathsMatching files "" (namesOfPattern field) with
    | [] => [textOf field]
    | paths => paths.mergeSort textBefore
  else [textOf field]

end EventHooks.Shell
