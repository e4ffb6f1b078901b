import EventHooks.Text.Layout
import EventHooks.Utility.FileTree

/-!
# Utilities that list files

Entries are listed by their names in order of their bytes, or with what is known of them.
-/
namespace EventHooks.Utility

/-! ## Entries in lists -/

/-- An entry of a list: the name that is shown, its location and what it is. -/
structure Item where
  name : String
  location : Location
  node : Node
  stamp : Int
  mode : Nat

/-- Whether an entry is a directory. -/
def Item.isDirectory (item : Item) : Bool :=
  item.node == .directory

/-- The size of an entry in bytes. -/
def Item.size (item : Item) : Nat :=
  match item.node with
  | .file content _ => content.length
  | .directory => 4096
  | .program _ => 65536
  | .device _ => 0

/-- How many blocks of 1024 bytes an entry takes. -/
def Item.blocks (item : Item) : Nat :=
  (item.size + 4095) / 4096 * 4

/-- The letter of the kind of an entry. -/
def Item.kindLetter (item : Item) : String :=
  match item.node with
  | .directory => "d"
  | .device _ => "c"
  | _ => "-"

/-- The entry at a location, under a name. -/
def itemAt (name : String) (location : Location) : Program (Option Item) :=
  Program.observe fun _ world =>
    (world.files.node? location).map fun node => 
      ⟨name, location, node, world.stampOf location, world.modeOf location node⟩

/-- How entries are listed. -/
structure ListStyle where
  options : List (Char × String)

namespace ListStyle

/-- Whether an option of a list is given. -/
def has (style : ListStyle) (letter : Char) : Bool :=
  given style.options letter

/-- Whether a name is shown. -/
def shows (style : ListStyle) (name : String) : Bool :=
  style.has 'a' || style.has 'f' || style.has 'A' || name.toList.head? != some '.'

/-- Items in the order in which they are listed. -/
def sort (style : ListStyle) (items : List Item) : List Item :=
  let named := items.mergeSort fun first second =>
    Utf8.bytesBefore (ByteText.toBytes first.name) (ByteText.toBytes second.name)
  let sorted := if style.has 'U' || style.has 'f' then items
    else if style.has 'S' then named.mergeSort fun first second => second.size ≤ first.size
    else if style.has 't' then named.mergeSort fun first second => second.stamp ≤ first.stamp
    else named
  if style.has 'r' then sorted.reverse else sorted

/-- The name of an item with its mark. -/
def shownName (style : ListStyle) (item : Item) : String :=
  let name := if style.has 'Q' then "\"" ++ item.name ++ "\"" else item.name
  let isExecutable := match item.node with
    | .file _ executable => executable
    | .program _ => true
    | _ => false
  let mark := if item.isDirectory && (style.has 'F' || style.has 'p') then "/"
    else if isExecutable && style.has 'F' then "*"
    else ""
  let blocks := if style.has 's' then s!"{item.blocks} " else ""
  blocks ++ name ++ mark

/-- How many names an item has. -/
def linkCount (item : Item) : Nat :=
  if item.isDirectory then 2 else 1

/-- Items with all that is known of them. -/
def longLines (style : ListStyle) (items : List Item) : List String :=
  let widest (texts : List String) : Nat := (texts.map (·.length)).foldl max 0
  let sizeWidth := widest (items.map fun item => toString item.size)
  let linkWidth := widest (items.map fun item => toString (linkCount item))
  let owner := if style.has 'n' then "0" else "root"
  let owners := (if style.has 'g' then [] else [owner]) ++
    (if style.has 'o' || style.has 'G' then [] else [owner])
  items.map fun item =>
    let mode := item.kindLetter ++ modeLetters item.mode
    let right (width : Nat) (value : Nat) : String :=
      { width := width : Layout }.pad (toString value)
    " ".intercalate ([mode, right linkWidth (linkCount item)] ++ owners ++
      [right sizeWidth item.size, "Jan  1 00:00", style.shownName item])

/-- The lines that list items. -/
def lines (style : ListStyle) (items : List Item) : List String :=
  if style.has 'l' || style.has 'n' || style.has 'g' || style.has 'o' then style.longLines items
  else if style.has 'm' then
    if items.isEmpty then [] else [", ".intercalate (items.map style.shownName)]
  else items.map style.shownName

end ListStyle

/-! ## Listing -/

/-- The items of a directory. -/
def itemsIn (style : ListStyle) (location : Location) : Program (List Item) := do
  let names ← namesAt location
  let found ← (names.filter style.shows).mapM fun name =>
    itemAt name (location ++ [ByteText.toText name])
  let around ← if style.has 'a' || style.has 'f' then do
      pure [← itemAt "." location, ← itemAt ".." location.dropLast]
    else pure []
  return style.sort ((around ++ found).filterMap id)

/-- Lists a directory, and those below it if that is asked for. -/
def listDirectory (call : Call) (style : ListStyle) :
    Nat → Bool → Bool → String → Location → Gathering Unit
  | 0, _, _, _, _ => return ()
  | fuel + 1, isFirst, hasTitle, path, location => do
    if hasTitle then
      call.emitText ((if isFirst then "" else "\n") ++ path ++ ":\n")
    let items ← (itemsIn style location : Program _)
    if style.has 'l' || style.has 's' || style.has 'n' || style.has 'g' || style.has 'o' then
      call.emitText s!"total {(items.map (·.blocks)).foldl (· + ·) 0}\n"
    call.emitText (String.join ((style.lines items).map (· ++ "\n")))
    if style.has 'R' then
      for item in items do
        if item.isDirectory && item.name != "." && item.name != ".." then
          listDirectory call style fuel false true (within path item.name) item.location

/-- Lists files and what is in directories. -/
def ls : Tool := fun call => do
  let call := call.failingWith 2
  let known : Known :=
    { letters := "aAbBcCdDfFgGhHiI:kLlmnNopqQrRsStTuUvw:xXZ1", failure := 2
      long := [("all", 'a'), ("almost-all", 'A'), ("directory", 'd'), ("recursive", 'R'),
        ("reverse", 'r'), ("size", 's'), ("classify", 'F'), ("human-readable", 'h')] }
  let (options, paths) ← call.parse known
  let style : ListStyle := ⟨options⟩
  call.gathering do
    let results ← (if paths.isEmpty then ["."] else paths).mapM fun path => do
      match ← (placeOf path : Program _) with
      | .ok (.present location _) => (itemAt path location : Program _)
      | found =>
        call.complain s!"cannot access {quoted path}: {(missing found).words}"
        return none
    let items := results.filterMap id
    let isListed (item : Item) : Bool := item.isDirectory && !given options 'd'
    let files := style.sort (items.filter (!isListed ·))
    let directories := style.sort (items.filter isListed)
    call.emitText (String.join ((style.lines files).map (· ++ "\n")))
    let hasTitles := 1 < paths.length || given options 'R'
    for (item, place) in directories.zipIdx do
      listDirectory call style 1000 (place == 0 && files.isEmpty) hasTitles item.name item.location
    return if results.all (·.isSome) then 0 else 2

/-! ## Single files -/

/-- Characters with line feeds and tabs for their escapes. -/
def replaceEscapes : List Char → List Char
  | '\\' :: 'n' :: rest => '\n' :: replaceEscapes rest
  | '\\' :: 't' :: rest => '\t' :: replaceEscapes rest
  | c :: rest => c :: replaceEscapes rest
  | [] => []

/-- What a letter of a format stands for. -/
def statField (item : Item) : Char → String
  | 'n' => item.name
  | 's' => toString item.size
  | 'F' =>
    match item.node with
    | .directory => "directory"
    | .device _ => "character special file"
    | _ => if item.size = 0 then "regular empty file" else "regular file"
  | 'a' => String.ofList (Nat.toDigits 8 item.mode)
  | 'A' => item.kindLetter ++ modeLetters item.mode
  | 'U' | 'G' => "root"
  | 'u' | 'g' => "0"
  | 'h' => toString (ListStyle.linkCount item)
  | 'b' => toString (2 * item.blocks)
  | 'B' => "512"
  | 'N' => quoted item.name
  | 'Y' | 'X' | 'Z' => toString (Calendar.clockStart + item.stamp / 1000000)
  | '%' => "%"
  | _ => "?"

/-- An item as a format shows it. -/
def statText (item : Item) : List Char → String
  | '%' :: letter :: rest => statField item letter ++ statText item rest
  | c :: rest => String.singleton c ++ statText item rest
  | [] => ""

/-- Writes what is known of files. -/
def stat : Tool := fun call => do
  let known : Known :=
    { letters := "c:fLtP:", long := [("format", 'c'), ("printf", 'P'), ("dereference", 'L'),
        ("terse", 't')] }
  let (options, paths) ← call.parse known
  demand call "missing operand" paths
  let escaped := valueOf? options 'P'
  let format := ((escaped.map fun text =>
      String.ofList (replaceEscapes text.toList)).or (valueOf? options 'c')).getD
    "  File: %n\n  Size: %s\n"
  forEach (fun path => do
    match ← placeOf path with
    | .ok (.present location _) =>
      match ← itemAt path location with
      | some item =>
        call.print (statText item format.toList ++ if escaped.isSome then "" else "\n")
        return 0
      | none => return 1
    | found =>
      call.complain s!"cannot statx {quoted path}: {(missing found).words}"
      return 1) paths 0

end EventHooks.Utility
