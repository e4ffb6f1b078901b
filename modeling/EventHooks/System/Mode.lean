/-!
# Permission modes

A mode has bits for the owner, the group and all others. It is written in octal digits or changed by
clauses such as `u+x`: who is concerned, and what is added, removed or set.
-/
namespace EventHooks.Mode

/-- The bits of permissions for all. -/
def all : Nat := 511

/-- The bits of those that a letter concerns. -/
def concerned? : Char → Option Nat
  | 'u' => some 448
  | 'g' => some 56
  | 'o' => some 7
  | 'a' => some 511
  | _ => none

/-- The bits of a mode, spread over all from one of the three. -/
def spread (mode : Nat) (who : Char) : Nat :=
  let bits := match who with
    | 'u' => mode / 64 % 8
    | 'g' => mode / 8 % 8
    | _ => mode % 8
  bits * 73

/-- The bits that a letter of a permission stands for, for all. -/
def permission? (mode : Nat) (isDirectory : Bool) (letter : Char) : Option Nat :=
  match letter with
  | 'r' => some 292
  | 'w' => some 146
  | 'x' => some 73
  | 'X' => some (if isDirectory || mode &&& 73 != 0 then 73 else 0)
  | 's' | 't' => some 0
  | 'u' | 'g' | 'o' => some (spread mode letter)
  | _ => none

/-- Applies the actions of a clause to the bits of those that it concerns. -/
def applyActions (isDirectory : Bool) (who : Nat) : Nat → List Char → Nat → Option Nat
  | 0, _, mode => some mode
  | _, [], mode => some mode
  | fuel + 1, sign :: rest, mode =>
    let letters := rest.takeWhile fun c => (permission? mode isDirectory c).isSome
    let bits := (letters.filterMap (permission? mode isDirectory)).foldl (· ||| ·) 0 &&& who
    let rest := rest.drop letters.length
    match sign with
    | '+' => applyActions isDirectory who fuel rest (mode ||| bits)
    | '-' => applyActions isDirectory who fuel rest (mode &&& (all ^^^ bits))
    | '=' => applyActions isDirectory who fuel rest ((mode &&& (all ^^^ who)) ||| bits)
    | _ => none

/-- Applies a clause. -/
def applyClause (isDirectory : Bool) (clause : List Char) (mode : Nat) : Option Nat :=
  let letters := clause.takeWhile fun c => (concerned? c).isSome
  let who := if letters.isEmpty then all
    else (letters.filterMap concerned?).foldl (· ||| ·) 0
  let actions := clause.drop letters.length
  if actions.isEmpty then none else applyActions isDirectory who clause.length actions mode

/-- The clauses of a text. -/
def clauses (text : List Char) : List (List Char) :=
  let (done, clause) := text.foldl (fun (done, clause) c =>
    if c == ',' then (clause.reverse :: done, []) else (done, c :: clause))
    (([] : List (List Char)), ([] : List Char))
  (clause.reverse :: done).reverse

/-- The mode that octal digits write. -/
def ofDigits? (text : String) : Option Nat :=
  let digits := text.toList
  if digits.isEmpty || !digits.all (fun c => '0' ≤ c && c ≤ '7') then none
  else some (digits.foldl (fun value c => value * 8 + (c.toNat - '0'.toNat)) 0)

/-- A mode changed as a text says. -/
def change? (isDirectory : Bool) (text : String) (mode : Nat) : Option Nat :=
  match ofDigits? text with
  | some mode => if mode ≤ 4095 then some mode else none
  | none =>
    (clauses text.toList).foldlM (fun mode clause => applyClause isDirectory clause mode) mode

/-- The letters of the permissions of a mode. -/
def letters (bits : Nat) : String :=
  (if bits &&& 4 != 0 then "r" else "") ++ (if bits &&& 2 != 0 then "w" else "") ++
    (if bits &&& 1 != 0 then "x" else "")

/-- A mode as clauses. -/
def render (mode : Nat) : String :=
  s!"u={letters (mode / 64 % 8)},g={letters (mode / 8 % 8)},o={letters (mode % 8)}"

/-- A mode in four octal digits. -/
def digits (mode : Nat) : String :=
  let shown := Nat.toDigits 8 mode
  String.ofList (List.replicate (4 - shown.length) '0' ++ shown)

end EventHooks.Mode
