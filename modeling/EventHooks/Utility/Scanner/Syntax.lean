import EventHooks.Text.Regex

/-!
# Programs of the pattern scanner

A program is a sequence of rules: what is done for the records that a pattern selects. Patterns and
actions are made of expressions.
-/
namespace EventHooks.Utility.Scanner

/-- An operation on two numbers. -/
inductive Operation
  | add
  | subtract
  | multiply
  | divide
  | remainder
  | power
  deriving DecidableEq, Repr

/-- A comparison of two values. -/
inductive Comparison
  | less
  | atMost
  | equal
  | different
  | greater
  | atLeast
  deriving DecidableEq, Repr

/-- An expression. `regex` stands for whether it matches the record; `element` is a member of a
table, named by one value or several. -/
inductive Expr
  | number (value : Float)
  | text (text : String)
  | regex (regex : Regex)
  | named (name : String)
  | field (place : Expr)
  | element (table : String) (keys : List Expr)
  | assign (target : Expr) (operation? : Option Operation) (value : Expr)
  | step (target : Expr) (isBefore isUp : Bool)
  | choice (test first second : Expr)
  | both (first second : Expr)
  | either (first second : Expr)
  | contains (keys : List Expr) (table : String)
  | compare (comparison : Comparison) (first second : Expr)
  | matching (isNegated : Bool) (text pattern : Expr)
  | join (first second : Expr)
  | binary (operation : Operation) (first second : Expr)
  | sign (isNegative : Bool) (value : Expr)
  | opposite (value : Expr)
  | builtin (name : String) (arguments : List Expr)
  | call (name : String) (arguments : List Expr)
  | nextLine (target? : Option Expr)
  | lineOfFile (path : Expr) (target? : Option Expr)
  | lineOfCommand (command : Expr) (target? : Option Expr)
  | several (members : List Expr)

/-- Where a statement writes: to the standard output, to a file anew, to the end of a file, or to a
command. -/
inductive Redirection
  | none
  | file (path : Expr)
  | append (path : Expr)
  | command (command : Expr)

/-- A statement. -/
inductive Statement
  | nothing
  | expression (value : Expr)
  | print (values : List Expr) (redirection : Redirection)
  | format (values : List Expr) (redirection : Redirection)
  | block (body : List Statement)
  | choice (test : Expr) (first second : Statement)
  | loop (test : Expr) (body : Statement)
  | loopAfter (body : Statement) (test : Expr)
  | count (start : Statement) (test? : Option Expr) (next body : Statement)
  | each (name table : String) (body : Statement)
  | delete (table : String) (keys : List Expr)
  | nextRecord
  | exit (status? : Option Expr)
  | leave
  | skip
  | answer (value? : Option Expr)

/-- The records that a rule is for. -/
inductive Pattern
  | begin
  | finish
  | always
  | single (test : Expr)
  | range (first last : Expr)

/-- A rule. A rule without an action writes the record. -/
structure Rule where
  pattern : Pattern
  action? : Option Statement

/-- A function of a program. -/
structure Function where
  name : String
  parameters : List String
  body : Statement

/-- A whole program. -/
structure Script where
  rules : List Rule
  functions : List Function

end EventHooks.Utility.Scanner
