/-!
# Classes of characters

The classes that patterns and expressions name, for texts that stand for bytes: only the characters
of the first half belong to any.
-/
namespace EventHooks.CharClass

/-- Whether a character is a control character. -/
def isControl (c : Char) : Bool :=
  c.toNat < 32 || c.toNat == 127

/-- Whether a character leaves a mark. -/
def isGraphic (c : Char) : Bool :=
  32 < c.toNat && c.toNat < 127

/-- Whether a character is a blank of any kind. -/
def isSpace (c : Char) : Bool :=
  c == ' ' || (9 ≤ c.toNat && c.toNat ≤ 13)

/-- The classes by their names. -/
def classes : List (String × (Char → Bool)) :=
  [("alnum", fun c => c.isAlphanum), ("alpha", fun c => c.isAlpha),
    ("blank", fun c => c == ' ' || c == '\t'), ("cntrl", isControl),
    ("digit", fun c => c.isDigit), ("graph", isGraphic), ("lower", fun c => c.isLower),
    ("print", fun c => c == ' ' || isGraphic c), ("punct", fun c => isGraphic c && !c.isAlphanum),
    ("space", isSpace), ("upper", fun c => c.isUpper),
    ("xdigit", fun c => c.isDigit || ('a' ≤ c && c ≤ 'f') || ('A' ≤ c && c ≤ 'F'))]

/-- The class with a name. -/
def named? (name : String) : Option (Char → Bool) :=
  (classes.find? (·.1 == name)).map (·.2)

end EventHooks.CharClass
