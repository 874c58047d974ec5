import WebDispatch.Regex.CharSet
import WebDispatch.Text.Category
import WebDispatch.Text.Script
import WebDispatch.Text.Split

/-!
# Classes by name

Expressions name classes of characters by a letter (`\d`, `\s`, `\w`), by a POSIX name
(`[:alpha:]`) or by a property of the Unicode standard (`\p` with the name in braces). Names of
properties are compared without regard to case, blanks, hyphens and underscores.
-/

namespace WebDispatch.Regex

def CharSet.ofTable (t : Text.RangeTable) : CharSet := .ofRanges t.toList

def digitSet (ascii : Bool) : CharSet :=
  if ascii then ⟨[(0x30, 0x39)]⟩ else .ofTable Text.decimalDigits

def spaceSet (ascii : Bool) : CharSet :=
  if ascii then ⟨[(0x09, 0x0D), (0x20, 0x20)]⟩ else .ofRanges Text.blanks

def wordSet (ascii : Bool) : CharSet :=
  if ascii then ⟨[(0x30, 0x39), (0x41, 0x5A), (0x5F, 0x5F), (0x61, 0x7A)]⟩
  else .ofTable Text.wordChars

/-- The set of a class letter in lower case. -/
def letterClass? (ascii : Bool) : Char → Option CharSet
  | 'd' => some (digitSet ascii)
  | 's' => some (spaceSet ascii)
  | 'w' => some (wordSet ascii)
  | _ => none

/-- The classes that bracket expressions know by a POSIX name. -/
def posixClasses : List (String × List (Nat × Nat)) :=
  [("alnum", [(0x30, 0x39), (0x41, 0x5A), (0x61, 0x7A)]),
   ("alpha", [(0x41, 0x5A), (0x61, 0x7A)]),
   ("ascii", [(0x00, 0x7F)]),
   ("blank", [(0x09, 0x09), (0x20, 0x20)]),
   ("cntrl", [(0x00, 0x1F), (0x7F, 0x7F)]),
   ("digit", [(0x30, 0x39)]),
   ("graph", [(0x21, 0x7E)]),
   ("lower", [(0x61, 0x7A)]),
   ("print", [(0x20, 0x7E)]),
   ("punct", [(0x21, 0x2F), (0x3A, 0x40), (0x5B, 0x60), (0x7B, 0x7E)]),
   ("space", [(0x09, 0x0D), (0x20, 0x20)]),
   ("upper", [(0x41, 0x5A)]),
   ("word", [(0x30, 0x39), (0x41, 0x5A), (0x5F, 0x5F), (0x61, 0x7A)]),
   ("xdigit", [(0x30, 0x39), (0x41, 0x46), (0x61, 0x66)])]

def posixClass? (name : String) : Option CharSet :=
  (posixClasses.find? (·.1 = name)).map fun e => .ofRanges e.2

/-- A property name in the form in which names are compared. -/
def plainName (name : String) : String :=
  let cs := (name.toList.filter fun c => !(c = ' ' || c = '-' || c = '_')).map Char.toLower
  match cs with
  | 'i' :: 's' :: rest => if rest = ['c'] then "isc" else String.ofList rest
  | _ => String.ofList cs

def categoryNames : List (String × String) :=
  [("uppercaseletter", "Lu"), ("lowercaseletter", "Ll"), ("titlecaseletter", "Lt"),
   ("modifierletter", "Lm"), ("otherletter", "Lo"), ("nonspacingmark", "Mn"),
   ("spacingmark", "Mc"), ("enclosingmark", "Me"), ("decimalnumber", "Nd"), ("digit", "Nd"),
   ("letternumber", "Nl"), ("othernumber", "No"), ("connectorpunctuation", "Pc"),
   ("dashpunctuation", "Pd"), ("openpunctuation", "Ps"), ("closepunctuation", "Pe"),
   ("initialpunctuation", "Pi"), ("finalpunctuation", "Pf"), ("otherpunctuation", "Po"),
   ("mathsymbol", "Sm"), ("currencysymbol", "Sc"), ("modifiersymbol", "Sk"),
   ("othersymbol", "So"), ("spaceseparator", "Zs"), ("lineseparator", "Zl"),
   ("paragraphseparator", "Zp"), ("control", "Cc"), ("cntrl", "Cc"), ("format", "Cf"),
   ("privateuse", "Co"), ("unassigned", "Cn"),
   ("letter", "L"), ("mark", "M"), ("combiningmark", "M"), ("number", "N"),
   ("punctuation", "P"), ("punct", "P"), ("symbol", "S"), ("separator", "Z"), ("other", "C")]

def categoryCodes : List String :=
  ["lu", "ll", "lt", "lm", "lo", "mn", "mc", "me", "nd", "nl", "no", "pc", "pd", "ps", "pe", "pi",
   "pf", "po", "sm", "sc", "sk", "so", "zs", "zl", "zp", "cc", "cf", "co", "cn"]

def categorySet (p : String → Bool) : CharSet :=
  let assigned := CharSet.ofRanges (Text.categoryRanges fun code => p (Text.asciiLower code))
  if p "cn" then
    assigned.union (CharSet.ofRanges (Text.categoryRanges fun _ => true)).complement
  else assigned

def categoryClass? (name : String) : Option CharSet :=
  let code := ((categoryNames.find? (·.1 = name)).map fun e => Text.asciiLower e.2).getD name
  if code = "any" then some .all
  else if code = "assigned" then some (categorySet (· = "cn")).complement
  else if code = "ascii" then some ⟨[(0, 0x7F)]⟩
  else if code = "lc" || code = "casedletter" then
    some (categorySet fun c => ["lu", "ll", "lt"].contains c)
  else if ["l", "m", "n", "p", "s", "z", "c"].contains code then
    some (categorySet fun c => Text.startsWith c code)
  else if categoryCodes.contains code then some (categorySet (· = code))
  else none

def scriptCodes : List (String × String) :=
  [("latn", "latin"), ("grek", "greek"), ("cyrl", "cyrillic"), ("hani", "han"),
   ("arab", "arabic"), ("hebr", "hebrew"), ("hira", "hiragana"), ("kana", "katakana"),
   ("hang", "hangul"), ("deva", "devanagari"), ("armn", "armenian"), ("geor", "georgian"),
   ("zyyy", "common"), ("zinh", "inherited"), ("qaai", "inherited"), ("copt", "coptic"),
   ("ethi", "ethiopic"), ("taml", "tamil"), ("beng", "bengali"), ("tibt", "tibetan")]

def scriptClass? (name : String) : Option CharSet :=
  let name := ((scriptCodes.find? (·.1 = name)).map (·.2)).getD name
  (Text.scripts.find? fun e => plainName e.1 = name).map fun e => .ofTable e.2

def binaryClass? (name : String) : Option CharSet :=
  if name = "alphabetic" || name = "alpha" then some (.ofTable Text.alphabetic)
  else if name = "uppercase" || name = "upper" then some (.ofTable Text.uppercase)
  else if name = "lowercase" || name = "lower" then some (.ofTable Text.lowercased)
  else if name = "whitespace" || name = "wspace" || name = "space" then some (.ofRanges Text.blanks)
  else if name = "cased" then some (.ofTable Text.cased)
  else if name = "caseignorable" || name = "ci" then some (.ofTable Text.caseIgnorable)
  else if name = "graphemeextend" || name = "grext" then some (.ofTable Text.graphemeExtenders)
  else none

/-- The set of a property by its name alone. -/
def propertyClass? (name : String) : Option CharSet :=
  let name := plainName name
  binaryClass? name <|> categoryClass? name <|> scriptClass? name

def valueClass? (property value : String) : Option CharSet :=
  let property := plainName property
  let value := plainName value
  if property = "gc" || property = "generalcategory" then categoryClass? value
  else if ["sc", "script", "scx", "scriptextensions"].contains property then scriptClass? value
  else none

end WebDispatch.Regex
