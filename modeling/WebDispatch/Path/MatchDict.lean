import WebDispatch.OrderedMap
import WebDispatch.Text.Quoted

/-!
# Match dicts

What a route pattern captures from a path: for each name a text or, where the pattern captures
the rest of a path, a list of segments.
-/

namespace WebDispatch

inductive MatchValue where
  | text (s : String)
  | segments (items : List String)
deriving DecidableEq, Repr, Inhabited

namespace MatchValue

def text? : MatchValue → Option String
  | .text s => some s
  | .segments _ => none

def segments? : MatchValue → Option (List String)
  | .text _ => none
  | .segments items => some items

/-- The value as one text, segments between slashes. -/
def joined : MatchValue → String
  | .text s => s
  | .segments items => Text.joinWith "/" items

def description : MatchValue → String
  | .text s => "Str(" ++ Text.quoted s ++ ")"
  | .segments items => "Segments(" ++ Text.quotedList items ++ ")"

end MatchValue

abbrev MatchDict := OrderedMap String MatchValue

def MatchDict.description (d : MatchDict) : String :=
  Text.mapping (d.toList.map fun (k, v) => (Text.quoted k, v.description))

end WebDispatch
