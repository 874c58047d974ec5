import WebDispatch.Text.Quoted

/-!
# Declaration sites

Where a declaration was made: at a line of a file, by a step of a configuration script, or by
building the application itself. Two declarations are from one site when these are equal.
-/

namespace WebDispatch

inductive Site where
  | source (file : String) (line column : Nat)
  | step (number : Nat)
  | application
deriving DecidableEq, Repr, Inhabited

def Site.text : Site → String
  | .source file line column => file ++ ":" ++ toString line ++ ":" ++ toString column
  | .step n => "site" ++ toString n
  | .application => "make_app"

def Site.description : Site → String
  | .source file line column =>
    Text.record "SourceInfo"
      [("file", Text.quoted file), ("line", toString line), ("column", toString column)]
  | s => s.text

end WebDispatch
