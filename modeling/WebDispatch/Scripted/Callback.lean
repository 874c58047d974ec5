import WebDispatch.Exchange

/-!
# Scripted callbacks

Parts of an application may be given by scripts, as data in place of functions; the journal then
shows what they did. Scripted callbacks carry a label. One that begins with `chain:` leads on to a
further callback, labelled with the rest.

* `addFinished` — a callback for the end of an exchange, which notes its label;
* `addResponse` — a callback for the response, which notes its label and adds it to a header field
  of the response.
-/

namespace WebDispatch.Scripted

open WebDispatch.Http (Response)

def chainMark : List Char := ['c', 'h', 'a', 'i', 'n', ':']

def isChained (label : List Char) : Bool := chainMark.isPrefixOf label

theorem length_drop_of_isChained {label : List Char} (h : isChained label = true) :
    (label.drop chainMark.length).length < label.length := by
  have hlen := (List.isPrefixOf_iff_prefix.1 h).length_le
  simp only [chainMark, List.length_drop, List.length_cons, List.length_nil] at hlen ⊢
  omega

/-- A label and those that it leads on to. -/
def chain (label : List Char) : List (List Char) :=
  if _ : isChained label then label :: chain (label.drop chainMark.length) else [label]
termination_by label.length
decreasing_by exact length_drop_of_isChained ‹_›

def chainLabels (label : String) : List String := (chain label.toList).map String.ofList

def noted (text : String) (r : Request) : Request := { r with journal := r.journal ++ [.note text] }

/-- Callbacks for the end of an exchange of which each adds the next. -/
def finishedChain : List String → List FinishedCallback
  | [] => []
  | label :: rest =>
    [.mk (noted ("finished " ++ label)) (fun _ => finishedChain rest) fun _ => []]

/-- The header field that tells which callbacks changed a response. -/
def callbackField : String := "x-callbacks"

/-- Notes a label and adds it to those that the response shows. -/
def markResponse (label : String) (r : Request) (s : Response) : Request × Response :=
  let shown := match s.headers.text? callbackField with
    | some earlier => earlier ++ "," ++ label
    | none => label
  (noted ("response callback " ++ label) r, s.setHeader callbackField shown)

/-- Callbacks for the response of which each adds the next. -/
def responseChain : List String → List ResponseCallback
  | [] => []
  | label :: rest =>
    [.mk (markResponse label) (fun _ _ => responseChain rest) fun _ _ => []]

def addFinished (label : String) (x : Exchange) : Exchange :=
  (finishedChain (chainLabels label)).foldl Exchange.onFinished x

def addResponse (label : String) (x : Exchange) : Exchange :=
  (responseChain (chainLabels label)).foldl Exchange.onResponse x

end WebDispatch.Scripted
