import WebDispatch.View.Basic

/-!
# Competing views

Views registered in one slot. Those with a media type of their own are tried in the order in which
the sender prefers the types, and only if the type is accepted; the others come last. Within a
media type the views are tried by rank.

* `MultiView.add` — adds a view, in place of one with the same predicates;
* `MultiView.views` — the views to try for a request, in order;
* `MultiView.match?` — the first whose predicates hold;
* `MultiView.toView` — the slot as a single view.
-/

namespace WebDispatch

open WebDispatch.Http (Preference Response)

/-- A view with the rank and the identity under which it competes. -/
structure Candidate where
  order : Nat
  view : View
  phash : String
deriving Inhabited

namespace Candidate

/-- Whether one candidate may be tried before another. -/
def comesBefore (a b : Candidate) : Bool := decide (a.order ≤ b.order)

/-- Puts a candidate in the place of the first with the same identity. -/
def replaceFirst (c : Candidate) : List Candidate → List Candidate
  | [] => []
  | d :: rest => if d.phash = c.phash then c :: rest else d :: replaceFirst c rest

/-- Adds a candidate: in the place of one with the same identity, else by its rank, behind those
of equal rank. -/
def insertRanked (c : Candidate) (bucket : List Candidate) : List Candidate :=
  if bucket.any fun d => d.phash = c.phash then replaceFirst c bucket
  else (bucket ++ [c]).mergeSort comesBefore

def description (c : Candidate) : String :=
  Text.record "Candidate"
    [("order", toString c.order),
     ("view", "<View " ++ c.view.description ++ ">"),
     ("phash", Text.quoted c.phash)]

end Candidate

structure MultiView where
  name : String
  /-- The candidates without a media type. -/
  candidates : List Candidate := []
  /-- The candidates of each media type. -/
  mediaCandidates : OrderedMap String (List Candidate) := {}
  /-- The media types in the order in which they were first given. -/
  accepts : List String := []
deriving Inhabited

namespace MultiView

/-- Adds a view; a media range is no media type. -/
def add (m : MultiView) (view : View) (order : Nat) (phash : String) (accept : Option String) :
    MultiView :=
  let c : Candidate := ⟨order, view, phash⟩
  match accept.filter fun a => !Text.hasChar a '*' with
  | some a =>
    { m with
      mediaCandidates := m.mediaCandidates.alter a [] c.insertRanked
      accepts := if m.accepts.contains a then m.accepts else m.accepts ++ [a] }
  | none => { m with candidates := c.insertRanked m.candidates }

def size (m : MultiView) : Nat :=
  m.candidates.length + m.mediaCandidates.values.flatten.length

/-- The offers other than one that has been taken. -/
def without (offers : List String) (taken : String) : List String := offers.filter (· ≠ taken)

theorem length_without_lt {offers : List String} {taken : String} (h : taken ∈ offers) :
    (without offers taken).length < offers.length :=
  List.length_filter_lt_length_iff_exists.2 ⟨taken, h, by simp⟩

/-- The offers that a client accepts, the most preferred first: the best one, and again the best of
the others until none is accepted. -/
def preferred (p : Preference) (offers : List String) : List String :=
  match _h : p.best? offers with
  | none => []
  | some best => best :: preferred p (without offers best)
termination_by offers.length
decreasing_by exact length_without_lt (Preference.mem_of_best? ‹_›)

/-- The views to try for a request, in order. -/
def views (m : MultiView) (r : Request) : List View :=
  let types := preferred r.accept m.accepts
  let bucket (type : String) : List Candidate := (m.mediaCandidates.get? type).getD []
  (types.flatMap bucket ++ m.candidates).map Candidate.view

def match? (m : MultiView) (context : Resource) (r : Request) : Option View :=
  (m.views r).find? fun v => !v.refuses context r

def mismatch (m : MultiView) : Error := .predicateMismatch m.name

def call (m : MultiView) (context : Resource) : Handling Response := do
  match ← View.callFirst (fun _ => m.mismatch) context (m.views (← Handling.request)) none with
  | .inl response => return response
  | .inr _ => throw m.mismatch

/-- Calls the first view whose predicates hold, without asking for a permission. -/
def callPermissive (m : MultiView) (context : Resource) : Handling Response := do
  match m.match? context (← Handling.request) with
  | some v => v.callPermissive context
  | none => throw m.mismatch

def toView (m : MultiView) : View where
  description := "MultiView " ++ Text.quoted m.name ++ " (" ++ toString m.size ++ " views)"
  call := m.call
  callPermissive := m.callPermissive
  permitted context r := (m.match? context r).all fun v => v.permitted context r
  predicatesHold context r := some (m.match? context r).isSome

def description (m : MultiView) : String :=
  Text.record "MultiView"
    [("name", Text.quoted m.name),
     ("views", Text.listed (m.candidates.map Candidate.description)),
     ("media_views", Text.mapping (m.mediaCandidates.toList.map fun (type, bucket) =>
       (Text.quoted type, Text.listed (bucket.map Candidate.description)))),
     ("accepts", "\x7b" ++ Text.joinWith ", " (m.accepts.map Text.quoted) ++ "\x7d")]

end MultiView

end WebDispatch
