import WebDispatch.Number
import WebDispatch.Text.Split

/-!
# Negotiating media types

A client lists the media ranges that it accepts, each with a quality. A range whose quality is
not positive accepts nothing and is dropped from the list.

* `MediaRange.parse?` — one range; `Preference.parse` — the whole header;
* `Preference.accepts` — whether some range of the list matches an offer;
* `Preference.best?` — the offer that the client likes best: the highest quality wins, then the
  range with the fewest wildcards, then the offer that comes first.
-/

namespace WebDispatch.Http

/-- A media range with its quality. -/
structure MediaRange where
  kind : String
  subkind : String
  quality : Fraction
deriving DecidableEq, Repr, Inhabited

namespace MediaRange

/-- The quality one, that of a range which states none. -/
def fullQuality : Fraction := .finite false (1 <<< FloatFormat.single.scale)

/-- The quality that the parameters of a range leave, the last `q` counting; `none` if one of
them is no number. -/
def quality? (q : Fraction) : List String → Option Fraction
  | [] => some q
  | param :: rest =>
    match Text.cut? '=' (Text.trim param) with
    | some (key, value) =>
      if Text.trim key = "q" then
        match Fraction.read? .single (Text.trim value) with
        | some r => quality? r rest
        | none => none
      else quality? q rest
    | none => quality? q rest

/-- Reads one range; a type and a subtype must be named. -/
def parse? (s : String) : Option MediaRange :=
  match Text.splitOn ';' s with
  | [] => none
  | name :: params =>
    match Text.cut? '/' (Text.trim name) with
    | none => none
    | some (kind, subkind) =>
      if kind = "" || subkind = "" then none
      else
        (quality? fullQuality params).map fun q =>
          ⟨Text.asciiLower kind, Text.asciiLower subkind, q⟩

def matchesOffer (r : MediaRange) (offer : String) : Bool :=
  match Text.cut? '/' offer with
  | none => false
  | some (kind, subkind) =>
    (r.kind = "*" || Text.asciiLower r.kind = Text.asciiLower kind)
      && (r.subkind = "*" || Text.asciiLower r.subkind = Text.asciiLower subkind)

def wildcards (r : MediaRange) : Nat :=
  (if r.kind = "*" then 1 else 0) + (if r.subkind = "*" then 1 else 0)

def better (r s : MediaRange) : Bool :=
  Fraction.less s.quality r.quality
    || (Fraction.same r.quality s.quality && r.wildcards < s.wildcards)

end MediaRange

/-- What a client accepts: everything, or what the ranges of its list match. -/
inductive Preference where
  | any
  | ranges (list : List MediaRange)
deriving DecidableEq, Repr, Inhabited

namespace Preference

/-- Reads a list of ranges; malformed pieces are passed over, refused ones dropped. -/
def parse (header : String) : Preference :=
  .ranges (((Text.splitOn ',' header).filterMap fun s => MediaRange.parse? (Text.trim s)).filter
    fun r => Fraction.less (.finite false 0) r.quality)

def isPresent : Preference → Bool
  | .any => false
  | .ranges _ => true

def accepts (p : Preference) (offer : String) : Bool :=
  match p with
  | .any => true
  | .ranges list => list.any (·.matchesOffer offer)

/-- The best offer so far, and the range by which it was chosen, after one more pair. -/
def improve (best : Option (String × MediaRange)) (offer : String) (r : MediaRange) :
    Option (String × MediaRange) :=
  if !r.matchesOffer offer then best
  else
    match best with
    | none => some (offer, r)
    | some (o, s) => if r.better s then some (offer, r) else some (o, s)

/-- The best offer so far after one more offer, with every range. -/
def consider (list : List MediaRange) (best : Option (String × MediaRange)) (offer : String) :
    Option (String × MediaRange) :=
  list.foldl (fun b r => improve b offer r) best

def best? (p : Preference) (offers : List String) : Option String :=
  match p with
  | .any => offers.head?
  | .ranges list => (offers.foldl (consider list) none).map (·.1)

theorem improve_cases (b : Option (String × MediaRange)) (offer : String) (r : MediaRange) :
    improve b offer r = b ∨ improve b offer r = some (offer, r) := by
  unfold improve
  repeat' split
  · exact .inl rfl
  · exact .inr rfl
  · exact .inr rfl
  · exact .inl rfl

theorem consider_cases (list : List MediaRange) (b : Option (String × MediaRange))
    (offer : String) :
    consider list b offer = b ∨ ∃ r, consider list b offer = some (offer, r) := by
  induction list generalizing b with
  | nil => exact .inl rfl
  | cons r list ih =>
    change consider list (improve b offer r) offer = b ∨
      ∃ s, consider list (improve b offer r) offer = some (offer, s)
    rcases ih (improve b offer r) with hkept | hnew
    · rw [hkept]
      exact (improve_cases b offer r).imp_right fun h => ⟨r, h⟩
    · exact .inr hnew

theorem mem_of_foldl_consider {list : List MediaRange} {offers : List String}
    {b : Option (String × MediaRange)} {o : String} {r : MediaRange}
    (h : offers.foldl (consider list) b = some (o, r)) : o ∈ offers ∨ b = some (o, r) := by
  induction offers generalizing b with
  | nil => exact .inr h
  | cons offer offers ih =>
    rcases ih h with hmem | hlast
    · exact .inl (List.mem_cons_of_mem offer hmem)
    · rcases consider_cases list b offer with hkept | ⟨s, hnew⟩
      · exact .inr (hkept ▸ hlast)
      · obtain ⟨rfl, -⟩ := Prod.mk.inj (Option.some.inj (hnew.symm.trans hlast))
        exact .inl List.mem_cons_self

/-- The best offer is one of those that were made. -/
theorem mem_of_best? {p : Preference} {offers : List String} {best : String}
    (h : p.best? offers = some best) : best ∈ offers := by
  cases p with
  | any => exact List.mem_of_mem_head? h
  | ranges list =>
    obtain ⟨⟨o, r⟩, hfold, rfl⟩ := Option.map_eq_some_iff.1 h
    exact (mem_of_foldl_consider hfold).resolve_right nofun

end Preference

end WebDispatch.Http
