import WebDispatch.Error

/-!
# Dotted names

Names of things in packages: `package.module.thing`, or `package.module:thing`. A name that begins
with a dot or a colon is relative to a package; each dot beyond the first leads one package up.

* `DottedName.absolute` — a name with its package;
* `DottedName.canonical` — the form in which names are compared;
* `DottedName.package` — the package of a name.
-/

namespace WebDispatch.DottedName

/-- The form in which names are compared: dots stand for colons. -/
def canonical (name : String) : String :=
  String.ofList (name.toList.map fun c => if c = ':' then '.' else c)

/-- What precedes the first colon. -/
def package (name : String) : String := String.ofList (name.toList.takeWhile (· ≠ ':'))

def join (base rest : String) : String :=
  if rest = "" then base
  else if Text.startsWith rest ":" then base ++ rest
  else base ++ "." ++ rest

def climb? (package : String) (levels : Nat) : Option String :=
  let parts := Text.splitOn '.' package
  if levels < parts.length then some (Text.joinWith "." (parts.take (parts.length - levels)))
  else none

def absolute (name : String) (package : Option String) : Except Error String :=
  match name.toList with
  | '.' :: _ | ':' :: _ =>
    match package with
    | none =>
      .error (.configuration ("relative name " ++ Text.quoted name
        ++ " irrelevant when no package is set"))
    | some p =>
      if Text.startsWith name ":" then .ok (p ++ name)
      else
        let dots := (name.toList.takeWhile (· = '.')).length
        match climb? p (dots - 1) with
        | some base => .ok (join base (String.ofList (name.toList.drop dots)))
        | none =>
          .error (.configuration ("relative name " ++ Text.quoted name ++ " climbs above package "
            ++ Text.quoted p))
  | _ => .ok name

end WebDispatch.DottedName
