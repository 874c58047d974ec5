import WebDispatch.OrderedMap
import WebDispatch.Text.CaseMap
import WebDispatch.Text.Split

/-!
# Settings

Settings are texts under keys. Some keys are recognised: they may be written bare or behind a
mark (`Settings.mark`), the bare spelling being preferred, and their parsed values are part of
the settings.

* `isTruthy`, `Text.words` — the two readings of a text;
* `Settings.ofValues`, `Settings.update` — settings from their texts;
* `Settings.get?`, `Settings.getBool` — texts as they are stored.
-/

namespace WebDispatch

/-- Whether a text means yes: one of six words, in any case, blanks around it aside. -/
def isTruthy (s : String) : Bool :=
  ["t", "true", "y", "yes", "on", "1"].contains (Text.lowercase (Text.trim s))

/-- The texts of settings, in the order in which their keys came. -/
abbrev SettingValues := OrderedMap String String

/-- Settings with the parsed values of the recognised keys. -/
structure Settings where
  values : SettingValues := {}
  debugAuthorization : Bool := false
  debugNotFound : Bool := false
  debugRouteMatch : Bool := false
  preventHttpCache : Bool := false
  defaultLocaleName : String := "en"
  tweens : List String := []
deriving DecidableEq, Repr, Inhabited

namespace Settings

/-- The mark that may stand in front of a recognised key. -/
def mark : String := "cornice."

/-- The text of a recognised key, bare or behind the mark. -/
def lookup? (values : SettingValues) (key : String) : Option String :=
  values.get? key <|> values.get? (mark ++ key)

def flag (values : SettingValues) (key : String) : Bool :=
  match lookup? values key with
  | some s => isTruthy s
  | none => false

def ofValues (values : SettingValues) : Settings :=
  let all := flag values "debug_all"
  { values := values
    debugAuthorization := all || flag values "debug_authorization"
    debugNotFound := all || flag values "debug_notfound"
    debugRouteMatch := all || flag values "debug_routematch"
    preventHttpCache := flag values "prevent_http_cache"
    defaultLocaleName := (lookup? values "default_locale_name").getD "en"
    tweens := ((lookup? values "tweens").map Text.words).getD [] }

def get? (s : Settings) (key : String) : Option String := s.values.get? key

def getBool (s : Settings) (key : String) : Bool :=
  match s.get? key with
  | some v => isTruthy v
  | none => false

def update (s : Settings) (entries : List (String × String)) : Settings :=
  ofValues (s.values.insertAll entries)

end Settings

end WebDispatch
