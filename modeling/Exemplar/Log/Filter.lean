/-
Exemplar.Log.Filter — which records are shown.

A filter is written as directives, separated by commas, and after them, following a slash, a text
that a record's message has to hold. A directive gives a level, for all sources or for those whose
name starts with a given text; of several that apply, the one with the longest text decides.

  §1 directives and filters
  §2 reading a filter
  §3 showing records
-/
import Exemplar.Log
import Exemplar.Text.Blank
import Exemplar.Text.Split
import Exemplar.Text.Styling

namespace Exemplar.Log

/-! ## §1 Directives and filters -/

/-- A level for the sources whose name starts with `scope`, all of them if not given. Without a
level nothing of them is shown. -/
structure Directive where
  scope : Option String
  level : Option Level
  deriving DecidableEq, Repr

/-- Whether a directive applies to a source. -/
def Directive.covers (directive : Directive) (source : Source) : Bool :=
  match directive.scope with
  | none => true
  | some scope => Text.startsWith scope.toList source.target.toList

/-- Whether a directive shows a level. -/
def Directive.shows (directive : Directive) (level : Level) : Bool :=
  match directive.level with
  | none => false
  | some least => level.rank ≤ least.rank

/-- How closely a directive is aimed: the length of its scope, in bytes. -/
def Directive.weight (directive : Directive) : Nat :=
  match directive.scope with
  | none => 0
  | some scope => scope.utf8ByteSize

/-- Directives, one for each scope, and a text that messages have to hold. -/
structure Filter where
  directives : List Directive := []
  text : Option String := none
  deriving DecidableEq, Repr

namespace Filter

/-- Adds a directive; it takes the place of one with the same scope. -/
def add (filter : Filter) (directive : Directive) : Filter :=
  if filter.directives.any (·.scope = directive.scope) then
    { filter with
      directives := filter.directives.map fun d =>
        if d.scope = directive.scope then directive else d }
  else { filter with directives := filter.directives ++ [directive] }

/-- The directives that decide, those aimed most closely first. Without any, errors are shown. -/
def ranked (filter : Filter) : List Directive :=
  if filter.directives.isEmpty then [⟨none, some .error⟩]
  else (filter.directives.mergeSort fun a b => a.weight ≤ b.weight).reverse

/-- Whether a record is shown. -/
def permits (filter : Filter) (record : Record) : Bool :=
  (match filter.ranked.find? (·.covers record.source) with
    | some directive => directive.shows record.level
    | none => false) &&
  (match filter.text with
    | some text => Text.occursIn text.toList record.message.toList
    | none => true)

/-! ## §2 Reading a filter -/

/-- The letters of ASCII in lower case, all else as it is. -/
def asciiLower (s : String) : String :=
  String.ofList (s.toList.map Char.toLower)

/-- The level that a word names, in any case; `off` names none. -/
def level? (word : String) : Option (Option Level) :=
  match asciiLower word with
  | "off" => some none
  | "error" => some (some .error)
  | "warn" => some (some .warn)
  | "info" => some (some .info)
  | "debug" => some (some .debug)
  | "trace" => some (some .trace)
  | _ => none

/-- The directive that a text gives, or the part of it that is wrong. -/
def directive (spec : String) : Except String Directive :=
  match Text.split '=' spec with
  | [word] =>
    match level? word with
    | some level => .ok ⟨none, level⟩
    | none => .ok ⟨some word, some .trace⟩
  | [scope, word] =>
    let word := Text.trim word
    if word = "" then .ok ⟨some scope, some .trace⟩
    else match level? word with
      | some level => .ok ⟨some scope, level⟩
      | none => .error word
  | _ => .error spec

/-- The filter that a text gives, and a warning for each part of it that is passed over. -/
def parse (spec : String) : Filter × List String :=
  match Text.split '/' spec with
  | directives :: rest =>
    if 1 < rest.length then
      ({}, ["invalid logging spec '" ++ spec ++ "' (too many '/'s)"])
    else
      let parts := ((Text.split ',' directives).map Text.trim).filter (· ≠ "")
      parts.foldl
        (fun (filter, warnings) part =>
          match directive part with
          | .ok d => (filter.add d, warnings)
          | .error wrong => (filter, warnings ++ ["invalid logging spec '" ++ wrong ++ "'"]))
        ({ text := rest.head? }, [])
  | [] => ({}, [])

end Filter

/-! ## §3 Showing records -/

/-- The mark of a level in front of a message. -/
def Level.tag : Level → String
  | .error => "error"
  | .warn => "warn"
  | .info => "info"
  | .debug => "dbg"
  | .trace => "dbg"

/-- A record as it shows, on a line of its own. -/
def Record.line (styling : Styling) (record : Record) : String :=
  styling.stream ("[CSYNTH][" ++ record.level.tag ++ "] " ++ record.message ++ "\n")

/-- A warning about a filter as a line. -/
def warningLine (warning : String) : String :=
  "warning: " ++ warning ++ ", ignoring it\n"

end Exemplar.Log
