import TwoStack.Pattern.Meaning

/-!
# Log filters

A filter decides by level and target which notes are kept.  It is written as directives between
commas, such as `info,loader=debug`: a level alone holds for every target, and a name, with or
without a level, for the targets that begin with it.  The longest name that fits decides.  After a
slash stands a pattern that occurs in every kept note.
-/

namespace TwoStack.Log

/-- How much a note matters. -/
inductive Level where
  | error
  | warn
  | info
  | debug
  | trace
  deriving DecidableEq, Repr

namespace Level

/-- The name of a level. -/
def name : Level → String
  | error => "ERROR"
  | warn => "WARN"
  | info => "INFO"
  | debug => "DEBUG"
  | trace => "TRACE"

/-- The place of a level, counted from the most important one. -/
def rank (level : Level) : Nat := level.ctorIdx

/-- All levels, the most important one first. -/
def all : List Level := [error, warn, info, debug, trace]

end Level

/-- The least important level that is kept; `none` keeps nothing. -/
abbrev Threshold := Option Level

namespace Threshold

/-- Whether a level is important enough. -/
def admits (threshold : Threshold) (level : Level) : Bool :=
  threshold.any fun least => level.rank ≤ least.rank

/-- Reads a threshold: the name of a level or `off`, in either case. -/
def ofText? (text : String) : Option Threshold :=
  if text.toUpper == "OFF" then some none
  else (Level.all.find? fun level => level.name == text.toUpper).map some

end Threshold

/-- A threshold for the targets that begin with `scope`, or for every target. -/
structure Directive where
  scope : Option String
  threshold : Threshold
  deriving DecidableEq, Repr

/-- Directives in the order in which they were given, and possibly a pattern that occurs in every
kept note. -/
structure Filter where
  directives : List Directive
  pattern : Option Pattern
  deriving DecidableEq, Repr

namespace Directive

/-- Reads one directive; the text that makes it invalid is returned otherwise. -/
def ofText (text : String) : Except String Directive :=
  match text.splitOn "=" with
  | [single] =>
    match Threshold.ofText? single with
    | some threshold => .ok ⟨none, threshold⟩
    | none => .ok ⟨some single, some .trace⟩
  | [scope, level] =>
    let level := withoutOuterBlanks level
    if level.isEmpty then .ok ⟨some scope, some .trace⟩
    else
      match Threshold.ofText? level with
      | some threshold => .ok ⟨some scope, threshold⟩
      | none => .error s!"invalid logging spec '{level}'"
  | _ => .error s!"invalid logging spec '{text}'"

/-- Adds a directive; it takes the place of one with the same scope. -/
def insert (directive : Directive) (directives : List Directive) : List Directive :=
  if directives.any (·.scope == directive.scope) then
    directives.map fun other => if other.scope == directive.scope then directive else other
  else
    directives ++ [directive]

/-- Whether a directive holds for a target. -/
def fits (directive : Directive) (target : String) : Bool :=
  directive.scope.all fun scope => scope.isPrefixOf target

/-- The number of bytes of the scope. -/
def scopeSize (directive : Directive) : Nat := directive.scope.elim 0 String.utf8ByteSize

end Directive

namespace Filter

/-- The filter that keeps every note. -/
def everything : Filter := ⟨[⟨none, some .trace⟩], none⟩

/-- The filter that keeps no note. -/
def nothing : Filter := ⟨[⟨none, none⟩], none⟩

/-- Reads the pattern after a slash; one that cannot be read is left out. -/
def readPattern (text : String) : Option Pattern × List String :=
  match Pattern.ofText text with
  | .ok pattern => (some pattern, [])
  | .error error => (none, [s!"invalid regex filter - {error.message text}"])

/-- Reads a filter, and says what is wrong with the parts that it leaves out. -/
def ofText (text : String) : Filter × List String :=
  match text.splitOn "/" with
  | directives :: patterns =>
    if patterns.length > 1 then
      (⟨[], none⟩, [s!"invalid logging spec '{text}' (too many '/'s)"])
    else
      let parts := (directives.splitOn ",").map withoutOuterBlanks
      let results := (parts.filter fun part => !part.isEmpty).map Directive.ofText
      let accepted := results.filterMap fun result => result.toOption
      let complaints := results.filterMap fun
        | .error complaint => some complaint
        | .ok _ => none
      let kept := accepted.foldl (fun kept directive => directive.insert kept) []
      let (pattern, flaws) := (patterns.head?.map readPattern).getD (none, [])
      (⟨kept, pattern⟩, complaints ++ flaws)
  | [] => (⟨[], none⟩, [])

/-- The threshold for a target: that of the longest scope it begins with, nothing if no scope fits,
and errors only if there is no directive at all. -/
def threshold (filter : Filter) (target : String) : Threshold :=
  if filter.directives.isEmpty then some .error
  else
    let fitting := filter.directives.filter fun directive => directive.fits target
    let longest := fitting.foldl (fun best directive =>
      match best with
      | none => some directive
      | some other => if other.scopeSize ≤ directive.scopeSize then some directive else some other)
      (none : Option Directive)
    longest.bind Directive.threshold

/-- Whether the pattern of the filter, if it has one, occurs in a text. -/
def admitsText (filter : Filter) (text : String) : Bool :=
  filter.pattern.all fun pattern => pattern.occursIn text

end Filter

end TwoStack.Log
