/-
RealmAccess.Logging.Filter — which events reach the log.

A filter is a list of directives, each a level, a target, or both. A target
is matched by every target that it is a prefix of. Of the directives that
match, the longest target decides, and of two with one target the later; a
directive without a target matches everything and yields to all others.
What no directive matches is not logged.
-/
import RealmAccess.Config
import RealmAccess.Environment
import RealmAccess.Text.Digits

namespace RealmAccess

/-- The most verbose level that is logged; none for nothing at all. -/
abbrev Threshold := Option Level

namespace Threshold

/-- Whether events of a level are logged. -/
def admits (t : Threshold) (level : Level) : Bool :=
  match t with
  | none => false
  | some most => level.verbosity ≤ most.verbosity

/-- The thresholds in order of verbosity, with their names. -/
def named : List (String × Threshold) :=
  ("off", none) :: [Level.error, .warn, .info, .debug, .trace].map fun l => (l.smallName, some l)

/-- The number that some decimal digits stand for; a plus sign may precede them. -/
def number? (cs : List Char) : Option Nat :=
  let ds := match cs with
    | '+' :: rest => rest
    | cs => cs
  if ds.isEmpty then none else Text.number? 10 ds

/-- The threshold with a name, in capitals or not, or with its number from zero to five. -/
def parse? (text : String) : Option Threshold :=
  match number? text.toList with
  | some n => (named[n]?).map (·.2)
  | none => (named.find? (·.1 = text.toLower)).map (·.2)

end Threshold

/-- One rule of a filter. -/
structure Directive where
  /-- The targets that it is about; without one it is about all. -/
  target : Option String
  threshold : Threshold
  deriving DecidableEq

namespace Directive

/-- Whether a directive is about a target. -/
def matchesTarget (d : Directive) (target : String) : Bool :=
  match d.target with
  | none => true
  | some start => start.toList.isPrefixOf target.toList

/-- How exactly a directive says what it is about. -/
def reach (d : Directive) : Nat :=
  match d.target with
  | none => 0
  | some start => start.length

/-- Whether a character may begin a directive. -/
def mayBegin (c : Char) : Bool := c.isAlphanum || c = '-' || c = ':' || c = '_' || 0x80 ≤ c.toNat

/-- Read a directive: a level, a target, or both with an equals sign between. A target alone, or
with nothing after the sign, is about every level. -/
def parse? (text : List Char) : Option Directive :=
  let (target, rest) := text.span (· ≠ '=')
  if !(target.head?.any mayBegin) || target.contains '[' then none
  else
    match rest with
    | [] =>
      match Threshold.parse? (String.ofList target) with
      | some threshold => some ⟨none, threshold⟩
      | none => some ⟨some (String.ofList target), some .trace⟩
    | [_] => some ⟨some (String.ofList target), some .trace⟩
    | _ :: level =>
      (Threshold.parse? (String.ofList level)).map fun threshold => ⟨some (String.ofList target), threshold⟩

end Directive

/-- A list of directives. -/
abbrev Filter := List Directive

namespace Filter

/-- The parts of a text between commas. -/
def parts : List Char → List (List Char)
  | [] => [[]]
  | ',' :: rest => [] :: parts rest
  | c :: rest =>
    match parts rest with
    | [] => [[c]]
    | part :: more => (c :: part) :: more

/-- Read some directives; one that is malformed spoils them all. -/
def ofParts? : List (List Char) → Option Filter
  | [] => some []
  | part :: rest =>
    if part.isEmpty then ofParts? rest
    else (Directive.parse? part).bind fun d => (ofParts? rest).map (d :: ·)

/-- Read a list of directives with commas between; empty ones do not count. -/
def parse? (text : String) : Option Filter := ofParts? (parts text.toList)

/-- The more exact one of two directives, and the second if they are equally exact. -/
def preferred (best : Option Directive) (d : Directive) : Option Directive :=
  match best with
  | none => some d
  | some b => if b.reach ≤ d.reach then some d else some b

/-- The directive that decides for a target. -/
def deciding? (f : Filter) (target : String) : Option Directive :=
  (f.filter (·.matchesTarget target)).foldl preferred none

/-- Whether events of a target and a level are logged. -/
def admits (f : Filter) (target : String) (level : Level) : Bool :=
  (f.deciding? target).any (·.threshold.admits level)

/-- The levels of a target that are logged, gravest first. -/
def levels (f : Filter) (target : String) : List Level := Level.all.filter (f.admits target)

/-- The filter that logs every target from a level on. -/
def ofLevel (level : Level) : Filter := [⟨none, some level⟩]

end Filter

/-- How texts are read as filters. -/
structure FilterReader where
  /-- Read a text; none if something in it is malformed. -/
  strict : String → Option Filter
  /-- Read a text without what is malformed in it. -/
  lenient : String → Filter

/-- The reader of directives with commas between. If nothing is left when the malformed ones are left
out, errors are logged. -/
def FilterReader.directives : FilterReader where
  strict := Filter.parse?
  lenient text :=
    match (Filter.parts text.toList).filterMap Directive.parse? with
    | [] => .ofLevel .error
    | f => f

namespace Filter

/-- The variable whose directives replace all that is configured. -/
def variableName : String := "RUST_LOG"

/-- The filter for some settings, by a reader. The variable goes first, and if its directives are
malformed only the configured level is left; without the variable the configured directives are added
to the level, unless they are malformed. -/
def ofSettingsBy (reader : FilterReader) (env : Environment) (s : LoggingSettings) : Filter :=
  match env.text? variableName with
  | some text => (reader.strict text).getD (reader.lenient s.level.smallName)
  | none =>
    match s.filter with
    | some text =>
      (reader.strict (s.level.smallName ++ "," ++ text)).getD (reader.lenient s.level.smallName)
    | none => reader.lenient s.level.smallName

/-- The filter for some settings. -/
def ofSettings (env : Environment) (s : LoggingSettings) : Filter := ofSettingsBy .directives env s

end Filter

end RealmAccess
