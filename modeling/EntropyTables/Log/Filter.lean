import EntropyTables.Log.Directive
/-!
# Log filters

A filter is a list of directives, no two with the same scope. Those that name no span and ask for no
value decide by what is told alone: of the ones that speak of an event the most specific holds, that
is the one with the longest target, and with equal targets one that asks for a field before one that
does not.

A directive that names a span or a field also speaks of the span of a table's generation if that is
the span or has the field. Then the span is shown, and what is told inside it is let through at the
threshold of each such directive whose pattern the name of the table matches.

A filter is written with commas between its directives: `warn,lut_core=debug`.
-/
namespace EntropyTables.Log

namespace Scope

def coversOrigin (scope : Scope) (origin : Origin) : Bool :=
  scope.target.all fun target => target.toList.isPrefixOf origin.name.toList

/-- The scope can be decided by what is told alone. -/
def isStatic (scope : Scope) : Bool :=
  scope.span.isNone && scope.field.all fun test => test.value.isNone

def coversEvent (scope : Scope) (event : Event) : Bool :=
  scope.isStatic && scope.coversOrigin event.origin
    && scope.field.all fun test => event.fieldNames.contains test.name

/-- The scope can be decided without a span, and speaks of the place where the span of a table's
generation opens. -/
def coversOpening (scope : Scope) : Bool := scope.isStatic && scope.coversOrigin spanOrigin

/-- The scope names a span or a field, and speaks of the span of a table's generation. -/
def coversSpan (scope : Scope) : Bool :=
  (scope.span.isSome || scope.field.isSome) && scope.coversOrigin spanOrigin
    && (scope.span.all (· == spanName)) && scope.field.all fun test => test.name == spanField

/-- What the scope asks of the values holds in the span of a table. -/
def holdsIn (scope : Scope) (table : Table) : Bool :=
  scope.field.all fun test => test.holdsOf table.name

/-- One scope is at most as specific as another that speaks of the same place. -/
def atMost (a b : Scope) : Bool :=
  let size (s : Scope) : Nat := s.target.elim 0 fun target => target.length + 1
  size a < size b ||
    (size a == size b &&
      match a.field, b.field with
      | none, _ => true
      | some _, none => false
      | some x, some y => x.name ≤ y.name)

end Scope

/-- The rules that decide which events are logged. -/
abbrev Filter := List Directive

namespace Filter

/-! ## Deciding -/

/-- The threshold of the most specific of some directives. -/
def closest (directives : List Directive) : Threshold :=
  let best := directives.foldl
    (fun (best : Option Directive) d =>
      match best with
      | some b => if b.scope.atMost d.scope then some d else some b
      | none => some d)
    none
  best.bind (·.threshold)

/-- The threshold for an event, whatever span it is told in. -/
def threshold (filter : Filter) (event : Event) : Threshold :=
  closest (filter.filter fun d => d.scope.coversEvent event)

def spanDirectives (filter : Filter) : List Directive :=
  filter.filter fun d => d.scope.coversSpan

/-- The thresholds for what is told in the span of a table. -/
def spanThresholds (filter : Filter) (table : Table) : List Threshold :=
  (filter.spanDirectives.filter fun d => d.scope.holdsIn table).map (·.threshold)

def admits (filter : Filter) (event : Event) : Bool :=
  (filter.threshold event).admits event.level
    || event.span.any fun table => (filter.spanThresholds table).any (·.admits event.level)

/-- The span of a table's generation is shown with its events. -/
def showsSpan (filter : Filter) : Bool :=
  (closest (filter.filter fun d => d.scope.coversOpening)).admits spanLevel
    || !filter.spanDirectives.isEmpty

/-! ## Reading -/

/-- The filter with a directive in place of the one with its scope. -/
def add (filter : Filter) (directive : Directive) : Filter :=
  filter.filter (fun d => d.scope ≠ directive.scope) ++ [directive]

/-- What holds if a filter has no directives. -/
def fallback : Filter := [⟨⟨none, none, none⟩, some .error⟩]

def parse? (text : String) : Option Filter := do
  let parts := (text.toList.splitOn ',').filter fun part => !part.isEmpty
  let directives ← parts.mapM Directive.ofText?
  return if directives.isEmpty then fallback else directives.foldl add []

/-! ## The filter of the flags -/

/-- The filter of `LogConfig::directives`: it lets a threshold through for the parts of this
program, and warnings for everything else. -/
def configured (threshold : Threshold) : Filter :=
  ⟨⟨none, none, none⟩, some .warn⟩
    :: Component.all.map fun part => ⟨⟨some part.name, none, none⟩, threshold⟩

def configuredText (threshold : Threshold) : String :=
  ",".intercalate ("warn" :: Component.all.map fun part => part.name ++ "=" ++ threshold.name)

end Filter

end EntropyTables.Log
