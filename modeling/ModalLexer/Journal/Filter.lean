import ModalLexer.Journal.Directive

/-! Filters of a log. Of the directives for a site the most specific one says whether it is heard.
A directive with a span or a field also marks the spans that it fits: a marked span is heard, and
so is what goes on in it, up to the level of the mark. -/
namespace ModalLexer

structure Site where
  target : String
  level : Level
  fields : List String
  deriving DecidableEq, Repr

inductive FieldValue where
  | number (n : Nat)
  | text (s : String)
  deriving DecidableEq, Repr

def FieldValue.shown : FieldValue → String
  | number n => toString n
  | text s => s

/-- Numbers are compared as numbers. Of patterns for a text only plain words are told: such a word
is the whole text. -/
def FieldValue.meets (wanted : String) : FieldValue → Bool
  | number n => wholeNumber? wanted.toList = some n
  | text s => wanted.toList.all Char.isAlphanum && wanted == s

structure LogSpan where
  target : String
  name : String
  fields : List (String × FieldValue)
  deriving DecidableEq, Repr

namespace Directive

def reaches (d : Directive) (target : String) : Bool :=
  d.target.all fun t => t.toList.isPrefixOf target.toList

def isForSites (d : Directive) : Bool := d.span.isNone && d.field.all fun f => f.value.isNone

def marks (d : Directive) : Bool := d.span.isSome || d.field.isSome

def coversSite (d : Directive) (site : Site) : Bool :=
  d.isForSites && d.reaches site.target && d.field.all fun f => f.name ∈ site.fields

def coversSpan (d : Directive) (span : LogSpan) : Bool := d.isForSites && d.reaches span.target

def fits (d : Directive) (span : LogSpan) : Bool :=
  d.marks && d.reaches span.target && d.span.all (· == span.name) &&
    d.field.all fun f => (span.fields.lookup f.name).isSome

def holds (d : Directive) (span : LogSpan) : Bool :=
  d.field.all fun f => f.value.all fun wanted =>
    (span.fields.lookup f.name).any (FieldValue.meets wanted)

def weight (d : Directive) : Nat :=
  2 * d.target.elim 0 (fun t => t.utf8ByteSize + 1) + if d.field.isSome then 1 else 0

def fieldName (d : Directive) : String := d.field.elim "" FieldTest.name

def yieldsTo (d e : Directive) : Bool :=
  d.weight < e.weight || d.weight == e.weight && !decide (e.fieldName < d.fieldName)

def sameAim (d e : Directive) : Bool :=
  d.target == e.target && d.span == e.span && d.field == e.field

end Directive

structure Filter where
  directives : List Directive
  refused : List (String × DirectiveFault)
  deriving DecidableEq, Repr

namespace Filter

/-- Directives stand between commas; one that cannot be read is left out. -/
def ofText (text : String) : Filter :=
  let pieces := (text.toList.splitOn ',').filter (· != [])
  let read := pieces.map fun piece => (String.ofList piece, Directive.ofText (String.ofList piece))
  ⟨read.filterMap fun (_, result) => result.toOption,
    read.filterMap fun (piece, result) =>
      match result with
      | .ok _ => none
      | .error fault => some (piece, fault)⟩

def refusals (f : Filter) : List String :=
  f.refused.map fun (piece, fault) => "ignoring `" ++ piece ++ "`: " ++ fault.message

def ruling (directives : List Directive) : Option Directive :=
  directives.foldl (fun best d => if best.all (·.yieldsTo d) then some d else best) none

def hears (f : Filter) (site : Site) : Bool :=
  (ruling (f.directives.filter (·.coversSite site))).any fun d => site.level ≤ d.level

def marksOn (f : Filter) (span : LogSpan) : List Directive :=
  (f.directives.filter (·.fits span)).reverse.eraseDupsBy Directive.sameAim

/-- No more than this is heard of anything. A wanted value lifts it altogether. -/
def ceiling (f : Filter) : Level :=
  if f.directives.any fun d => d.field.any fun t => t.value.isSome then .trace
  else (f.directives.map Directive.level).foldl max .off

def shows (f : Filter) (span : LogSpan) : Bool :=
  let covering := f.directives.filter (·.coversSpan span)
  let asked := !(f.marksOn span).isEmpty ||
    (ruling covering).any fun d => Level.debug ≤ d.level
  asked && Level.debug ≤ f.ceiling

def within (f : Filter) (span : LogSpan) : Level :=
  (((f.marksOn span).filter (·.holds span)).map Directive.level).foldl max .off

def hearsIn (f : Filter) (span : LogSpan) (site : Site) : Bool :=
  f.hears site || f.shows span && site.level ≤ f.within span

end Filter
end ModalLexer
