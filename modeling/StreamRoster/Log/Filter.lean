import StreamRoster.Log.Line
import StreamRoster.Number.Unsigned
import StreamRoster.Text.Alphanumeric
import StreamRoster.Text.Blank
import StreamRoster.Text.Split
import StreamRoster.Text.Utf8

/-!
# Log Filters

Which log lines are kept. A filter is a list of directives, each of which
names a level for a target, for a span in brackets, or for everything. The
more a directive asks for, the earlier it is tried, and of two that ask for
the same the later one counts.

A filter is taken from the first of three texts that can be read: an
override, the configured level, and `info`.

## Main definitions

* `Log.Threshold`: The least urgent level that is kept, or none.
* `Log.Directive`: A threshold for some lines.
* `Log.Directive.read?`: Reads a directive.
* `Log.Filter`: The directives of a filter.
* `Log.Filter.read?`: Reads a filter.
* `Log.Filter.choose`: The filter of an override and a configured level.
-/

namespace StreamRoster

namespace Log

/-- The least urgent level that is kept, or none. -/
inductive Threshold where
  | off
  | error
  | warn
  | info
  | debug
  | trace
  deriving DecidableEq, Repr

namespace Threshold

/-- All thresholds, those that keep less first. -/
def all : List Threshold := [.off, .error, .warn, .info, .debug, .trace]

/-- The name of a threshold. -/
def name : Threshold → String
  | .off => "off"
  | .error => "error"
  | .warn => "warn"
  | .info => "info"
  | .debug => "debug"
  | .trace => "trace"

/-- The number of a threshold. -/
def rank : Threshold → Nat
  | .off => 0
  | .error => 1
  | .warn => 2
  | .info => 3
  | .debug => 4
  | .trace => 5

/-- The threshold with a number. -/
def ofRank? (n : Nat) : Option Threshold := all.find? fun t => t.rank = n

/-- The threshold with a name in any case. -/
def ofName? (s : List Char) : Option Threshold :=
  all.find? fun t => t.name.toList = s.map Char.toLower

/-- The threshold of a number or a name. -/
def read? (s : List Char) : Option Threshold :=
  match Unsigned.read 0x10000000000000000 s with
  | .ok n => ofRank? n
  | .error _ => ofName? s

/-- The threshold that keeps more. -/
def max (a b : Threshold) : Threshold := if a.rank < b.rank then b else a

end Threshold

/-- A threshold for some lines: those of a target, those inside a span, those
    with a field, or any combination. -/
structure Directive where
  target : Option (List Char)
  span : Option (List Char)
  fields : List (List Char)
  threshold : Threshold
  deriving DecidableEq, Repr

namespace Directive

/-- Whether a directive may start with a character. -/
def isStart (c : Char) : Bool := c = '-' || c = ':' || c = '_' || Text.isAlphanumeric c

/-- The threshold behind a target or a span: nothing, or an equals sign with a
    threshold or with nothing. -/
def readThreshold? (s : List Char) : Option Threshold :=
  match s with
  | ['='] => some .trace
  | '=' :: s => Threshold.read? s
  | s => if s.all Text.isBlank then some .trace else none

/-- Read a span and its fields up to the closing bracket, and then the
    threshold. -/
def readSpan? (target : Option (List Char)) (s : List Char) : Option Directive :=
  let span := s.takeWhile fun c => c ≠ ']' && c ≠ '\x7b'
  match s.dropWhile fun c => c ≠ ']' && c ≠ '\x7b' with
  | ']' :: s => do some ⟨target, some span, [], ← readThreshold? s⟩
  | '\x7b' :: s =>
    let field := s.takeWhile (· ≠ '\x7d')
    match s.dropWhile (· ≠ '\x7d') with
    | '\x7d' :: ']' :: s =>
      if field.isEmpty then none
      else do
        some ⟨target, if span.isEmpty then none else some span, [field], ← readThreshold? s⟩
    | _ => none
  | _ => none

/-- Read a directive that is one word: a threshold, or a target of which all
    lines are kept. Blanks around the word belong to the target. -/
def readWord? (text : List Char) : Option Directive :=
  match Text.trim text with
  | [] => none
  | c :: _ =>
    if !isStart c then none
    else match Threshold.read? text with
      | some threshold => some ⟨none, none, [], threshold⟩
      | none => some ⟨some text, none, [], .trace⟩

/-- Read a directive: one word, or a target or a span with a threshold. -/
def read? (text : List Char) : Option Directive :=
  let ends (c : Char) : Bool := c = '=' || c = '['
  if !text.any ends then readWord? text
  else match text with
    | [] => none
    | '[' :: s => readSpan? none s
    | c :: _ =>
      if !isStart c then none
      else
        let target := text.takeWhile (!ends ·)
        match text.dropWhile (!ends ·) with
        | '[' :: s => readSpan? (some target) s
        | s => do some ⟨some target, none, [], ← readThreshold? s⟩

/-- Whether a directive looks at spans. -/
def isDynamic (d : Directive) : Bool := d.span.isSome || !d.fields.isEmpty

/-- Whether a field asks for a value. -/
def hasValue (field : List Char) : Bool := field.contains '='

/-- Whether a directive applies to lines outside of spans. -/
def isStatic (d : Directive) : Bool := d.span.isNone && !d.fields.any hasValue

/-- Order two optional texts by their lengths in bytes; a missing one comes
    first. -/
def compareLength (a b : Option (List Char)) : Ordering :=
  compare (a.map fun s => (Text.utf8 s).length + 1) (b.map fun s => (Text.utf8 s).length + 1)

/-- Order two optional texts; a missing one comes first. -/
def compareText (a b : Option (List Char)) : Ordering :=
  compare (a.map fun s => s.map Char.toNat) (b.map fun s => s.map Char.toNat)

/-- Order two directives by what they ask for, the one that asks for more
    first. -/
def compare (a b : Directive) : Ordering :=
  ((compareLength a.target b.target)
    |>.then (Ord.compare a.span.isSome b.span.isSome)
    |>.then (Ord.compare a.fields.length b.fields.length)
    |>.then (compareText a.target b.target)
    |>.then (compareText a.span b.span)
    |>.then (compareText a.fields.head? b.fields.head?)).swap

/-- The text of a directive. -/
def text (d : Directive) : List Char :=
  let fields := if d.fields.isEmpty then [] else '\x7b' :: Text.join ',' d.fields ++ ['\x7d']
  let inside := if d.isDynamic then '[' :: d.span.getD [] ++ fields ++ [']'] else []
  let front := d.target.getD [] ++ inside
  let asks := d.target.isSome || d.span.isSome || !d.fields.isEmpty
  front ++ (if asks then ['='] else []) ++ d.threshold.name.toList

end Directive

/-- Directives in order, and the threshold that keeps most of all that were
    ever among them. -/
structure Directives where
  ordered : List Directive
  most : Threshold
  deriving Repr

namespace Directives

/-- No directives. -/
def empty : Directives := ⟨[], .off⟩

/-- Put a directive in its place. -/
def insert (d : Directive) : List Directive → List Directive
  | [] => [d]
  | e :: rest => match Directive.compare d e with
    | .lt => d :: e :: rest
    | .eq => d :: rest
    | .gt => e :: insert d rest

/-- Add a directive. -/
def add (ds : Directives) (d : Directive) : Directives :=
  ⟨insert d ds.ordered, Threshold.max ds.most d.threshold⟩

end Directives

/-- The directives of a filter: those for lines outside of spans, and those
    that look at spans. -/
structure Filter where
  plain : Directives
  dynamic : Directives
  deriving Repr

namespace Filter

/-- The filter of some directives. -/
def ofDirectives (ds : List Directive) : Filter where
  plain := ((ds.filter fun d => !d.isDynamic) ++
    (ds.filter fun d => d.isDynamic && d.isStatic)).foldl Directives.add .empty
  dynamic := (ds.filter Directive.isDynamic).foldl Directives.add .empty

/-- Read a filter: directives divided by commas, empty ones left out. -/
def read? (s : List Char) : Option Filter :=
  (((Text.split (· = ',') s).filter (!·.isEmpty)).mapM Directive.read?).map ofDirectives

/-- The filter that is used when no text can be read. -/
def fallback : Filter := ofDirectives [⟨none, none, [], .info⟩]

/-- The filter of an override and a configured level. -/
def choose (override : Option String) (level : String) : Filter :=
  ((override.bind fun s => read? s.toList) <|> read? level.toList).getD fallback

/-- The text of a filter. -/
def text (f : Filter) : List Char :=
  Text.join ',' ((f.plain.ordered ++ f.dynamic.ordered).map Directive.text)

/-- The least urgent level that any line may be kept at. -/
def most (f : Filter) : Threshold :=
  if f.dynamic.ordered.any fun d => d.fields.any Directive.hasValue then .trace
  else Threshold.max f.plain.most f.dynamic.most

end Filter

end Log

end StreamRoster
