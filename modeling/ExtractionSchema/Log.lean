import ExtractionSchema.Text.Capped
import ExtractionSchema.Text.Quoted

/-!
# Log records and truncations

What an operation has to tell besides its result is returned as data. A `Truncation` records that a
text was cut to a limit and where; each one has a warning in the log.

* `cap` cuts a text to a limit and returns the truncation, if there was one.
-/

namespace ExtractionSchema

/-- How urgent a log record is. -/
inductive LogLevel where
  | debug
  | info
  | warning
deriving DecidableEq

/-- The component that wrote a log record. -/
inductive LogSource where
  | compiler
  | prompt
  | views
  | gate
deriving DecidableEq

/-- A line of the log. -/
structure LogRecord where
  level : LogLevel
  source : LogSource
  message : String
deriving DecidableEq

namespace LogRecord

/-- The name of a level. -/
def levelName : LogLevel → String
  | .debug => "DEBUG"
  | .info => "INFO"
  | .warning => "WARNING"

/-- The name under which a component writes to the log. -/
def sourceName : LogSource → String
  | .compiler => "schema_platform.compiler.compiler"
  | .prompt => "schema_platform.compiler.prompt"
  | .views => "schema_platform.compiler.views"
  | .gate => "schema_platform.engine.result_gate"

/-- The written form of a record. -/
def line (r : LogRecord) : String :=
  levelName r.level ++ " " ++ sourceName r.source ++ ": " ++ r.message

end LogRecord

/-- Where a text was cut: at a field of a view, in the general instructions of a prompt, or in the
section of a field in a prompt. -/
inductive CutSite where
  | view (path : String)
  | general
  | field (name : String)
deriving DecidableEq

/-- A text was cut to a limit. -/
structure Truncation where
  site : CutSite
  originalLength : Nat
  limit : Int
deriving DecidableEq

namespace Truncation

/-- The place within a prompt. -/
def promptPlace : CutSite → String
  | .field name => "field " ++ Text.quoted name
  | _ => "general instructions"

/-- The location that a report of the truncation gives. -/
def location (t : Truncation) : String :=
  match t.site with
  | .view path => "view:" ++ path
  | site => "prompt:" ++ promptPlace site

/-- The warning that tells of the truncation. -/
def warning (t : Truncation) : LogRecord :=
  match t.site with
  | .view path =>
    ⟨.warning, .views, s!"Truncated extractionInstructions for field {Text.quoted path} " ++
      s!"from {t.originalLength} to {t.limit} chars"⟩
  | site =>
    ⟨.warning, .prompt, s!"Truncated {promptPlace site} in prompt " ++
      s!"from {t.originalLength} to {t.limit} chars"⟩

end Truncation

/-- The text within the limit, and the truncation if it was cut. -/
def cap (site : CutSite) (limit : Int) (ellipsis s : String) : String × List Truncation :=
  (Text.capped limit ellipsis s,
    if Text.exceeds limit s then [⟨site, s.length, limit⟩] else [])

end ExtractionSchema
