/-!
# Logging — what passes say about themselves

How much a pass reports is a choice made once for the pass: details of
rows, a summary, what was skipped, and how long a reported value may be.
Which reports reach a reader is another matter, decided by their levels.
-/

namespace DataQuality

/-- How much an event matters, in ascending order. -/
inductive Level where
  | trace
  | debug
  | info
  | warn
  | error
  deriving DecidableEq

namespace Level

/-- The place of a level in the order. -/
def rank : Level → Nat
  | trace => 0
  | debug => 1
  | info => 2
  | warn => 3
  | error => 4

/-- The word of a level. -/
def word : Level → String
  | trace => "trace"
  | debug => "debug"
  | info => "info"
  | warn => "warn"
  | error => "error"

/-- The word of a level as headings have it. -/
def heading : Level → String
  | trace => "TRACE"
  | debug => "DEBUG"
  | info => "INFO"
  | warn => "WARN"
  | error => "ERROR"

/-- The level of a word. -/
def ofWord? : String → Option Level
  | "trace" => some trace
  | "debug" => some debug
  | "info" => some info
  | "warn" => some warn
  | "error" => some error
  | _ => none

end Level

/-- What a pass reports. -/
structure LogConfig where
  baseLevel : Level
  /-- The results of every row. -/
  rowDetails : Bool
  /-- Where the pass starts and ends. -/
  passSummary : Bool
  /-- What is skipped. -/
  skipped : Bool
  /-- How many bytes of a value are shown. -/
  maxFieldLength : Nat
  deriving DecidableEq

namespace LogConfig

/-- Summaries and what is skipped. -/
def balanced : LogConfig := ⟨.info, false, true, true, 256⟩

/-- Everything, and longer values. -/
def verbose : LogConfig := ⟨.debug, true, true, true, 1024⟩

/-- Nothing. -/
def production : LogConfig := ⟨.warn, false, false, false, 128⟩

/-- The choice that a word names. -/
def ofWord? : String → Option LogConfig
  | "default" => some balanced
  | "balanced" => some balanced
  | "verbose" => some verbose
  | "production" => some production
  | _ => none

end LogConfig

/-- Which events reach a reader, and in what form. -/
structure Subscription where
  level : Level
  /-- The level for the events of this library. -/
  metricsLevel : Level
  json : Bool
  /-- A filter that is used as it stands. -/
  filter : Option String
  deriving DecidableEq

namespace Subscription

/-- Progress of the program, details of this library. -/
def standard : Subscription := ⟨.info, .debug, false, none⟩

/-- Warnings, and progress of this library, for programs to read. -/
def production : Subscription := ⟨.warn, .info, true, none⟩

/-- Details of everything. -/
def development : Subscription := ⟨.debug, .debug, false, none⟩

/-- The subscription that a word names. -/
def ofWord? : String → Option Subscription
  | "default" => some standard
  | "production" => some production
  | "development" => some development
  | _ => none

/-- The filter text: the one that is set, else one made of the levels. -/
def filterText (s : Subscription) : String :=
  s.filter.getD (s.level.word ++ ",term_metrics=" ++ s.metricsLevel.word)

end Subscription

/-- How a pass is run. -/
structure EvaluationConfig where
  log : LogConfig
  /-- Whether a check that crashes counts as one that results in an error. -/
  catchesCrashes : Bool
  deriving DecidableEq

namespace EvaluationConfig

/-- Crashes are caught and the pass reports its summary. -/
def standard : EvaluationConfig := ⟨LogConfig.balanced, true⟩

/-- Crashes are caught and the pass reports every row. -/
def verbose : EvaluationConfig := ⟨LogConfig.verbose, true⟩

/-- Crashes are caught and the pass reports nothing. -/
def production : EvaluationConfig := ⟨LogConfig.production, true⟩

/-- The way that a word names. -/
def ofWord? : String → Option EvaluationConfig
  | "default" => some standard
  | "verbose" => some verbose
  | "production" => some production
  | _ => none

end EvaluationConfig

end DataQuality
