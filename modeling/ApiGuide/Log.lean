/-
# Logs

Section 4.2 of the specification, and the setting `CARLAPI_LOG_LEVEL` in section 4.1.

A log entry has a level and a message. A log takes the entries from some level on;
the level is configured by name, in any case:

| name | least level |
| --- | --- |
| `NOTSET` | none: every entry is taken |
| `DEBUG`, `INFO`, `WARNING`, `ERROR`, `CRITICAL` | the level of that name |
| `WARN`, `FATAL` | `WARNING`, `CRITICAL` |
| `BASIC_FORMAT` | refused: it names the default format of entries |
| `_STYLES` | refused: it names the styles that formats are written in |
| any other | `INFO` |
-/

import ApiGuide.Table
import ApiGuide.Text.Lines

namespace ApiGuide

/-- How much a log entry matters. -/
inductive Level where
  | debug
  | info
  | warning
  | error
  | critical
deriving DecidableEq

/-- The levels in ascending order. -/
def Level.rank : Level → Nat
  | .debug => 10
  | .info => 20
  | .warning => 30
  | .error => 40
  | .critical => 50

/-- The name of a level in a log. -/
def Level.name : Level → Text
  | .debug => "DEBUG"
  | .info => "INFO"
  | .warning => "WARNING"
  | .error => "ERROR"
  | .critical => "CRITICAL"

/-- A log entry. -/
structure LogEntry where
  level : Level
  message : Text
deriving DecidableEq

/-- An entry as a line of a log. -/
def LogEntry.text (entry : LogEntry) : Text :=
  "[carlapi] " ++ entry.level.name ++ ": " ++ entry.message

/-- The lines that some entries make in a log, each entry with a line end after it. -/
def LogEntry.lines (entries : List LogEntry) : List Text :=
  Text.lines (entries.flatMap fun entry => entry.text ++ "\n")

/-- Which entries a log takes: all, or those from a level on. -/
inductive Threshold where
  | all
  | level (least : Level)
deriving DecidableEq

/-- What a name may stand for where a level is asked for: the format of entries, or the
styles that formats are written in, each with its format. -/
inductive NotLevel where
  | format
  | styles
deriving DecidableEq

/-- The report of a name that stands for something else than a level. -/
def NotLevel.message : NotLevel → Text
  | .format => "Unknown level: '%(levelname)s:%(name)s:%(message)s'"
  | .styles => "Level not an integer or a valid string: \x7b" ++
    "'%': (<class 'logging.PercentStyle'>, '%(levelname)s:%(name)s:%(message)s'), " ++
    "'\x7b': (<class 'logging.StrFormatStyle'>, " ++
    "'\x7blevelname\x7d:\x7bname\x7d:\x7bmessage\x7d'), " ++
    "'$': (<class 'logging.StringTemplateStyle'>, " ++
    "'$\x7blevelname\x7d:$\x7bname\x7d:$\x7bmessage\x7d')\x7d"

namespace Threshold

/-- Letters beyond `a` to `z` whose capitals are among `A` to `Z`: the sharp s, the i
without a dot, the long s, and ligatures. -/
def furtherCapitals : List (Nat × Text) :=
  [(0xDF, "SS"), (0x131, "I"), (0x17F, "S"), (0xFB00, "FF"), (0xFB01, "FI"), (0xFB02, "FL"),
    (0xFB03, "FFI"), (0xFB04, "FFL"), (0xFB05, "ST"), (0xFB06, "ST")]

/-- The capitals of a letter, where they are among `A` to `Z`. -/
def capitals (c : CodePoint) : Text :=
  if 97 ≤ c.val ∧ c.val ≤ 122 then [CodePoint.ofNat (c.val - 32)]
  else (furtherCapitals.lookup c.val).getD [c]

/-- The thresholds by name. -/
def named : List (Text × Threshold) :=
  [("NOTSET", .all), ("DEBUG", .level .debug), ("INFO", .level .info), ("WARN", .level .warning),
    ("WARNING", .level .warning), ("ERROR", .level .error), ("FATAL", .level .critical),
    ("CRITICAL", .level .critical)]

/-- The names that stand for something else than a level. -/
def others : List (Text × NotLevel) := [("BASIC_FORMAT", .format), ("_STYLES", .styles)]

/-- The threshold of a name. -/
def ofName (name : Text) : Except NotLevel Threshold :=
  let name := name.flatMap capitals
  match Table.lookup? name others with
  | some other => .error other
  | none => .ok ((Table.lookup? name named).getD (.level .info))

/-- Whether a log with a threshold takes an entry. -/
def admits (threshold : Threshold) (entry : LogEntry) : Bool :=
  match threshold with
  | .all => true
  | .level least => decide (least.rank ≤ entry.level.rank)

end Threshold
end ApiGuide
