import VideoReceiver.Config.Pattern
import VideoReceiver.Config.Settings
import VideoReceiver.Decimal.Positional
import VideoReceiver.Text.Alphanumeric
import VideoReceiver.Text.Blank
import VideoReceiver.Text.Digits
import VideoReceiver.Text.Octets

/-!
# Log filters

A filter is a list of directives with commas in between. A directive names a level, a target, a span
with a field, or some of these with a level behind an equals sign.

## Main definitions

- `LogFilter.Directive.check`: whether a directive can be read
- `LogFilter.check`: whether a whole filter can be read
- `ReceiverConfig.validateLogging`: the same for the filter in the settings
-/

namespace VideoReceiver

namespace LogFilter

/-- Why a filter is refused. -/
inductive Fault where
  | badDirective
  | badField (fault : Pattern.Fault)
  | badLevel
  deriving DecidableEq, Repr

/-- The wording of a fault. -/
def Fault.text : Fault → String
  | badDirective => "invalid filter directive"
  | badField fault => "invalid field filter: " ++ fault.text
  | badLevel =>
    "error parsing level filter: expected one of " ++
      "\"off\", \"error\", \"warn\", \"info\", \"debug\", \"trace\", or a number 0-5"

/-- The names of the levels. -/
def levels : List String := ["off", "error", "warn", "info", "debug", "trace"]

/-- Whether a text is a level: a name in any case, a number up to five, or nothing at all. -/
def isLevel (cs : List Char) : Bool :=
  let digits := match cs with
    | '+' :: rest => rest
    | _ => cs
  cs.isEmpty || levels.contains (String.ofList (cs.map Char.toLower)) ||
    (Text.natural? 10 digits).any (· ≤ 5)

/-- Whether a text is a number, which may have a sign, a fraction and an exponent. -/
def isNumber (cs : List Char) : Bool :=
  let unsigned := match cs with
    | '+' :: rest | '-' :: rest => rest
    | _ => cs
  ["inf", "infinity", "nan"].contains (String.ofList (unsigned.map Char.toLower)) ||
    (unsigned.head? != some '-' && (Decimal.Parts.ofText? unsigned).isSome)

/-- Reads a field: a name, and perhaps an equals sign and a value, which ends at the next equals
sign. A value that is no number is a pattern. -/
def checkField (cs : List Char) : Except Fault Unit :=
  match cs.splitOn '=' with
  | _ :: value :: _ =>
    if isNumber value then .ok () else (Pattern.check value).mapError .badField
  | _ => .ok ()

/-- Reads a level. -/
def checkLevel (cs : List Char) : Except Fault Unit :=
  if isLevel cs then .ok () else .error .badLevel

/-- A directive as it is written, and without the white space around it. Its structure is that of
the latter. Levels and fields are then cut out of the former, at the same places: white space in
front of a directive shifts them. -/
structure Directive where
  written : List Char
  trimmed : List Char

namespace Directive

/-- Reads a directive. -/
def ofText (cs : List Char) : Directive := ⟨cs, Text.trim cs⟩

/-- What is written from the place on where `rest` is left of the trimmed text. -/
def writtenFrom (rest : List Char) (d : Directive) : List Char :=
  Text.dropOctets (Text.octetCount d.trimmed - Text.octetCount rest) d.written

/-- Reads what may follow a span: nothing, or an equals sign and a level. -/
def checkAfterSpan (d : Directive) : List Char → Except Fault Unit
  | [] => .ok ()
  | '=' :: rest => checkLevel (d.writtenFrom rest)
  | _ => .error .badDirective

/-- Reads a field up to its closing brace. It must not be empty, and the bracket of the span has to
follow. -/
def checkFields (d : Directive) (cs : List Char) : Except Fault Unit :=
  let field := cs.takeWhile (· ≠ '\x7d')
  match cs.drop field.length with
  | [] => .error .badDirective
  | _ :: rest =>
    if field.isEmpty then .error .badDirective
    else do
      checkField (Text.takeOctets (Text.octetCount field) (d.writtenFrom cs))
      match rest with
      | ']' :: rest => d.checkAfterSpan rest
      | _ => .error .badDirective

/-- Reads a span, behind its opening bracket. -/
def checkSpan (d : Directive) (cs : List Char) : Except Fault Unit :=
  match cs.dropWhile fun x => x ≠ ']' && x ≠ '\x7b' with
  | ']' :: rest => d.checkAfterSpan rest
  | _ :: rest => d.checkFields rest
  | [] => .error .badDirective

/-- Reads a whole directive. -/
def check (d : Directive) : Except Fault Unit :=
  match d.trimmed with
  | [] => .error .badDirective
  | '[' :: rest => d.checkSpan rest
  | x :: rest =>
    if Text.isAlphanumeric x || x = '-' || x = ':' || x = '_' then
      match rest.dropWhile fun x => x ≠ '=' && x ≠ '[' with
      | [] => .ok ()
      | '[' :: rest => d.checkSpan rest
      | _ :: rest => checkLevel (d.writtenFrom rest)
    else .error .badDirective

end Directive

/-- Reads a filter. The first directive at fault counts; there may be nothing between commas. -/
def check (filter : String) : Except Fault Unit :=
  ((filter.toList.splitOn ',').filter (!·.isEmpty)).forM fun cs => (Directive.ofText cs).check

end LogFilter

/-- Refuses settings whose filter cannot be read. -/
def ReceiverConfig.validateLogging (c : ReceiverConfig) : Except ReceiverError Unit :=
  (LogFilter.check c.logFilter).mapError fun fault => .config "log_filter" fault.text

end VideoReceiver
