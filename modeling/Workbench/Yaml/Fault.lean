import Workbench.Json.Error
import Workbench.Text.Quoted

/-!
# What is wrong with a document

A text may break the rules of the format, or a scalar may not stand for a value of its type. The
second kind comes with a message that names the scalar.
-/
namespace Workbench.Yaml

/-- What is wrong with a date or a time of day. -/
inductive MomentFault where
  | year
  | month
  | day
  | hour
  | minute
  | second
  /-- A time zone is a day or more from universal time, by so many minutes. -/
  | zone (minutes : Int)
  deriving DecidableEq, Repr

/-- Why a text is no document. -/
inductive Fault where
  /-- The text breaks the rules of the format. -/
  | malformed
  /-- Collections are nested too deep. -/
  | tooDeep
  /-- An escape names no character. -/
  | noCharacter (code : Nat)
  /-- A scalar is no integer in its base. -/
  | notInteger (base : Nat) (text : String)
  /-- An integer has more digits than are read. -/
  | longInteger (digits : Nat)
  | notFloat (text : String)
  /-- A place of a number in base sixty exceeds every floating-point number. -/
  | hugePlace
  | moment (fault : MomentFault)
  /-- A scalar marked as a date is none. -/
  | notMoment
  /-- A scalar marked as a truth value is none. -/
  | notBool
  /-- A scalar marked as a number is empty. -/
  | noDigits
  deriving DecidableEq, Repr

/-- An interval in days and seconds, the days carrying the sign. -/
def intervalText (minutes : Int) : String :=
  let days := minutes.fdiv 1440
  let seconds := (minutes.fmod 1440) * 60
  let parts := (if days = 0 then [] else ["days=" ++ toString days]) ++
    (if seconds = 0 then [] else ["seconds=" ++ toString seconds])
  "datetime.timedelta(" ++ ", ".intercalate parts ++ ")"

def MomentFault.message : MomentFault → String
  | year => "year 0 is out of range"
  | month => "month must be in 1..12"
  | day => "day is out of range for month"
  | hour => "hour must be in 0..23"
  | minute => "minute must be in 0..59"
  | second => "second must be in 0..59"
  | zone minutes =>
    "offset must be a timedelta strictly between -timedelta(hours=24) and timedelta(hours=24), not "
      ++ intervalText minutes ++ "."

/-- The largest code that is tried as a character at all. -/
def largestCode : Nat := 0x7FFFFFFF

/-- The message about a scalar; breaches of the rules have none. -/
def Fault.message : Fault → String
  | noCharacter code =>
    if code ≤ largestCode then "chr() arg not in range(0x110000)"
    else "Python int too large to convert to C int"
  | notInteger base text =>
    "invalid literal for int() with base " ++ toString base ++ ": " ++ Text.quoted text
  | longInteger digits => (Json.DecodeError.longInteger digits).message
  | notFloat text => "could not convert string to float: " ++ Text.quoted text
  | hugePlace => "int too large to convert to float"
  | moment fault => fault.message
  | malformed | tooDeep | notMoment | notBool | noDigits => ""

end Workbench.Yaml
