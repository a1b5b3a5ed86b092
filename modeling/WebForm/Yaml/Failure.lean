/-
Why a text gives no YAML value: it is not well formed, a scalar of it denotes nothing, or a text in it has
half of a surrogate pair, which no text here can hold.
-/
import WebForm.Text.Shown

namespace WebForm.Yaml

/-- Why a text gives no value. -/
inductive Failure where
  | malformed
  | codePoint
  | halfPair
  | truth (text : String)
  | emptyNumber
  | integer (text : String) (base : Nat)
  | float (text : String)
  | timestamp
  | year (year : Nat)
  | month
  | day
  | hour
  | minute
  | second
deriving DecidableEq

def Failure.message : Failure → String
  | malformed => "Invalid YAML"
  | halfPair => "half of a surrogate pair"
  | codePoint => "chr() arg not in range(0x110000)"
  | truth s => Shown.quoted s
  | emptyNumber => "string index out of range"
  | integer s base => "invalid literal for int() with base " ++ toString base ++ ": " ++ Shown.quoted s
  | float s => "could not convert string to float: " ++ Shown.quoted s
  | timestamp => "'NoneType' object has no attribute 'groupdict'"
  | year n => "year " ++ toString n ++ " is out of range"
  | month => "month must be in 1..12"
  | day => "day is out of range for month"
  | hour => "hour must be in 0..23"
  | minute => "minute must be in 0..59"
  | second => "second must be in 0..59"

/-- The kind of failure that a malformed text or a scalar that denotes nothing is. -/
def Failure.kind : Failure → String
  | malformed => "YAMLError"
  | truth _ => "KeyError"
  | emptyNumber => "IndexError"
  | timestamp => "AttributeError"
  | _ => "ValueError"

end WebForm.Yaml
