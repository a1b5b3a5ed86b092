/-
Why a text is not a regular expression. Each cause has its wording; most are shown with the position
where they were found.
-/
import WebForm.Text.Shown
import WebForm.Pattern.Node

namespace WebForm.Pattern

/-- Why a text is not a regular expression. -/
inductive Cause where
  | endsInEscape
  | badEscape (escape : String)
  | incompleteEscape (escape : String)
  | octalTooLarge (escape : String)
  | missingBrace
  | missingName (what : String)
  | unterminatedName (terminator : Char)
  | unknownCharacterName (name : String)
  | openGroup
  | groupOfSameLookbehind
  | unknownGroup (number : Nat)
  | unknownGroupName (name : String)
  | badGroupName (name : String)
  | badGroupNumber
  | repeatedGroupName (name : String) (number earlier : Nat)
  | unterminatedSet
  | badRange (lo hi : String)
  | boundsOutOfOrder
  | nothingToRepeat
  | multipleRepeat
  | unexpectedEnd
  | unknownExtension (text : String)
  | unterminatedComment
  | unterminatedGroup
  | thirdBranch
  | lateFlags
  | localeFlag
  | incompatibleFlags
  | unknownFlag
  | missingFlag
  | missingFlagEnd
  | missingColon
  | globalFlagOn
  | globalFlagOff
  | kindFlagOff
  | flagOnAndOff
  | unbalancedParenthesis
  | variableLookbehind
  | longLookbehind
  | repetitionWhenBare (greed : Greed)
deriving DecidableEq

def Cause.text : Cause → String
  | endsInEscape => "bad escape (end of pattern)"
  | badEscape e => "bad escape " ++ e
  | incompleteEscape e => "incomplete escape " ++ e
  | octalTooLarge e => "octal escape value " ++ e ++ " outside of range 0-0o377"
  | missingBrace => "missing \x7b"
  | missingName what => "missing " ++ what
  | unterminatedName t => "missing " ++ String.singleton t ++ ", unterminated name"
  | unknownCharacterName name => "undefined character name " ++ Shown.quoted name
  | openGroup => "cannot refer to an open group"
  | groupOfSameLookbehind => "cannot refer to group defined in the same lookbehind subpattern"
  | unknownGroup n => "invalid group reference " ++ toString n
  | unknownGroupName name => "unknown group name " ++ Shown.quoted name
  | badGroupName name => "bad character in group name " ++ Shown.quoted name
  | badGroupNumber => "bad group number"
  | repeatedGroupName name number earlier =>
    "redefinition of group name " ++ Shown.quoted name ++ " as group " ++ toString number
      ++ "; was group " ++ toString earlier
  | unterminatedSet => "unterminated character set"
  | badRange lo hi => "bad character range " ++ lo ++ "-" ++ hi
  | boundsOutOfOrder => "min repeat greater than max repeat"
  | nothingToRepeat => "nothing to repeat"
  | multipleRepeat => "multiple repeat"
  | unexpectedEnd => "unexpected end of pattern"
  | unknownExtension t => "unknown extension " ++ t
  | unterminatedComment => "missing ), unterminated comment"
  | unterminatedGroup => "missing ), unterminated subpattern"
  | thirdBranch => "conditional backref with more than two branches"
  | lateFlags => "global flags not at the start of the expression"
  | localeFlag => "bad inline flags: cannot use 'L' flag with a str pattern"
  | incompatibleFlags => "bad inline flags: flags 'a', 'u' and 'L' are incompatible"
  | unknownFlag => "unknown flag"
  | missingFlag => "missing flag"
  | missingFlagEnd => "missing -, : or )"
  | missingColon => "missing :"
  | globalFlagOn => "bad inline flags: cannot turn on global flag"
  | globalFlagOff => "bad inline flags: cannot turn off global flag"
  | kindFlagOff => "bad inline flags: cannot turn off flags 'a', 'u' and 'L'"
  | flagOnAndOff => "bad inline flags: flag turned on and off"
  | unbalancedParenthesis => "unbalanced parenthesis"
  | variableLookbehind => "look-behind requires fixed-width pattern"
  | longLookbehind => "looks too much behind"
  | repetitionWhenBare greed => "internal: unsupported template operator " ++ match greed with
    | .greedy => "MAX_REPEAT"
    | .lazy => "MIN_REPEAT"
    | .possessive => "POSSESSIVE_REPEAT"

/-- Where a cause was found; line and column are given if the pattern has more than one line. -/
structure Place where
  position : Nat
  lineAndColumn : Option (Nat × Nat)
deriving DecidableEq

/-- The place of a position in a pattern. -/
def Place.of (pattern : List Char) (position : Nat) : Place :=
  let before := pattern.take position
  ⟨position, if pattern.contains '\n' then
    some (before.count '\n' + 1, (before.reverse.takeWhile (· ≠ '\n')).length + 1) else none⟩

/-- What keeps a text from being used as a regular expression: it is not one, it repeats more often
than can be counted, or its options exclude each other. -/
inductive Error where
  | invalid (cause : Cause) (place : Option Place)
  | repetitionTooLarge
  | conflictingFlags
deriving DecidableEq

def Error.message : Error → String
  | invalid cause none => cause.text
  | invalid cause (some p) => cause.text ++ " at position " ++ toString p.position ++ match p.lineAndColumn with
    | some (line, column) => " (line " ++ toString line ++ ", column " ++ toString column ++ ")"
    | none => ""
  | repetitionTooLarge => "the repetition number is too large"
  | conflictingFlags => "ASCII and UNICODE flags are incompatible"

end WebForm.Pattern
