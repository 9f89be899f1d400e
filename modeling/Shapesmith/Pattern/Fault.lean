/-!
# Why a pattern is refused

* `PatternFault` lists the reasons, first those that the text of the pattern shows and then those
  that its meaning shows;
* `PatternFault.message` is their wording.
-/

namespace Shapesmith

/-- Why a pattern is refused. -/
inductive PatternFault
  | badClassEscape | badClassRange | rangeNotLiteral | openClass
  | badDecimal
  | emptyHex | badHex | badHexDigit
  | openEscape | unknownEscape
  | loneNegation | sameFlag | sameNegation | openFlags | unknownFlag
  | sameName | emptyName | badName | openName
  | openGroup | noGroup
  | tooNested (limit : Nat)
  | badCount | noCount | openCount | nothingRepeated
  | openBoundary | unknownBoundary | openBoundaryOrCount
  | badProperty
  | backreference | lookAround
  | asciiOnly | notText | unknownProperty | unknownPropertyValue
  | tooLarge (limit : Nat)
deriving DecidableEq, Repr

/-- The wording of a reason. -/
def PatternFault.message : PatternFault → String
  | .badClassEscape => "invalid escape sequence found in character class"
  | .badClassRange => "invalid character class range, the start must be <= the end"
  | .rangeNotLiteral => "invalid range boundary, must be a literal"
  | .openClass => "unclosed character class"
  | .badDecimal => "decimal literal invalid"
  | .emptyHex => "hexadecimal literal empty"
  | .badHex => "hexadecimal literal is not a Unicode scalar value"
  | .badHexDigit => "invalid hexadecimal digit"
  | .openEscape => "incomplete escape sequence, reached end of pattern prematurely"
  | .unknownEscape => "unrecognized escape sequence"
  | .loneNegation => "dangling flag negation operator"
  | .sameFlag => "duplicate flag"
  | .sameNegation => "flag negation operator repeated"
  | .openFlags => "expected flag but got end of regex"
  | .unknownFlag => "unrecognized flag"
  | .sameName => "duplicate capture group name"
  | .emptyName => "empty capture group name"
  | .badName => "invalid capture group character"
  | .openName => "unclosed capture group name"
  | .openGroup => "unclosed group"
  | .noGroup => "unopened group"
  | .tooNested limit =>
    "exceed the maximum number of nested parentheses/brackets (" ++ toString limit ++ ")"
  | .badCount => "invalid repetition count range, the start must be <= the end"
  | .noCount => "repetition quantifier expects a valid decimal"
  | .openCount => "unclosed counted repetition"
  | .nothingRepeated => "repetition operator missing expression"
  | .openBoundary =>
    "special word boundary assertion is either unclosed or contains an invalid character"
  | .unknownBoundary =>
    "unrecognized special word boundary assertion, valid choices are: start, end, start-half " ++
      "or end-half"
  | .openBoundaryOrCount =>
    "found either the beginning of a special word boundary or a bounded repetition on a " ++
      "\\b with an opening brace, but no closing brace"
  | .badProperty => "invalid Unicode character class"
  | .backreference => "backreferences are not supported"
  | .lookAround => "look-around, including look-ahead and look-behind, is not supported"
  | .asciiOnly => "Unicode not allowed here"
  | .notText => "pattern can match invalid UTF-8"
  | .unknownProperty => "Unicode property not found"
  | .unknownPropertyValue => "Unicode property value not found"
  | .tooLarge limit => "Compiled regex exceeds size limit of " ++ toString limit ++ " bytes."

end Shapesmith
