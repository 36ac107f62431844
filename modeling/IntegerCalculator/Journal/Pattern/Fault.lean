import IntegerCalculator.Text

/-! Why a written pattern is refused, and how the refusal is reported: the pattern
on a line of its own, carets below the characters at fault, and the reason. A
written pattern is taken to be one line. -/

namespace IntegerCalculator.Pattern

inductive Fault where
  | unclosedGroup
  | unopenedGroup
  | unclosedGroupName
  | emptyGroupName
  | invalidGroupName
  | duplicateGroupName
  | lookAround
  | unknownFlag
  | duplicateFlag
  | repeatedNegation
  | danglingNegation
  | unfinishedFlags
  | missingOperand
  | unclosedCount
  | missingCount
  | excessiveCount
  | reversedCount
  | unclosedClass
  | reversedRange
  | nonliteralRange
  | unsuitableEscape
  | unfinishedEscape
  | unknownEscape
  | backreference
  | emptyHexadecimal
  | invalidHexadecimalDigit
  | invalidCodePoint
  | invalidProperty
  | unclosedBoundary
  | unknownBoundary
  | unfinishedBoundary
  | unavailableClass
  | unavailableCase
  | unavailableProperty
  | unicodeForbidden
  | invalidEncoding
  deriving DecidableEq, Repr

def Fault.message : Fault → Text
  | unclosedGroup => "unclosed group".toList
  | unopenedGroup => "unopened group".toList
  | unclosedGroupName => "unclosed capture group name".toList
  | emptyGroupName => "empty capture group name".toList
  | invalidGroupName => "invalid capture group character".toList
  | duplicateGroupName => "duplicate capture group name".toList
  | lookAround => "look-around, including look-ahead and look-behind, is not supported".toList
  | unknownFlag => "unrecognized flag".toList
  | duplicateFlag => "duplicate flag".toList
  | repeatedNegation => "flag negation operator repeated".toList
  | danglingNegation => "dangling flag negation operator".toList
  | unfinishedFlags => "expected flag but got end of regex".toList
  | missingOperand => "repetition operator missing expression".toList
  | unclosedCount => "unclosed counted repetition".toList
  | missingCount => "repetition quantifier expects a valid decimal".toList
  | excessiveCount => "decimal literal invalid".toList
  | reversedCount =>
      "invalid repetition count range, the start must be <= the end".toList
  | unclosedClass => "unclosed character class".toList
  | reversedRange =>
      "invalid character class range, the start must be <= the end".toList
  | nonliteralRange => "invalid range boundary, must be a literal".toList
  | unsuitableEscape => "invalid escape sequence found in character class".toList
  | unfinishedEscape =>
      "incomplete escape sequence, reached end of pattern prematurely".toList
  | unknownEscape => "unrecognized escape sequence".toList
  | backreference => "backreferences are not supported".toList
  | emptyHexadecimal => "hexadecimal literal empty".toList
  | invalidHexadecimalDigit => "invalid hexadecimal digit".toList
  | invalidCodePoint => "hexadecimal literal is not a Unicode scalar value".toList
  | invalidProperty => "invalid Unicode character class".toList
  | unclosedBoundary =>
      ("special word boundary assertion is either unclosed or contains " ++
        "an invalid character").toList
  | unknownBoundary =>
      ("unrecognized special word boundary assertion, valid choices are: " ++
        "start, end, start-half or end-half").toList
  | unfinishedBoundary =>
      ("found either the beginning of a special word boundary or a bounded repetition " ++
        "on a \\b with an opening brace, but no closing brace").toList
  | unavailableClass =>
      ("Unicode-aware Perl class not found " ++
        "(make sure the unicode-perl feature is enabled)").toList
  | unavailableCase =>
      ("Unicode-aware case insensitivity matching is not available " ++
        "(make sure the unicode-case feature is enabled)").toList
  | unavailableProperty => "Unicode property not found".toList
  | unicodeForbidden => "Unicode not allowed here".toList
  | invalidEncoding => "pattern can match invalid UTF-8".toList

/-- The positions from `first` up to `last`, which is not one of them. -/
structure Span where
  first : Nat
  last : Nat
  deriving DecidableEq, Repr

/-- Carets below the spans, at least one for each, from the column `done` on. -/
def carets (done : Nat) : List Span → Text
  | [] => []
  | s :: spans =>
      let width := max 1 (s.last - s.first)
      List.replicate (s.first - done) ' ' ++ List.replicate width '^' ++
        carets (max done s.first + width) spans

inductive Refusal where
  | fault (cause : Fault) (span : Span) (earlier? : Option Span)
  | unsupported
  deriving DecidableEq, Repr

def Refusal.report (written : Text) : Refusal → Text
  | unsupported => "error building NFA".toList
  | fault cause span earlier? =>
      ['\n'].intercalate
        ["regex parse error:".toList, "    ".toList ++ written,
          "    ".toList ++ carets 0 (earlier?.toList ++ [span]),
          "error: ".toList ++ cause.message]

end IntegerCalculator.Pattern
