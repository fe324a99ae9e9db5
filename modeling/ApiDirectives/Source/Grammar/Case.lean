import ApiDirectives.Source.Grammar.Pattern

/-!
# Patterns of match statements

The productions of the patterns that a case block tries.
-/

namespace ApiDirectives.Source

open Pattern StatementRule ExpressionRule CaseRule SlipRule

/-- The production of a rule for patterns. -/
def CaseRule.production : CaseRule → Production
  | .casePatterns => plain [[openSequencePattern], [casePattern]]
  | .casePattern => plain [[asPattern], [orPattern]]
  | .asPattern => plain [[orPattern, "as", captureTarget], [diagnosing, badAsPattern]]
  | .orPattern => plain [[separated "|" closedPattern]]
  | .closedPattern => kept [
    [literalPattern],
    [capturePattern],
    [wildcardPattern],
    [valuePattern],
    [groupPattern],
    [sequencePattern],
    [mappingPattern],
    [classPattern]]
  | .literalPattern => plain [
    [signedNumber, notAhead (oneOf ["+", "-"])],
    [complexNumber],
    [strings],
    ["None"],
    ["True"],
    ["False"]]
  | .literalKey => plain [
    [signedNumber, notAhead (oneOf ["+", "-"])],
    [complexNumber],
    [strings],
    ["None"],
    ["True"],
    ["False"]]
  | .complexNumber => plain [
    [signedRealNumber, "+", imaginaryNumber],
    [signedRealNumber, "-", imaginaryNumber]]
  | .signedNumber => plain [[number], ["-", number]]
  | .signedRealNumber => plain [[realNumber], ["-", realNumber]]
  | .realNumber => plain [[spot number, slip .wantReal]]
  | .imaginaryNumber => plain [[spot number, slip .wantImaginary]]
  | .capturePattern => plain [[captureTarget]]
  | .captureTarget => plain [[notAhead (soft "_"), name, notAhead (oneOf [".", "(", "="])]]
  | .wildcardPattern => plain [[soft "_"]]
  | .valuePattern => plain [[dottedValue, notAhead (oneOf [".", "(", "="])]]
  | .dottedValue => grown [name, ".", name] [[".", name]]
  | .nameOrDotted => plain [[dottedValue], [name]]
  | .groupPattern => plain [["(", casePattern, ")"]]
  | .sequencePattern => plain [
    ["[", opt maybeSequencePattern, "]"],
    ["(", opt openSequencePattern, ")"]]
  | .openSequencePattern => plain [[maybeStarPattern, ",", opt maybeSequencePattern]]
  | .maybeSequencePattern => plain [[separated "," maybeStarPattern, opt ","]]
  | .maybeStarPattern => plain [[starPattern], [casePattern]]
  | .starPattern => kept [["*", captureTarget], ["*", wildcardPattern]]
  | .mappingPattern => plain [
    ["\x7b", "\x7d"],
    ["\x7b", doubleStarPattern, opt ",", "\x7d"],
    ["\x7b", itemsPattern, ",", doubleStarPattern, opt ",", "\x7d"],
    ["\x7b", itemsPattern, opt ",", "\x7d"]]
  | .itemsPattern => plain [[separated "," keyValuePattern]]
  | .keyValuePattern => plain [[oneOf [literalKey, dottedValue], ":", casePattern]]
  | .doubleStarPattern => plain [["**", captureTarget]]
  | .classPattern => plain [
    [nameOrDotted, "(", ")"],
    [nameOrDotted, "(", positionalPatterns, opt ",", ")"],
    [nameOrDotted, "(", keywordPatterns, opt ",", ")"],
    [nameOrDotted, "(", positionalPatterns, ",", keywordPatterns, opt ",", ")"],
    [diagnosing, badClassPattern]]
  | .positionalPatterns => plain [[separated "," casePattern]]
  | .keywordPatterns => plain [[separated "," keywordPattern]]
  | .keywordPattern => plain [[name, "=", casePattern]]

end ApiDirectives.Source
