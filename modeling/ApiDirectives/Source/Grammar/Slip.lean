import ApiDirectives.Source.Grammar.Pattern

/-!
# Slips

The productions of mistakes. Each alternative ends in what to report, or refuses the shape after all.
-/

namespace ApiDirectives.Source

open Pattern StatementRule ExpressionRule CaseRule SlipRule

/-- The production of a rule for mistakes. -/
def SlipRule.production : SlipRule → Production
  | .badArguments => plain [
    [spot argumentList, ",", "*", slip .atStart],
    [spot expression, comprehensionClauses, ",", opt (choice [[argumentList], [expression,
      comprehensionClauses]]), slip .atSpot],
    [spot name, "=", expression, comprehensionClauses, slip .atSpot],
    [spot argumentList, comprehensionClauses, slip .bareGenerator],
    [argumentList, ",", spot expression, comprehensionClauses, slip .atSpot],
    [argumentList, ",", argumentList, slip .here]]
  | .badKeyword => plain [
    [spot (oneOf ["True", "False", "None"]), "=", slip .atSpot],
    [spot name, "=", expression, comprehensionClauses, slip .atSpot],
    [notAhead (run [name, "="]), spot expression, "=", slip .atSpot]]
  | .badCallStatement => plain [[spot name, notAhead "(", starExpressions, slip .statementCall]]
  | .badExpression => plain [
    [notAhead (choice [[name, string], [softWord]]), spot disjunction, quietExpression,
      slip .missingComma],
    [spot disjunction, "if", disjunction, notAhead (oneOf ["else", ":"]), slip .atSpot]]
  | .badNamedExpression => kept [
    [spot expression, ":=", expression, slip .atSpot],
    [spot name, "=", bitOr, notAhead (oneOf ["=", ":="]), slip .atSpot],
    [notAhead (oneOf [listDisplay, tupleDisplay, generator, "True", "None", "False"]), spot bitOr,
      "=", bitOr, notAhead (oneOf ["=", ":="]), slip .atSpot]]
  | .badAssignment => plain [
    [spot badHintedTarget, ":", expression, slip .atSpot],
    [spot starNamedExpression, ",", many starNamedExpressions, ":", expression, slip .atSpot],
    [spot expression, ":", expression, slip .atSpot],
    [many (run [starTargets, "="]), spot starExpressions, "=", slip (.badTarget .assigned)],
    [many (run [starTargets, "="]), spot yieldExpression, "=", slip .atSpot],
    [spot starExpressions, augmentedSign, oneOf [yieldExpression, starExpressions], slip .atSpot]]
  | .badHintedTarget => plain [[listDisplay], [tupleDisplay], ["(", badHintedTarget, ")"]]
  | .badDeletion => plain [["del", spot starExpressions, slip (.badTarget .deleted)]]
  | .unindentedBlock => plain [[newline, notAhead indent, slip .here]]
  | .badComprehension => plain [
    [oneOf ["[", "(", "\x7b"], spot starredExpression, comprehensionClauses, slip .atSpot],
    [oneOf ["[", "\x7b"], spot starNamedExpression, ",", starNamedExpressions, comprehensionClauses,
      slip .atSpot],
    [oneOf ["[", "\x7b"], spot starNamedExpression, ",", comprehensionClauses, slip .atSpot]]
  | .badDictComprehension =>
    plain [["\x7b", spot "**", bitOr, comprehensionClauses, "\x7d", slip .atSpot]]
  | .badParameters => plain [
    [many plainParameter, defaultedRun, spot plainParameter, slip .atSpot],
    [many plainParameter, spot "(", many1 plainParameter, opt ",", ")", slip .atSpot],
    [oneOf [slashPlain, slashDefaulted], many anyParameter, spot "/", slip .atSpot],
    [opt (oneOf [slashPlain, slashDefaulted]), many anyParameter, "*", oneOf [",", plainParameter],
      many anyParameter, spot "/", slip .atSpot],
    [many1 anyParameter, "/", spot "*", slip .atSpot]]
  | .defaultedRun => plain [[slashDefaulted], [many1 defaultedParameter]]
  | .badDefault => plain [[spot "=", ahead (oneOf [")", ","]), slip .atSpot]]
  | .badStarRest => plain [
    [spot "*", choice [[")"], [",", oneOf [")", "**"]]], slip .atSpot],
    ["*", parameter, spot "=", slip .atSpot],
    ["*", oneOf [plainParameter, ","], many anyParameter, spot "*", oneOf [plainParameter, ","],
      slip .atSpot]]
  | .badKeywordRest => plain [
    ["**", parameter, spot "=", slip .atSpot],
    ["**", parameter, ",", spot parameter, slip .atSpot],
    ["**", parameter, ",", spot (oneOf ["*", "**", "/"]), slip .atSpot]]
  | .badLambdaParameters => plain [
    [many lambdaPlainParameter, lambdaDefaultedRun, spot lambdaPlainParameter, slip .atSpot],
    [many lambdaPlainParameter, spot "(", separated "," lambdaParameter, opt ",", ")", slip .atSpot],
    [oneOf [lambdaSlashPlain, lambdaSlashDefaulted], many lambdaAnyParameter, spot "/",
      slip .atSpot],
    [opt (oneOf [lambdaSlashPlain, lambdaSlashDefaulted]), many lambdaAnyParameter, "*", oneOf [",",
      lambdaPlainParameter], many lambdaAnyParameter, spot "/", slip .atSpot],
    [many1 lambdaAnyParameter, "/", spot "*", slip .atSpot]]
  | .lambdaDefaultedRun => plain [[lambdaSlashDefaulted], [many1 lambdaDefaultedParameter]]
  | .badLambdaStarRest => plain [
    ["*", choice [[":"], [",", oneOf [":", "**"]]], slip .here],
    ["*", lambdaParameter, spot "=", slip .atSpot],
    ["*", oneOf [lambdaPlainParameter, ","], many lambdaAnyParameter, spot "*",
      oneOf [lambdaPlainParameter, ","], slip .atSpot]]
  | .badLambdaKeywordRest => plain [
    ["**", lambdaParameter, spot "=", slip .atSpot],
    ["**", lambdaParameter, ",", spot lambdaParameter, slip .atSpot],
    ["**", lambdaParameter, ",", spot (oneOf ["*", "**", "/"]), slip .atSpot]]
  | .badWithItem => plain [
    [expression, "as", spot expression, ahead (oneOf [",", ")", ":"]), slip (.badTarget .assigned)]]
  | .badForTarget => plain [[opt "async", "for", spot starExpressions, slip (.badTarget .iterated)]]
  | .badParenthesized => plain [
    ["(", spot starredExpression, ")", slip .atSpot],
    ["(", spot "**", expression, ")", slip .atSpot]]
  | .badImportedNames => plain [[importedAliases, ",", newline, slip .here]]
  | .badWith => plain [
    [opt "async", "with", separated "," (run [expression, opt (run ["as", starTarget])]), newline,
      slip .here],
    [opt "async", "with", "(", separated "," (run [expressions, opt (run ["as", starTarget])]),
      opt ",", ")", newline, slip .here]]
  | .unindentedWith => plain [
    [opt "async", "with", separated "," (run [expression, opt (run ["as", starTarget])]), ":",
      newline, notAhead indent, slip .here],
    [opt "async", "with", "(", separated "," (run [expressions, opt (run ["as", starTarget])]),
      opt ",", ")", ":", newline, notAhead indent, slip .here]]
  | .badTry => plain [
    ["try", ":", newline, notAhead indent, slip .here],
    ["try", ":", block, notAhead (oneOf ["except", "finally"]), slip .here],
    ["try", ":", many block, many1 exceptBlock, spot "except", "*", expression, opt (run ["as",
      name]), ":", slip .atSpot],
    ["try", ":", many block, many1 exceptStarBlock, spot "except", opt (run [expression,
      opt (run ["as", name])]), ":", slip .atSpot]]
  | .badExcept => plain [
    ["except", opt "*", spot expression, ",", expressions, opt (run ["as", name]), ":",
      slip .atSpot],
    ["except", opt "*", expression, opt (run ["as", name]), newline, slip .here],
    ["except", newline, slip .here],
    ["except", "*", oneOf [newline, ":"], slip .here]]
  | .unindentedFinally => plain [["finally", ":", newline, notAhead indent, slip .here]]
  | .unindentedExcept => plain [
    ["except", expression, opt (run ["as", name]), ":", newline, notAhead indent, slip .here],
    ["except", ":", newline, notAhead indent, slip .here]]
  | .unindentedExceptStar => plain [
    ["except", "*", expression, opt (run ["as", name]), ":", newline, notAhead indent, slip .here]]
  | .badMatch => plain [
    [soft "match", matchSubject, newline, slip .here],
    [soft "match", matchSubject, ":", newline, notAhead indent, slip .here]]
  | .badCase => plain [
    [soft "case", casePatterns, opt caseGuard, newline, slip .here],
    [soft "case", casePatterns, opt caseGuard, ":", newline, notAhead indent, slip .here]]
  | .badAsPattern => plain [
    [orPattern, "as", spot (soft "_"), slip .atSpot],
    [orPattern, "as", notAhead name, spot expression, slip .atSpot]]
  | .badClassPattern => plain [
    [nameOrDotted, "(", opt (run [positionalPatterns, ","]), keywordPatterns, ",",
      spot positionalPatterns, slip .atSpot]]
  | .badIf => plain [
    ["if", namedExpression, newline, slip .here],
    ["if", namedExpression, ":", newline, notAhead indent, slip .here]]
  | .badElif => plain [
    ["elif", namedExpression, newline, slip .here],
    ["elif", namedExpression, ":", newline, notAhead indent, slip .here]]
  | .unindentedElse => plain [["else", ":", newline, notAhead indent, slip .here]]
  | .badWhile => plain [
    ["while", namedExpression, newline, slip .here],
    ["while", namedExpression, ":", newline, notAhead indent, slip .here]]
  | .badFor => plain [
    [opt "async", "for", starTargets, "in", starExpressions, newline, slip .here],
    [opt "async", "for", starTargets, "in", starExpressions, ":", newline, notAhead indent,
      slip .here]]
  | .unindentedFunction => plain [
    [opt "async", "def", name, "(", opt parameterList, ")", opt (run ["->", expression]), ":",
      newline, notAhead indent, slip .here]]
  | .badClass => plain [
    ["class", name, opt (run ["(", opt arguments, ")"]), newline, slip .here],
    ["class", name, opt (run ["(", opt arguments, ")"]), ":", newline, notAhead indent, slip .here]]
  | .badDictItems => plain [
    [separated "," dictItem, ",", badKeyedValue],
    [expression, ":", spot "*", bitOr, slip .atSpot],
    [expression, spot ":", ahead (oneOf ["\x7d", ","]), slip .atSpot]]
  | .badKeyedValue => plain [
    [spot expression, notAhead ":", slip .atSpot],
    [expression, ":", spot "*", bitOr, slip .atSpot],
    [expression, spot ":", ahead (oneOf ["\x7d", ","]), slip .atSpot]]

end ApiDirectives.Source
