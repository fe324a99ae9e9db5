import ApiDirectives.Source.Grammar.Pattern

/-!
# Statements

The productions of modules, blocks, statements and parameters. Alternatives are tried in order.
-/

namespace ApiDirectives.Source

open Pattern StatementRule ExpressionRule CaseRule SlipRule

/-- The production of a rule for statements. -/
def StatementRule.production : StatementRule → Production
  | .module => plain [[opt statements, endMarker]]
  | .statements => plain [[many1 statement]]
  | .statement => plain [[compoundStatement], [simpleStatements]]
  | .simpleStatements => plain [
    [simpleStatement, notAhead ";", newline],
    [separated ";" simpleStatement, opt ";", newline]]
  | .simpleStatement => kept [
    [assignment],
    [starExpressions],
    [ahead "return", returnStatement],
    [ahead (oneOf ["import", "from"]), importStatement],
    [ahead "raise", raiseStatement],
    ["pass"],
    [ahead "del", deletion],
    [ahead "yield", yieldExpression],
    [ahead "assert", assertion],
    ["break"],
    ["continue"],
    [ahead "global", globalStatement],
    [ahead "nonlocal", nonlocalStatement]]
  | .compoundStatement => plain [
    [ahead (oneOf ["def", "@", "async"]), functionDefinition],
    [ahead "if", ifStatement],
    [ahead (oneOf ["class", "@"]), classDefinition],
    [ahead (oneOf ["with", "async"]), withStatement],
    [ahead (oneOf ["for", "async"]), forStatement],
    [ahead "try", tryStatement],
    [ahead "while", whileStatement],
    [matchStatement]]
  | .assignment => plain [
    [name, ":", expression, opt (run ["=", assignedValue])],
    [choice [["(", singleTarget, ")"], [memberTarget]], ":", expression, opt (run ["=",
      assignedValue])],
    [many1 (run [starTargets, "="]), oneOf [yieldExpression, starExpressions], notAhead "="],
    [singleTarget, augmentedSign, cut, oneOf [yieldExpression, starExpressions]],
    [diagnosing, badAssignment]]
  | .assignedValue => plain [[yieldExpression], [starExpressions]]
  | .augmentedSign => plain [
    ["+="],
    ["-="],
    ["*="],
    ["@="],
    ["/="],
    ["%="],
    ["&="],
    ["|="],
    ["^="],
    ["<<="],
    [">>="],
    ["**="],
    ["//="]]
  | .returnStatement => plain [["return", opt starExpressions]]
  | .raiseStatement => plain [
    ["raise", expression, opt (run ["from", expression])],
    ["raise"]]
  | .globalStatement => plain [["global", separated "," name]]
  | .nonlocalStatement => plain [["nonlocal", separated "," name]]
  | .deletion => plain [
    ["del", deletedTargets, ahead (oneOf [";", newline])],
    [diagnosing, badDeletion]]
  | .assertion => plain [["assert", expression, opt (run [",", expression])]]
  | .importStatement => plain [[plainImport], [fromImport]]
  | .plainImport => plain [["import", moduleAliases]]
  | .fromImport => plain [
    ["from", many (oneOf [".", "..."]), dottedName, "import", importedNames],
    ["from", many1 (oneOf [".", "..."]), "import", importedNames]]
  | .importedNames => plain [
    ["(", importedAliases, opt ",", ")"],
    [importedAliases, notAhead ","],
    ["*"],
    [diagnosing, badImportedNames]]
  | .importedAliases => plain [[separated "," importedAlias]]
  | .importedAlias => plain [[name, opt (run ["as", name])]]
  | .moduleAliases => plain [[separated "," moduleAlias]]
  | .moduleAlias => plain [[dottedName, opt (run ["as", name])]]
  | .dottedName => grown [name] [[".", name]]
  | .block => kept [
    [newline, indent, statements, dedent],
    [simpleStatements],
    [diagnosing, unindentedBlock]]
  | .decorators => plain [[many1 (run ["@", namedExpression, newline])]]
  | .classDefinition => plain [[decorators, bareClass], [bareClass]]
  | .bareClass => plain [
    [diagnosing, badClass],
    ["class", name, opt (run ["(", opt arguments, ")"]), ":", block]]
  | .functionDefinition => plain [[decorators, bareFunction], [bareFunction]]
  | .bareFunction => plain [
    [diagnosing, unindentedFunction],
    ["def", name, forced "(", opt parameterList, ")", opt (run ["->", expression]), forced ":",
      block],
    ["async", "def", name, forced "(", opt parameterList, ")", opt (run ["->", expression]),
      forced ":", block]]
  | .parameterList => plain [[diagnosing, badParameters], [parameters]]
  | .parameters => plain [
    [slashPlain, many plainParameter, many defaultedParameter, opt starRest],
    [slashDefaulted, many defaultedParameter, opt starRest],
    [many1 plainParameter, many defaultedParameter, opt starRest],
    [many1 defaultedParameter, opt starRest],
    [starRest]]
  | .slashPlain => plain [
    [many1 plainParameter, "/", ","],
    [many1 plainParameter, "/", ahead ")"]]
  | .slashDefaulted => plain [
    [many plainParameter, many1 defaultedParameter, "/", ","],
    [many plainParameter, many1 defaultedParameter, "/", ahead ")"]]
  | .starRest => plain [
    [diagnosing, badStarRest],
    ["*", plainParameter, many anyParameter, opt keywordRest],
    ["*", starHintedParameter, many anyParameter, opt keywordRest],
    ["*", ",", many1 anyParameter, opt keywordRest],
    [keywordRest]]
  | .keywordRest => plain [[diagnosing, badKeywordRest], ["**", plainParameter]]
  | .plainParameter => plain [[parameter, ","], [parameter, ahead ")"]]
  | .starHintedParameter => plain [[starHinted, ","], [starHinted, ahead ")"]]
  | .defaultedParameter => plain [
    [parameter, defaultClause, ","],
    [parameter, defaultClause, ahead ")"]]
  | .anyParameter => plain [
    [parameter, opt defaultClause, ","],
    [parameter, opt defaultClause, ahead ")"]]
  | .parameter => plain [[name, opt typeHint]]
  | .starHinted => plain [[name, starTypeHint]]
  | .typeHint => plain [[":", expression]]
  | .starTypeHint => plain [[":", starExpression]]
  | .defaultClause => plain [["=", expression], [diagnosing, badDefault]]
  | .ifStatement => plain [
    [diagnosing, badIf],
    ["if", namedExpression, ":", block, elifStatement],
    ["if", namedExpression, ":", block, opt elseBlock]]
  | .elifStatement => plain [
    [diagnosing, badElif],
    ["elif", namedExpression, ":", block, elifStatement],
    ["elif", namedExpression, ":", block, opt elseBlock]]
  | .elseBlock => plain [[diagnosing, unindentedElse], ["else", forced ":", block]]
  | .whileStatement => plain [
    [diagnosing, badWhile],
    ["while", namedExpression, ":", block, opt elseBlock]]
  | .forStatement => plain [
    [diagnosing, badFor],
    ["for", starTargets, "in", cut, starExpressions, ":", block, opt elseBlock],
    ["async", "for", starTargets, "in", cut, starExpressions, ":", block, opt elseBlock],
    [diagnosing, badForTarget]]
  | .withStatement => plain [
    [diagnosing, unindentedWith],
    ["with", "(", separated "," withItem, opt ",", ")", ":", block],
    ["with", separated "," withItem, ":", block],
    ["async", "with", "(", separated "," withItem, opt ",", ")", ":", block],
    ["async", "with", separated "," withItem, ":", block],
    [diagnosing, badWith]]
  | .withItem => plain [
    [expression, "as", starTarget, ahead (oneOf [",", ")", ":"])],
    [diagnosing, badWithItem],
    [expression]]
  | .tryStatement => plain [
    [diagnosing, badTry],
    ["try", forced ":", block, finallyBlock],
    ["try", forced ":", block, many1 exceptBlock, opt elseBlock, opt finallyBlock],
    ["try", forced ":", block, many1 exceptStarBlock, opt elseBlock, opt finallyBlock]]
  | .exceptBlock => plain [
    [diagnosing, unindentedExcept],
    ["except", expression, opt (run ["as", name]), ":", block],
    ["except", ":", block],
    [diagnosing, badExcept]]
  | .exceptStarBlock => plain [
    [diagnosing, unindentedExceptStar],
    ["except", "*", expression, opt (run ["as", name]), ":", block],
    [diagnosing, badExcept]]
  | .finallyBlock => plain [
    [diagnosing, unindentedFinally],
    ["finally", forced ":", block]]
  | .matchStatement => plain [
    [soft "match", matchSubject, ":", newline, indent, many1 caseBlock, dedent],
    [diagnosing, badMatch]]
  | .matchSubject => plain [
    [starNamedExpression, ",", opt starNamedExpressions],
    [namedExpression]]
  | .caseBlock => plain [
    [diagnosing, badCase],
    [soft "case", casePatterns, opt caseGuard, ":", block]]
  | .caseGuard => plain [["if", namedExpression]]

end ApiDirectives.Source
