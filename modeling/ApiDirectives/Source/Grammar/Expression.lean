import ApiDirectives.Source.Grammar.Pattern

/-!
# Expressions

The productions of expressions, arguments and targets. A rule that would start with itself is grown
from its first part instead.
-/

namespace ApiDirectives.Source

open Pattern StatementRule ExpressionRule CaseRule SlipRule

/-- The production of a rule for expressions. -/
def ExpressionRule.production : ExpressionRule → Production
  | .expressions => plain [
    [expression, many1 (run [",", expression]), opt ","],
    [expression, ","],
    [expression]]
  | .expression => kept [
    [diagnosing, badExpression],
    [diagnosing, badCallStatement],
    [disjunction, "if", disjunction, "else", expression],
    [disjunction],
    [lambdaExpression]]
  | .yieldExpression => plain [["yield", "from", expression], ["yield", opt starExpressions]]
  | .starExpressions => plain [
    [starExpression, many1 (run [",", starExpression]), opt ","],
    [starExpression, ","],
    [starExpression]]
  | .starExpression => kept [["*", bitOr], [expression]]
  | .starNamedExpressions => plain [[separated "," starNamedExpression, opt ","]]
  | .starNamedExpression => plain [["*", bitOr], [namedExpression]]
  | .assignmentExpression => plain [[name, ":=", cut, expression]]
  | .namedExpression => plain [
    [assignmentExpression],
    [diagnosing, badNamedExpression],
    [expression, notAhead ":="]]
  | .disjunction => kept [[conjunction, many1 (run ["or", conjunction])], [conjunction]]
  | .conjunction => kept [[inversion, many1 (run ["and", inversion])], [inversion]]
  | .inversion => kept [["not", inversion], [comparison]]
  | .comparison => plain [[bitOr, many1 comparePair], [bitOr]]
  | .comparePair => plain [
    ["==", bitOr],
    ["!=", bitOr],
    ["<=", bitOr],
    ["<", bitOr],
    [">=", bitOr],
    [">", bitOr],
    ["not", "in", bitOr],
    ["in", bitOr],
    ["is", "not", bitOr],
    ["is", bitOr]]
  | .bitOr => grown [bitXor] [["|", bitXor]]
  | .bitXor => grown [bitAnd] [["^", bitAnd]]
  | .bitAnd => grown [shift] [["&", shift]]
  | .shift => grown [additive] [
    ["<<", additive],
    [">>", additive]]
  | .additive => grown [multiplicative] [
    ["+", multiplicative],
    ["-", multiplicative]]
  | .multiplicative => grown [signed] [
    ["*", signed],
    ["/", signed],
    ["//", signed],
    ["%", signed],
    ["@", signed]]
  | .signed => kept [["+", signed], ["-", signed], ["~", signed], [power]]
  | .power => plain [[awaited, "**", signed], [awaited]]
  | .awaited => kept [["await", primary], [primary]]
  | .primary => grown [atom] [
    [".", name],
    [generator],
    ["(", opt arguments, ")"],
    ["[", slices, "]"]]
  | .slices => plain [
    [slice, notAhead ","],
    [separated "," (oneOf [slice, starredExpression]), opt ","]]
  | .slice => plain [
    [opt expression, ":", opt expression, opt (run [":", opt expression])],
    [namedExpression]]
  | .atom => plain [
    [name],
    ["True"],
    ["False"],
    ["None"],
    [ahead string, strings],
    [number],
    [ahead "(", oneOf [tupleDisplay, parenthesized, generator]],
    [ahead "[", oneOf [listDisplay, listComprehension]],
    [ahead "\x7b", oneOf [dictDisplay, setDisplay, dictComprehension, setComprehension]],
    ["..."]]
  | .parenthesized => plain [
    ["(", oneOf [yieldExpression, namedExpression], ")"],
    [diagnosing, badParenthesized]]
  | .lambdaExpression => plain [["lambda", opt lambdaParameterList, ":", expression]]
  | .lambdaParameterList => plain [[diagnosing, badLambdaParameters], [lambdaParameters]]
  | .lambdaParameters => plain [
    [lambdaSlashPlain, many lambdaPlainParameter, many lambdaDefaultedParameter, opt lambdaStarRest],
    [lambdaSlashDefaulted, many lambdaDefaultedParameter, opt lambdaStarRest],
    [many1 lambdaPlainParameter, many lambdaDefaultedParameter, opt lambdaStarRest],
    [many1 lambdaDefaultedParameter, opt lambdaStarRest],
    [lambdaStarRest]]
  | .lambdaSlashPlain => plain [
    [many1 lambdaPlainParameter, "/", ","],
    [many1 lambdaPlainParameter, "/", ahead ":"]]
  | .lambdaSlashDefaulted => plain [
    [many lambdaPlainParameter, many1 lambdaDefaultedParameter, "/", ","],
    [many lambdaPlainParameter, many1 lambdaDefaultedParameter, "/", ahead ":"]]
  | .lambdaStarRest => plain [
    [diagnosing, badLambdaStarRest],
    ["*", lambdaPlainParameter, many lambdaAnyParameter, opt lambdaKeywordRest],
    ["*", ",", many1 lambdaAnyParameter, opt lambdaKeywordRest],
    [lambdaKeywordRest]]
  | .lambdaKeywordRest => plain [
    [diagnosing, badLambdaKeywordRest],
    ["**", lambdaPlainParameter]]
  | .lambdaPlainParameter => plain [[lambdaParameter, ","], [lambdaParameter, ahead ":"]]
  | .lambdaDefaultedParameter => plain [
    [lambdaParameter, defaultClause, ","],
    [lambdaParameter, defaultClause, ahead ":"]]
  | .lambdaAnyParameter => plain [
    [lambdaParameter, opt defaultClause, ","],
    [lambdaParameter, opt defaultClause, ahead ":"]]
  | .lambdaParameter => plain [[name]]
  | .strings => kept [[literals]]
  | .listDisplay => plain [["[", opt starNamedExpressions, "]"]]
  | .tupleDisplay =>
    plain [["(", opt (run [starNamedExpression, ",", opt starNamedExpressions]), ")"]]
  | .setDisplay => plain [["\x7b", starNamedExpressions, "\x7d"]]
  | .dictDisplay => plain [
    ["\x7b", opt dictItems, "\x7d"],
    [diagnosing, "\x7b", badDictItems, "\x7d"]]
  | .dictItems => plain [[separated "," dictItem, opt ","]]
  | .dictItem => plain [["**", bitOr], [keyedValue]]
  | .keyedValue => plain [[expression, ":", expression]]
  | .comprehensionClauses => plain [[many1 comprehensionClause]]
  | .comprehensionClause => plain [
    ["async", "for", starTargets, "in", cut, disjunction, many (run ["if", disjunction])],
    ["for", starTargets, "in", cut, disjunction, many (run ["if", disjunction])],
    [diagnosing, badForTarget]]
  | .listComprehension => plain [
    ["[", namedExpression, comprehensionClauses, "]"],
    [diagnosing, badComprehension]]
  | .setComprehension => plain [
    ["\x7b", namedExpression, comprehensionClauses, "\x7d"],
    [diagnosing, badComprehension]]
  | .generator => plain [
    ["(", choice [[assignmentExpression], [expression, notAhead ":="]], comprehensionClauses, ")"],
    [diagnosing, badComprehension]]
  | .dictComprehension => plain [
    ["\x7b", keyedValue, comprehensionClauses, "\x7d"],
    [diagnosing, badDictComprehension]]
  | .arguments => kept [[argumentList, opt ",", ahead ")"], [diagnosing, badArguments]]
  | .argumentList => plain [
    [separated "," (choice [[starredExpression], [choice [[assignmentExpression], [expression,
      notAhead ":="]], notAhead "="]]), opt (run [",", keywordArguments])],
    [keywordArguments]]
  | .keywordArguments => plain [
    [separated "," keywordOrStarred, ",", separated "," keywordOrDoubleStarred],
    [separated "," keywordOrStarred],
    [separated "," keywordOrDoubleStarred]]
  | .starredExpression => plain [["*", expression]]
  | .keywordOrStarred => plain [
    [diagnosing, badKeyword],
    [name, "=", expression],
    [starredExpression]]
  | .keywordOrDoubleStarred => plain [
    [diagnosing, badKeyword],
    [name, "=", expression],
    ["**", expression]]
  | .starTargets => plain [
    [starTarget, notAhead ","],
    [starTarget, many (run [",", starTarget]), opt ","]]
  | .listTargets => plain [[separated "," starTarget, opt ","]]
  | .tupleTargets => plain [
    [starTarget, many1 (run [",", starTarget]), opt ","],
    [starTarget, ","]]
  | .starTarget => kept [["*", notAhead "*", starTarget], [plainTarget]]
  | .plainTarget => kept [
    [targetBase, ".", name, notAhead targetFollows],
    [targetBase, "[", slices, "]", notAhead targetFollows],
    [targetAtom]]
  | .targetAtom => plain [
    [name],
    ["(", plainTarget, ")"],
    ["(", opt tupleTargets, ")"],
    ["[", opt listTargets, "]"]]
  | .singleTarget => plain [[memberTarget], [name], ["(", singleTarget, ")"]]
  | .memberTarget => plain [
    [targetBase, ".", name, notAhead targetFollows],
    [targetBase, "[", slices, "]", notAhead targetFollows]]
  | .targetBase => grown [atom, ahead targetFollows] [
    [".", name, ahead targetFollows],
    ["[", slices, "]", ahead targetFollows],
    [generator, ahead targetFollows],
    ["(", opt arguments, ")", ahead targetFollows]]
  | .targetFollows => plain [["("], ["["], ["."]]
  | .deletedTargets => plain [[separated "," deletedTarget, opt ","]]
  | .deletedTarget => kept [
    [targetBase, ".", name, notAhead targetFollows],
    [targetBase, "[", slices, "]", notAhead targetFollows],
    [deletedAtom]]
  | .deletedAtom => plain [
    [name],
    ["(", deletedTarget, ")"],
    ["(", opt deletedTargets, ")"],
    ["[", opt deletedTargets, "]"]]
  | .quietExpression => quiet [
    [disjunction, "if", disjunction, "else", expression],
    [disjunction],
    [lambdaExpression]]

end ApiDirectives.Source
