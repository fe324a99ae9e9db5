/-!
# Rules of the Python grammar

The grammar has four families of rules: statements, expressions, the patterns of match statements,
and slips. A slip is a shape that no valid source has; it is looked for only after a source has been
found invalid, to say where the mistake is.
-/

namespace ApiDirectives.Source

/-- Rules for modules, blocks, statements and the parameters of functions. -/
inductive StatementRule where
  | module | statements | statement | simpleStatements | simpleStatement | compoundStatement
  | assignment | assignedValue | augmentedSign | returnStatement | raiseStatement
  | globalStatement | nonlocalStatement | deletion | assertion | importStatement | plainImport
  | fromImport | importedNames | importedAliases | importedAlias | moduleAliases | moduleAlias
  | dottedName | block | decorators | classDefinition | bareClass | functionDefinition
  | bareFunction | parameterList | parameters | slashPlain | slashDefaulted | starRest
  | keywordRest | plainParameter | starHintedParameter | defaultedParameter | anyParameter
  | parameter | starHinted | typeHint | starTypeHint | defaultClause | ifStatement | elifStatement
  | elseBlock | whileStatement | forStatement | withStatement | withItem | tryStatement
  | exceptBlock | exceptStarBlock | finallyBlock | matchStatement | matchSubject | caseBlock
  | caseGuard
  deriving Repr, DecidableEq, Inhabited

/-- Rules for expressions, arguments and targets. -/
inductive ExpressionRule where
  | expressions | expression | yieldExpression | starExpressions | starExpression
  | starNamedExpressions | starNamedExpression | assignmentExpression | namedExpression
  | disjunction | conjunction | inversion | comparison | comparePair | bitOr | bitXor | bitAnd
  | shift | additive | multiplicative | signed | power | awaited | primary | slices | slice | atom
  | parenthesized | lambdaExpression | lambdaParameterList | lambdaParameters | lambdaSlashPlain
  | lambdaSlashDefaulted | lambdaStarRest | lambdaKeywordRest | lambdaPlainParameter
  | lambdaDefaultedParameter | lambdaAnyParameter | lambdaParameter | strings | listDisplay
  | tupleDisplay | setDisplay | dictDisplay | dictItems | dictItem | keyedValue
  | comprehensionClauses | comprehensionClause | listComprehension | setComprehension | generator
  | dictComprehension | arguments | argumentList | keywordArguments | starredExpression
  | keywordOrStarred | keywordOrDoubleStarred | starTargets | listTargets | tupleTargets
  | starTarget | plainTarget | targetAtom | singleTarget | memberTarget | targetBase
  | targetFollows | deletedTargets | deletedTarget | deletedAtom | quietExpression
  deriving Repr, DecidableEq, Inhabited

/-- Rules for the patterns of match statements. -/
inductive CaseRule where
  | casePatterns | casePattern | asPattern | orPattern | closedPattern | literalPattern
  | literalKey | complexNumber | signedNumber | signedRealNumber | realNumber | imaginaryNumber
  | capturePattern | captureTarget | wildcardPattern | valuePattern | dottedValue | nameOrDotted
  | groupPattern | sequencePattern | openSequencePattern | maybeSequencePattern | maybeStarPattern
  | starPattern | mappingPattern | itemsPattern | keyValuePattern | doubleStarPattern
  | classPattern | positionalPatterns | keywordPatterns | keywordPattern
  deriving Repr, DecidableEq, Inhabited

/-- Rules for mistakes. -/
inductive SlipRule where
  | badArguments | badKeyword | badCallStatement | badExpression | badNamedExpression
  | badAssignment | badHintedTarget | badDeletion | unindentedBlock | badComprehension
  | badDictComprehension | badParameters | defaultedRun | badDefault | badStarRest
  | badKeywordRest | badLambdaParameters | lambdaDefaultedRun | badLambdaStarRest
  | badLambdaKeywordRest | badWithItem | badForTarget | badParenthesized | badImportedNames
  | badWith | unindentedWith | badTry | badExcept | unindentedFinally | unindentedExcept
  | unindentedExceptStar | badMatch | badCase | badAsPattern | badClassPattern | badIf | badElif
  | unindentedElse | badWhile | badFor | unindentedFunction | badClass | badDictItems
  | badKeyedValue
  deriving Repr, DecidableEq, Inhabited

/-- A rule. -/
inductive Rule where
  | statement (r : StatementRule)
  | expression (r : ExpressionRule)
  | case (r : CaseRule)
  | slip (r : SlipRule)
  deriving Repr, DecidableEq, Inhabited

end ApiDirectives.Source
