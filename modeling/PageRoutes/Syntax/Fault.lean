import PageRoutes.Json.Fault
/-!
# Faults of a program text

What can be wrong with a TypeScript module, in words. Some faults stop the reading at once and some
are only noted; in both cases the module is refused.
-/

namespace PageRoutes.Syntax

/-- What is wrong with a program text. -/
inductive Cause where
  | endOfInput
  | unexpectedCharacter (c : Char)
  | unterminatedString
  | unterminatedTemplate
  | unterminatedBlockComment
  | unterminatedRegExp
  | unknownRegExpFlags
  | duplicateRegExpFlag (flag : Char)
  | legacyComment
  | mergeMark
  | expectedDigit (radix : Nat)
  | numericSeparator
  | identifierAfterNumber
  | exponentWithoutDigits
  | legacyDecimal
  | legacyOctalEscape
  | legacyOctalNumber
  | expectedUnicodeEscape
  | invalidUnicodeEscape
  | invalidIdentifierCharacter
  | badEscape (form : String)
  | escapeInReservedWord (word : String)
  | privateNameSpace
  | unexpected (got wanted : String)
  | expected (token got : String)
  | expectedSemicolon
  | expectedStatementEnd
  | expectedIdentifier
  | expectedTsIdentifier
  | expressionExpected
  | stringExpected
  | reservedInStrict (name : String)
  | awaitAsIdentifier
  | evalOrArguments
  | argumentsInField
  | invalidArgumentsUse
  | deleteIdentifier
  | withStatement
  | unaryInPower
  | mixedNullish
  | lineBreakInThrow
  | lineBreakBeforeArrow
  | invalidPattern
  | invalidAssignTarget
  | cannotAssign
  | emptyParens
  | spreadInParens
  | restNotLast
  | restParameterNotLast
  | restOptional
  | restInitializer
  | initializerInSignature
  | trailingCommaAfterRest
  | optionalWithInitializer
  | annotationAfterDefault
  | assignmentProperty
  | reservedShorthand
  | constWithoutInitializer
  | patternWithoutInitializer
  | emptyDeclarationList
  | tooManyLoopBindings
  | loopInitializer
  | loopWithType
  | loopPattern
  | asyncOfLoop
  | awaitLoopNotOf
  | returnOutside
  | awaitOutside
  | awaitInParameter
  | yieldInParameter
  | breakOutside
  | continueTarget
  | breakTarget
  | duplicateLabel (name : String)
  | labelledFunction
  | labelledGenerator
  | multipleDefaults
  | declarationNotAllowed
  | nestedImportExport
  | emptyTypeParameters
  | duplicateConstructor
  | constructorAccessor
  | constructorGenerator
  | constructorAsync
  | constructorTypeParameters
  | constructorResult
  | constructorModifier (word : String)
  | privateConstructor
  | fieldNamedConstructor
  | getterParameters
  | setterParameters
  | restInSetter
  | readonlyAccessor
  | readonlyMethod
  | singleBaseClass
  | extendsTwice
  | extendsAfterImplements
  | implementsTwice
  | abstractOutside
  | abstractBody
  | abstractInitializer
  | modifierOrder (left right : String)
  | modifierTwice (word : String)
  | modifierConflict (left right : String)
  | modifierPlacement
  | typeParameterModifier (word : String)
  | variancePlacement (word : String)
  | constTypeParameterPlacement
  | ambientTwice
  | ambientBody
  | asyncPlacement
  | overrideWithoutBase
  | parameterPropertyPlacement
  | parameterPropertyPattern
  | optionalPattern
  | decoratorsBothSides
  | indexSignatureParameters
  | privateInInterface
  | interfaceName
  | className
  | interfaceBase
  | computedEnumMember
  | numericEnumMember
  | requiredAfterOptional
  | reservedImportName
  | importNameString (name : String)
  | exportNameString
  | typeOnImportAndName
  | typeOnExportAndName
  | exportExpectsFrom (name : String)
  | superCall
  | superAccess
  | superPrivate
  | superOptional
  | newTarget
  | newOptional
  | taggedOptional
  | nonNullAssertion (what : String)
  | reservedTypeAssertion
  | reservedTypeParameters
  | useStrictWithPatterns
  | optionalMember
  | commaInComputedName
  | dotsWithoutIdentifier
  | awaitStar
  | jumpOutOfFunction
  | trailingComma
  | deleteOperand
  | arrowPlacement
  | privateAccessibility
  | privateModifier (word : String)
  | importPlacement
  | usingPlacement
  | usingName
  | usingInitializer
  | tooDeep
  deriving DecidableEq, Repr

/-- The radix of digits in words. -/
def radixName : Nat → String
  | 2 => "a binary"
  | 8 => "an octal"
  | 10 => "a decimal"
  | _ => "a hexadecimal"

/-- A character between single quotes, with the escapes of a message. -/
def quoteChar (c : Char) : String :=
  if c == '\x27' then "\x27\\\x27\x27"
  else if c == '\x22' then "\x27\x22\x27"
  else "\x27" ++ String.ofList (Json.quoteInMessage.shown c) ++ "\x27"

/-- A cause in words. -/
def Cause.message : Cause → String
  | .endOfInput => "Unexpected eof"
  | .unexpectedCharacter c => "Unexpected character " ++ quoteChar c
  | .unterminatedString => "Unterminated string constant"
  | .unterminatedTemplate => "Unterminated template"
  | .unterminatedBlockComment => "Unterminated block comment"
  | .unterminatedRegExp => "Unterminated regexp literal"
  | .unknownRegExpFlags => "Unknown regular expression flags."
  | .duplicateRegExpFlag flag =>
    "Duplicated regular expression flag '" ++ String.singleton flag ++ "'."
  | .legacyComment => "Legacy comments cannot be used in module code"
  | .mergeMark => "Merge conflict marker encountered."
  | .expectedDigit radix => "Expected " ++ radixName radix ++ " digit"
  | .numericSeparator => "A numeric separator is only allowed between two digits"
  | .identifierAfterNumber => "Identifier cannot follow number"
  | .exponentWithoutDigits => "Expected +, - or decimal digit after e"
  | .legacyDecimal => "Legacy decimal escape is not permitted in strict mode"
  | .legacyOctalEscape => "Legacy octal escape is not permitted in strict mode"
  | .legacyOctalNumber =>
    "Legacy octal literals are not available when targeting ECMAScript 5 and higher"
  | .expectedUnicodeEscape => "Expected unicode escape"
  | .invalidUnicodeEscape => "Invalid unicode escape"
  | .invalidIdentifierCharacter => "Invalid character in identifier"
  | .badEscape form => "Bad character escape sequence, expected " ++ form
  | .escapeInReservedWord word => "Unexpected escape sequence in reserved word: " ++ word
  | .privateNameSpace => "Unexpected space between # and identifier"
  | .unexpected got wanted => "Unexpected token `" ++ got ++ "`. Expected " ++ wanted
  | .expected token got => "Expected '" ++ token ++ "', got '" ++ got ++ "'"
  | .expectedSemicolon => "Expected a semicolon"
  | .expectedStatementEnd => "Expected ';', '\x7d' or <eof>"
  | .expectedIdentifier => "Expected ident"
  | .expectedTsIdentifier => "Expected an identifier"
  | .expressionExpected => "Expression expected"
  | .stringExpected => "String literal expected"
  | .reservedInStrict name => "`" ++ name ++ "` cannot be used as an identifier in strict mode"
  | .awaitAsIdentifier => "`await` cannot be used as an identifier in an async context"
  | .evalOrArguments =>
    "'eval' and 'arguments' cannot be used as a binding identifier in strict mode"
  | .argumentsInField => "'arguments' is only allowed in functions and class methods"
  | .invalidArgumentsUse => "Invalid use of 'arguments' in strict mode"
  | .deleteIdentifier => "'delete' cannot be called on an identifier in strict mode"
  | .withStatement =>
    "The 'with' statement is not supported. All symbols in a 'with' block will have type 'any'."
  | .unaryInPower => "'**' cannot be applied to unary/await expression."
  | .mixedNullish =>
    "Nullish coalescing operator(??) requires parens when mixing with logical operators"
  | .lineBreakInThrow => "LineBreak cannot follow 'throw'"
  | .lineBreakBeforeArrow => "Unexpected line break between arrow head and arrow"
  | .invalidPattern => "Not a pattern"
  | .invalidAssignTarget =>
    "The left-hand side of an assignment expression must be a variable or a property access."
  | .cannotAssign => "Cannot assign to this"
  | .emptyParens => "Parenthesized expression cannot be empty"
  | .spreadInParens => "Parenthesized expression cannot contain spread operator"
  | .restNotLast => "Rest element must be final element"
  | .restParameterNotLast => "A rest parameter must be last in a parameter list"
  | .restOptional => "A rest parameter cannot be optional"
  | .restInitializer => "A rest parameter cannot have an initializer"
  | .initializerInSignature =>
    "A parameter initializer is only allowed in a function or constructor implementation"
  | .trailingCommaAfterRest => "Trailing comma isn't permitted after a rest element"
  | .optionalWithInitializer => "Parameter cannot have question mark and initializer"
  | .annotationAfterDefault => "Type annotations must come before default assignments"
  | .assignmentProperty => "assignment property is invalid syntax"
  | .reservedShorthand => "Cannot use a reserved word as a shorthand property"
  | .constWithoutInitializer => "'const' declarations must be initialized"
  | .patternWithoutInitializer => "Destructuring bindings require initializers"
  | .emptyDeclarationList => "Variable declaration list cannot be empty"
  | .tooManyLoopBindings => "Expected one variable binding"
  | .loopInitializer => "Unexpected initializer in for in/of loop"
  | .loopWithType =>
    "The left-hand side of a 'for...of' statement cannot use a type annotation"
  | .loopPattern =>
    "The left-hand side of a 'for...in' statement cannot be a destructuring pattern"
  | .asyncOfLoop => "The left-hand side of a `for...of` statement may not be `async`"
  | .awaitLoopNotOf => "for await syntax is valid only for for-of statement"
  | .returnOutside => "Return statement is not allowed here"
  | .awaitOutside => "await isn't allowed in non-async function"
  | .awaitInParameter => "`await` expressions cannot be used in a parameter initializer."
  | .yieldInParameter => "'yield' cannot be used as a parameter within generator"
  | .breakOutside =>
    "A 'break' statement can only be used within an enclosing iteration or switch statement"
  | .continueTarget =>
    "A 'continue' statement can only jump to a label of an enclosing iteration statement"
  | .breakTarget => "A 'break' statement can only jump to a label of an enclosing statement"
  | .duplicateLabel name => "Label " ++ name ++ " is already declared"
  | .labelledFunction => "Function cannot be labelled in strict mode"
  | .labelledGenerator => "Generator or async function cannot be labelled"
  | .multipleDefaults => "A switch block cannot have multiple defaults"
  | .declarationNotAllowed => "Declaration is not allowed"
  | .nestedImportExport => "'import', and 'export' cannot be used outside of module code"
  | .emptyTypeParameters => "Type parameter list cannot be empty"
  | .duplicateConstructor => "A class can only have one constructor"
  | .constructorAccessor => "Class constructor can't be an accessor"
  | .constructorGenerator => "A constructor cannot be generator"
  | .constructorAsync => "Constructor can't be an async function"
  | .constructorTypeParameters => "Type parameters cannot appear on a constructor declaration"
  | .constructorResult => "Type annotation cannot appear on a constructor declaration"
  | .constructorModifier word =>
    "'" ++ word ++ "' modifier cannot appear on a constructor declaration"
  | .privateConstructor => "Classes can't have a private field named '#constructor'"
  | .fieldNamedConstructor => "Classes may not have a non-static field named 'constructor'"
  | .getterParameters => "A `get` accessor cannot have parameters"
  | .setterParameters => "A `set` accessor must have exactly one parameter"
  | .restInSetter => "Rest pattern is not allowed in setter"
  | .readonlyAccessor => "A getter or a setter cannot be readonly"
  | .readonlyMethod => "A method cannot be readonly"
  | .singleBaseClass => "Classes can only extend a single class"
  | .extendsTwice => "`extends` clause already seen."
  | .extendsAfterImplements => "'extends' clause must precede 'implements' clause."
  | .implementsTwice => "`implements` clause already seen"
  | .abstractOutside => "Abstract methods can only appear within an abstract class."
  | .abstractBody => "Abstract method cannot have an implementation."
  | .abstractInitializer => "Abstract property cannot have an initializer."
  | .modifierOrder left right =>
    "'" ++ left ++ "' modifier must precede '" ++ right ++ "' modifier."
  | .modifierTwice word => "'" ++ word ++ "' modifier already seen"
  | .modifierConflict left right =>
    "'" ++ left ++ "' modifier cannot be used with '" ++ right ++ "' modifier."
  | .modifierPlacement => "Modifiers cannot appear here"
  | .typeParameterModifier word => "'" ++ word ++ "' modifier cannot appear on a type parameter"
  | .variancePlacement word =>
    "'" ++ word
      ++ "' modifier can only appear on a type parameter of a class, interface or type alias"
  | .constTypeParameterPlacement =>
    "'const' modifier can only appear on a type parameter of a function, method or class"
  | .ambientTwice => "`declare` modifier not allowed for code already in an ambient context"
  | .ambientBody => "An implementation cannot be declared in ambient contexts"
  | .asyncPlacement => "`async` modifier cannot be used here"
  | .overrideWithoutBase =>
    "This member cannot have an 'override' modifier because its containing class does not extend another class."
  | .parameterPropertyPlacement =>
    "A parameter property is only allowed in a constructor implementation"
  | .parameterPropertyPattern =>
    "Typescript parameter property must be an identifier or assignment pattern"
  | .optionalPattern =>
    "A binding pattern parameter cannot be optional in an implementation signature."
  | .decoratorsBothSides =>
    "Decorators may not appear after 'export' or 'export default' if they also appear before 'export'."
  | .indexSignatureParameters => "An index signature must have exactly one parameter"
  | .privateInInterface => "private names are not allowed in interface"
  | .interfaceName => "interface name is invalid"
  | .className => "Invalid class name"
  | .interfaceBase =>
    "An interface can only extend an identifier/qualified-name with optional type arguments."
  | .computedEnumMember => "Computed property names are not allowed in enums"
  | .numericEnumMember => "An enum member cannot have a numeric name"
  | .requiredAfterOptional => "A required element cannot follow an optional element."
  | .reservedImportName => "cannot import as reserved word"
  | .importNameString name =>
    "A string literal cannot be used as an imported binding.\n- Did you mean `import \x7b \x22" ++ name
      ++ "\x22 as foo \x7d`?"
  | .exportNameString =>
    "A string literal cannot be used as an exported binding without `from`."
  | .typeOnImportAndName =>
    "The 'type' modifier cannot be used on a named import when 'import type' is used on its import statement."
  | .typeOnExportAndName =>
    "The 'type' modifier cannot be used on a named export when 'export type' is used on its export statement."
  | .exportExpectsFrom name => "`" ++ name ++ "` cannot be used without `from` clause"
  | .superCall => "Invalid `super()`"
  | .superAccess => "Invalid access to super"
  | .superPrivate => "Index super with private name is not allowed"
  | .superOptional => "Super call cannot be optional"
  | .newTarget => "'new.target' is only allowed in the body of a function or class"
  | .newOptional => "Constructor in/after an optional chaining is not allowed."
  | .taggedOptional => "Tagged template literal is not allowed in an optional chain."
  | .nonNullAssertion what =>
    "Typescript non-null assertion operator is not allowed with '" ++ what ++ "'"
  | .reservedTypeAssertion =>
    "This syntax is reserved in files with the .mts or .cts extension. Use an `as` expression instead."
  | .reservedTypeParameters =>
    "This syntax is reserved in files with the .mts or .cts extension. Add a trailing comma, as in `<T,>() => ...`."
  | .useStrictWithPatterns =>
    "Illegal 'use strict' directive in function with non-simple parameter list."
  | .optionalMember => "An object member cannot be declared optional"
  | .commaInComputedName => "A comma expression is not allowed in a computed property name"
  | .dotsWithoutIdentifier =>
    "`...` must be followed by an identifier in declaration contexts"
  | .awaitStar =>
    "await* has been removed from the async functions proposal. Use Promise.all() instead."
  | .jumpOutOfFunction => "Jump target cannot cross function boundary"
  | .trailingComma => "Trailing comma is not allowed"
  | .deleteOperand => "The operand of a 'delete' operator must be a property reference."
  | .arrowPlacement => "An arrow function is not allowed here"
  | .privateAccessibility =>
    "An accessibility modifier cannot be used with a private identifier"
  | .privateModifier word =>
    "'" ++ word ++ "' modifier cannot be used with a private identifier"
  | .importPlacement => "Invalid import"
  | .usingPlacement => "Using declaration is not allowed in this position"
  | .usingName => "Using declaration only allows identifiers"
  | .usingInitializer => "Using declaration requires initializer"
  | .tooDeep => "Expression is nested too deeply"

end PageRoutes.Syntax
