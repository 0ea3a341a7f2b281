/-
# The grammar of Go

The parts of a Go source and what they are made of. Statements may stand among the declarations,
so that a piece of a source can be read as well. Where the language leaves open whether a name
stands for a type or for a value, the rules allow both, and their weights prefer one.
-/

import PackageListing.Syntax.Rule

namespace PackageListing
namespace Syntax
namespace GoGrammar

open Rule

/-- A part with a rule of its own. -/
def p (name : String) : Rule := part name

/-- A name. -/
def identifier : Rule := token .identifier

/-- What ends a statement or a declaration. -/
def terminator : Rule := anyOf [token .lineEnd, sign ";", sign "\x00"]

/-- A part that has a node in the tree. -/
def shown (name : String) (rule : Rule) : Part := ⟨name, .shown, false, rule⟩

/-- A part whose node is passed over. -/
def hidden (name : String) (rule : Rule) : Part := ⟨name, .hidden, false, rule⟩

/-- A part that is replaced by what it is made of. -/
def inlined (name : String) (rule : Rule) : Part := ⟨name, .inlined, false, rule⟩

/-- Things of a kind in braces, with an end of line or a semicolon between them. -/
def lineBlock (opening closing : String) (item : Rule) : Rule :=
  row [sign opening,
    optional (row [item, any (row [terminator, item]), optional terminator]),
    sign closing]

/-- Things of a kind in parentheses, each with an end. -/
def group (item : Rule) : Rule := row [sign "(", any (row [item, terminator]), sign ")"]

/-- A condition or a header that a simple statement may come before. -/
def initializer : Rule := optional (row [p "SimpleStatement", sign ";"])

/-- The result of a function. -/
def result : Rule := optional (anyOf [p "Parameters", p "SimpleType"])

/-- Rows of operators that bind equally, with their levels. -/
def binaryOperators : List (Int × List String) :=
  [(5, ["*", "/", "%", "<<", ">>", "&", "&^"]), (4, ["+", "-", "|", "^"]),
    (3, ["==", "!=", "<", "<=", ">", ">="]), (2, ["&&"]), (1, ["||"])]

/-- The level of operators before their operand. -/
def unaryLevel : Int := 6

/-- The level of what follows an operand directly. -/
def primaryLevel : Int := 7

/-- The signs of assignments. -/
def assignments : List String :=
  ["*=", "/=", "%=", "<<=", ">>=", "&=", "&^=", "+=", "-=", "|=", "^=", "="]

/-- The source as a whole, its header and its declarations. -/
def declarations : List Part := [
  shown "SourceFile"
    (row [any (anyOf [row [p "Statement", terminator], row [p "TopLevelDeclaration", terminator]]),
      optional (p "TopLevelDeclaration")]),
  inlined "TopLevelDeclaration"
    (anyOf [p "PackageClause", p "FunctionDeclaration", p "MethodDeclaration",
      p "ImportDeclaration"]),
  shown "PackageClause" (row [word "package", identifier]),
  shown "ImportDeclaration" (row [word "import", anyOf [p "ImportSpec", p "ImportSpecList"]]),
  shown "ImportSpec" (row [optional (anyOf [p "Dot", word "_", identifier]), p "StringLiteral"]),
  shown "Dot" (sign "."),
  shown "ImportSpecList" (lineBlock "(" ")" (p "ImportSpec")),
  hidden "Declaration"
    (anyOf [p "ConstDeclaration", p "TypeDeclaration", p "VarDeclaration"]),
  shown "ConstDeclaration" (row [word "const", anyOf [p "ConstSpec", group (p "ConstSpec")]]),
  shown "ConstSpec"
    (level 0 (some .left) (row [listOf identifier,
      optional (row [optional (p "Type"), sign "=", p "ExpressionList"])])),
  shown "VarDeclaration" (row [word "var", anyOf [p "VarSpec", p "VarSpecList"]]),
  shown "VarSpec"
    (row [listOf identifier,
      anyOf [row [p "Type", optional (row [sign "=", p "ExpressionList"])],
        row [sign "=", p "ExpressionList"]]]),
  shown "VarSpecList" (group (p "VarSpec")),
  shown "FunctionDeclaration"
    (level 1 (some .right) (row [word "func", identifier, optional (p "TypeParameters"),
      p "Parameters", result, optional (p "Block")])),
  shown "MethodDeclaration"
    (level 1 (some .right) (row [word "func", p "Parameters", identifier, p "Parameters", result,
      optional (p "Block")])),
  shown "TypeParameters"
    (row [sign "[", listOf (p "TypeParameter"), optional (sign ","), sign "]"]),
  shown "TypeParameter" (row [listOf identifier, p "TypeElement"]),
  shown "Parameters"
    (row [sign "(",
      optional (row [optional (listOf (anyOf [p "Parameter", p "VariadicParameter"])),
        optional (sign ",")]),
      sign ")"]),
  shown "Parameter" (row [optional (listOf identifier), p "Type"]),
  shown "VariadicParameter" (row [optional identifier, sign "...", p "Type"]),
  shown "TypeAlias" (row [identifier, optional (p "TypeParameters"), sign "=", p "Type"]),
  shown "TypeDeclaration"
    (row [word "type", anyOf [p "TypeSpec", p "TypeAlias",
      group (anyOf [p "TypeSpec", p "TypeAlias"])]]),
  shown "TypeSpec" (weight 1 (row [identifier, optional (p "TypeParameters"), p "Type"]))]

/-- Types. -/
def types : List Part := [
  shown "ExpressionList" (listOf (p "Expression")),
  inlined "Type" (anyOf [p "SimpleType", p "ParenthesizedType"]),
  shown "ParenthesizedType" (row [sign "(", p "Type", sign ")"]),
  hidden "SimpleType"
    (anyOf [weight (-1) identifier, p "GenericType", p "QualifiedType", p "PointerType",
      p "StructType", p "InterfaceType", p "ArrayType", p "SliceType", p "MapType",
      p "ChannelType", p "FunctionType", p "UnderlyingType"]),
  shown "GenericType"
    (weight 1 (row [anyOf [identifier, p "QualifiedType", p "UnderlyingType"],
      p "TypeArguments"])),
  shown "TypeArguments"
    (weight 2 (row [sign "[", listOf (p "TypeElement"), optional (sign ","), sign "]"])),
  shown "PointerType" (level unaryLevel none (row [sign "*", p "Type"])),
  shown "ArrayType"
    (level 0 (some .right) (row [sign "[", p "Expression", sign "]", p "Type"])),
  shown "CountedArrayType" (row [sign "[", sign "...", sign "]", p "Type"]),
  shown "SliceType" (level 0 (some .right) (row [sign "[", sign "]", p "Type"])),
  shown "StructType" (row [word "struct", p "FieldList"]),
  shown "UnderlyingType" (level 0 (some .left) (row [sign "~", p "Type"])),
  shown "FieldList" (lineBlock "\x7b" "\x7d" (p "Field")),
  shown "Field"
    (row [anyOf [row [listOf (p "FieldName"), p "Type"],
        row [optional (sign "*"), anyOf [identifier, p "QualifiedType", p "GenericType"]]],
      optional (p "StringLiteral")]),
  inlined "FieldName" identifier,
  shown "InterfaceType" (row [word "interface", lineBlock "\x7b" "\x7d" (p "InterfaceElement")]),
  inlined "InterfaceElement" (anyOf [p "MethodElement", p "TypeElement"]),
  shown "MethodElement" (row [identifier, p "Parameters", result]),
  shown "TypeElement" (row [p "Type", any (row [sign "|", p "Type"])]),
  shown "MapType"
    (level 0 (some .right) (row [word "map", sign "[", p "Type", sign "]", p "Type"])),
  shown "ChannelType"
    (level 0 (some .left) (anyOf [row [word "chan", p "Type"],
      row [word "chan", sign "<-", p "Type"],
      level unaryLevel none (row [sign "<-", word "chan", p "Type"])])),
  shown "FunctionType" (level 0 (some .right) (row [word "func", p "Parameters", result]))]

/-- Statements. -/
def statements : List Part := [
  shown "Block" (row [sign "\x7b", optional (p "StatementList"), sign "\x7d"]),
  shown "StatementList"
    (anyOf [row [p "Statement", any (row [terminator, p "Statement"]),
        optional (row [terminator, optional (p "LabelAtEnd")])],
      p "LabelAtEnd"]),
  hidden "Statement"
    (anyOf [p "Declaration", p "SimpleStatement", p "ReturnStatement", p "GoStatement",
      p "DeferStatement", p "IfStatement", p "ForStatement", p "SwitchStatement",
      p "TypeSwitchStatement", p "SelectStatement", p "LabeledStatement",
      p "FallthroughStatement", p "BreakStatement", p "ContinueStatement", p "GotoStatement",
      p "Block", p "EmptyStatement"]),
  shown "EmptyStatement" (sign ";"),
  hidden "SimpleStatement"
    (anyOf [p "ExpressionStatement", p "SendStatement", p "IncrementStatement",
      p "DecrementStatement", p "Assignment", p "ShortVarDeclaration"]),
  shown "ExpressionStatement" (p "Expression"),
  shown "SendStatement" (row [p "Expression", sign "<-", p "Expression"]),
  shown "ReceiveStatement"
    (row [optional (row [p "ExpressionList", anyOf [sign "=", sign ":="]]), p "Expression"]),
  shown "IncrementStatement" (row [p "Expression", sign "++"]),
  shown "DecrementStatement" (row [p "Expression", sign "--"]),
  shown "Assignment"
    (row [p "ExpressionList", anyOf (assignments.map sign), p "ExpressionList"]),
  shown "ShortVarDeclaration" (row [p "ExpressionList", sign ":=", p "ExpressionList"]),
  shown "LabeledStatement"
    (level 0 (some .right) (row [identifier, sign ":", p "Statement"])),
  shown "LabelAtEnd" (row [identifier, sign ":"]),
  shown "FallthroughStatement" (level 0 (some .left) (word "fallthrough")),
  shown "BreakStatement" (level 0 (some .left) (row [word "break", optional identifier])),
  shown "ContinueStatement" (level 0 (some .left) (row [word "continue", optional identifier])),
  shown "GotoStatement" (row [word "goto", identifier]),
  shown "ReturnStatement" (row [word "return", optional (p "ExpressionList")]),
  shown "GoStatement" (row [word "go", p "Expression"]),
  shown "DeferStatement" (row [word "defer", p "Expression"]),
  shown "IfStatement"
    (row [word "if", initializer, p "Expression", p "Block",
      optional (row [word "else", anyOf [p "Block", p "IfStatement"]])]),
  shown "ForStatement"
    (row [word "for", optional (anyOf [p "Expression", p "ForClause", p "RangeClause"]),
      p "Block"]),
  shown "ForClause"
    (row [optional (p "SimpleStatement"), sign ";", optional (p "Expression"), sign ";",
      optional (p "SimpleStatement")]),
  shown "RangeClause"
    (row [optional (row [p "ExpressionList", anyOf [sign "=", sign ":="]]), word "range",
      p "Expression"]),
  shown "SwitchStatement"
    (row [word "switch", initializer, optional (p "Expression"), sign "\x7b",
      any (anyOf [p "ExpressionCase", p "DefaultCase"]), sign "\x7d"]),
  shown "ExpressionCase"
    (row [word "case", p "ExpressionList", sign ":", optional (p "StatementList")]),
  shown "DefaultCase" (row [word "default", sign ":", optional (p "StatementList")]),
  shown "TypeSwitchStatement"
    (row [word "switch", p "TypeSwitchHeader", sign "\x7b",
      any (anyOf [p "TypeCase", p "DefaultCase"]), sign "\x7d"]),
  hidden "TypeSwitchHeader"
    (row [initializer, optional (row [p "ExpressionList", sign ":="]), p "Expression", sign ".",
      sign "(", word "type", sign ")"]),
  shown "TypeCase"
    (row [word "case", listOf (p "Type"), sign ":", optional (p "StatementList")]),
  shown "SelectStatement"
    (row [word "select", sign "\x7b", any (anyOf [p "CommunicationCase", p "DefaultCase"]),
      sign "\x7d"]),
  shown "CommunicationCase"
    (row [word "case", anyOf [p "SendStatement", p "ReceiveStatement"], sign ":",
      optional (p "StatementList")])]

/-- Expressions and literals. -/
def expressions : List Part := [
  hidden "Expression"
    (anyOf [p "UnaryExpression", p "BinaryExpression", p "SelectorExpression",
      p "IndexExpression", p "SliceExpression", p "CallExpression", p "TypeAssertion",
      p "TypeConversion", p "TypeInstantiation", identifier, word "new", word "make",
      p "CompositeLiteral", p "FunctionLiteral", p "StringLiteral", token .integer, token .float,
      token .imaginary, token .rune, word "nil", word "true", word "false", word "iota",
      p "ParenthesizedExpression"]),
  shown "ParenthesizedExpression" (row [sign "(", p "Expression", sign ")"]),
  shown "CallExpression"
    (level primaryLevel none (anyOf [
      row [anyOf [word "new", word "make"], p "TypedArguments"],
      row [p "Expression", optional (p "TypeArguments"), p "Arguments"]])),
  shown "VariadicArgument" (level 0 (some .right) (row [p "Expression", sign "..."])),
  shown "TypedArguments"
    (row [sign "(",
      optional (row [p "Type", any (row [sign ",", p "Expression"]), optional (sign ",")]),
      sign ")"]),
  shown "Arguments"
    (row [sign "(",
      optional (row [anyOf [p "Expression", p "VariadicArgument"],
        any (row [sign ",", anyOf [p "Expression", p "VariadicArgument"]]),
        optional (sign ",")]),
      sign ")"]),
  shown "SelectorExpression"
    (level primaryLevel none (row [p "Expression", sign ".", identifier])),
  shown "IndexExpression"
    (level primaryLevel none (row [p "Expression", sign "[", p "Expression", sign "]"])),
  shown "SliceExpression"
    (level primaryLevel none (row [p "Expression", sign "[",
      anyOf [row [optional (p "Expression"), sign ":", optional (p "Expression")],
        row [optional (p "Expression"), sign ":", p "Expression", sign ":", p "Expression"]],
      sign "]"])),
  shown "TypeAssertion"
    (level primaryLevel none (row [p "Expression", sign ".", sign "(", p "Type", sign ")"])),
  shown "TypeConversion"
    (weight (-1) (row [p "Type", sign "(", p "Expression", optional (sign ","), sign ")"])),
  shown "TypeInstantiation"
    (level primaryLevel none (row [p "Type", sign "[", listOf (p "Type"), optional (sign ","),
      sign "]"])),
  shown "CompositeLiteral"
    (level (-1) none (row [anyOf [p "MapType", p "SliceType", p "ArrayType",
        p "CountedArrayType", p "StructType", identifier, p "GenericType", p "QualifiedType"],
      p "LiteralValue"])),
  shown "LiteralValue"
    (row [sign "\x7b",
      optional (row [optional (listOf (anyOf [p "LiteralElement", p "KeyedElement"])),
        optional (sign ",")]),
      sign "\x7d"]),
  shown "LiteralElement" (anyOf [p "Expression", p "LiteralValue"]),
  shown "KeyedElement" (row [p "LiteralElement", sign ":", p "LiteralElement"]),
  shown "FunctionLiteral" (row [word "func", p "Parameters", result, p "Block"]),
  shown "UnaryExpression"
    (level unaryLevel none (row [anyOf (["+", "-", "!", "^", "*", "&", "<-"].map sign),
      p "Expression"])),
  shown "BinaryExpression"
    (anyOf (binaryOperators.map fun o =>
      level o.1 (some .left) (row [p "Expression", anyOf (o.2.map sign), p "Expression"]))),
  shown "QualifiedType" (row [identifier, sign ".", identifier]),
  inlined "StringLiteral" (anyOf [p "RawString", p "QuotedString"]),
  shown "RawString" (row [sign "\x60", token .rawText, sign "\x60"]),
  shown "QuotedString"
    (row [sign "\"", any (anyOf [token .quotedText, token .escape]), token .closingQuote])]

/-- All parts of a Go source; the first is the source as a whole. -/
def parts : List Part := declarations ++ types ++ statements ++ expressions

end GoGrammar
end Syntax
end PackageListing
