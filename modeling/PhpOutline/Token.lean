/-!
# Tokens

A token is a piece of PHP source text with its kind and the line it starts on. Words of the
language and operators of more than one character have kinds of their own; punctuation of one
character has none and is told apart by its text.

Results:
* `Keyword.mem_all`: the list of keywords is complete.
-/

namespace PhpOutline

/-! ## Braces -/

/-- The punctuation that opens a block. -/
abbrev openBrace : String := "\x7b"

/-- The punctuation that closes a block. -/
abbrev closeBrace : String := "\x7d"

/-! ## Keywords -/

/-- The reserved words that have a kind of their own. -/
inductive Keyword where
  | abstractKw | andKw | arrayKw | asKw | breakKw | callableKw | caseKw | catchKw | classKw
  | cloneKw | constKw | continueKw | declareKw | defaultKw | doKw | echoKw | elseKw | elseifKw
  | emptyKw | extendsKw | finalKw | finallyKw | fnKw | forKw | foreachKw | functionKw | globalKw
  | gotoKw | ifKw | implementsKw | includeKw | includeOnceKw | instanceofKw | insteadofKw
  | interfaceKw | issetKw | listKw | namespaceKw | newKw | orKw | printKw | privateKw
  | protectedKw | publicKw | readonlyKw | requireKw | requireOnceKw | returnKw | staticKw
  | switchKw | throwKw | traitKw | tryKw | unsetKw | useKw | varKw | whileKw | xorKw | yieldKw
  deriving DecidableEq, Repr

namespace Keyword

/-- All keywords. -/
def all : List Keyword :=
  [.abstractKw, .andKw, .arrayKw, .asKw, .breakKw, .callableKw, .caseKw, .catchKw, .classKw,
   .cloneKw, .constKw, .continueKw, .declareKw, .defaultKw, .doKw, .echoKw, .elseKw, .elseifKw,
   .emptyKw, .extendsKw, .finalKw, .finallyKw, .fnKw, .forKw, .foreachKw, .functionKw, .globalKw,
   .gotoKw, .ifKw, .implementsKw, .includeKw, .includeOnceKw, .instanceofKw, .insteadofKw,
   .interfaceKw, .issetKw, .listKw, .namespaceKw, .newKw, .orKw, .printKw, .privateKw,
   .protectedKw, .publicKw, .readonlyKw, .requireKw, .requireOnceKw, .returnKw, .staticKw,
   .switchKw, .throwKw, .traitKw, .tryKw, .unsetKw, .useKw, .varKw, .whileKw, .xorKw, .yieldKw]

/-- The keyword as it is written in lower case. -/
def spelling : Keyword → String
  | .abstractKw => "abstract"
  | .andKw => "and"
  | .arrayKw => "array"
  | .asKw => "as"
  | .breakKw => "break"
  | .callableKw => "callable"
  | .caseKw => "case"
  | .catchKw => "catch"
  | .classKw => "class"
  | .cloneKw => "clone"
  | .constKw => "const"
  | .continueKw => "continue"
  | .declareKw => "declare"
  | .defaultKw => "default"
  | .doKw => "do"
  | .echoKw => "echo"
  | .elseKw => "else"
  | .elseifKw => "elseif"
  | .emptyKw => "empty"
  | .extendsKw => "extends"
  | .finalKw => "final"
  | .finallyKw => "finally"
  | .fnKw => "fn"
  | .forKw => "for"
  | .foreachKw => "foreach"
  | .functionKw => "function"
  | .globalKw => "global"
  | .gotoKw => "goto"
  | .ifKw => "if"
  | .implementsKw => "implements"
  | .includeKw => "include"
  | .includeOnceKw => "include_once"
  | .instanceofKw => "instanceof"
  | .insteadofKw => "insteadof"
  | .interfaceKw => "interface"
  | .issetKw => "isset"
  | .listKw => "list"
  | .namespaceKw => "namespace"
  | .newKw => "new"
  | .orKw => "or"
  | .printKw => "print"
  | .privateKw => "private"
  | .protectedKw => "protected"
  | .publicKw => "public"
  | .readonlyKw => "readonly"
  | .requireKw => "require"
  | .requireOnceKw => "require_once"
  | .returnKw => "return"
  | .staticKw => "static"
  | .switchKw => "switch"
  | .throwKw => "throw"
  | .traitKw => "trait"
  | .tryKw => "try"
  | .unsetKw => "unset"
  | .useKw => "use"
  | .varKw => "var"
  | .whileKw => "while"
  | .xorKw => "xor"
  | .yieldKw => "yield"

/-- The label of the keyword's kind. -/
def label : Keyword → String
  | .abstractKw => "T_ABSTRACT"
  | .andKw => "T_LOGICAL_AND"
  | .arrayKw => "T_ARRAY"
  | .asKw => "T_AS"
  | .breakKw => "T_BREAK"
  | .callableKw => "T_CALLABLE"
  | .caseKw => "T_CASE"
  | .catchKw => "T_CATCH"
  | .classKw => "T_CLASS"
  | .cloneKw => "T_CLONE"
  | .constKw => "T_CONST"
  | .continueKw => "T_CONTINUE"
  | .declareKw => "T_DECLARE"
  | .defaultKw => "T_DEFAULT"
  | .doKw => "T_DO"
  | .echoKw => "T_ECHO"
  | .elseKw => "T_ELSE"
  | .elseifKw => "T_ELSEIF"
  | .emptyKw => "T_EMPTY"
  | .extendsKw => "T_EXTENDS"
  | .finalKw => "T_FINAL"
  | .finallyKw => "T_FINALLY"
  | .fnKw => "T_FN"
  | .forKw => "T_FOR"
  | .foreachKw => "T_FOREACH"
  | .functionKw => "T_FUNCTION"
  | .globalKw => "T_GLOBAL"
  | .gotoKw => "T_GOTO"
  | .ifKw => "T_IF"
  | .implementsKw => "T_IMPLEMENTS"
  | .includeKw => "T_INCLUDE"
  | .includeOnceKw => "T_INCLUDE_ONCE"
  | .instanceofKw => "T_INSTANCEOF"
  | .insteadofKw => "T_INSTEADOF"
  | .interfaceKw => "T_INTERFACE"
  | .issetKw => "T_ISSET"
  | .listKw => "T_LIST"
  | .namespaceKw => "T_NAMESPACE"
  | .newKw => "T_NEW"
  | .orKw => "T_LOGICAL_OR"
  | .printKw => "T_PRINT"
  | .privateKw => "T_PRIVATE"
  | .protectedKw => "T_PROTECTED"
  | .publicKw => "T_PUBLIC"
  | .readonlyKw => "T_READONLY"
  | .requireKw => "T_REQUIRE"
  | .requireOnceKw => "T_REQUIRE_ONCE"
  | .returnKw => "T_RETURN"
  | .staticKw => "T_STATIC"
  | .switchKw => "T_SWITCH"
  | .throwKw => "T_THROW"
  | .traitKw => "T_TRAIT"
  | .tryKw => "T_TRY"
  | .unsetKw => "T_UNSET"
  | .useKw => "T_USE"
  | .varKw => "T_VAR"
  | .whileKw => "T_WHILE"
  | .xorKw => "T_LOGICAL_XOR"
  | .yieldKw => "T_YIELD"

/-- The keyword with a given lower-case spelling. -/
def ofSpelling? (word : String) : Option Keyword := all.find? fun k => k.spelling == word

theorem mem_all (k : Keyword) : k ∈ all := by cases k <;> decide

end Keyword

/-! ## Operators -/

/-- The operators that have a kind of their own. -/
inductive Operator where
  | identical | notIdentical | compare | powerEqual | ellipsis | shiftLeftEqual | shiftRightEqual
  | coalesceEqual | nullsafeArrow | equal | notEqual | atMost | atLeast | arrow | doubleArrow
  | doubleColon | and | or | coalesce | increment | decrement | power | plusEqual | minusEqual
  | timesEqual | divideEqual | concatEqual | moduloEqual | andEqual | orEqual | xorEqual
  | shiftLeft | shiftRight
  deriving DecidableEq, Repr

namespace Operator

/-- All operators. -/
def all : List Operator :=
  [.identical, .notIdentical, .compare, .powerEqual, .ellipsis, .shiftLeftEqual,
   .shiftRightEqual, .coalesceEqual, .nullsafeArrow, .equal, .notEqual, .atMost, .atLeast,
   .arrow, .doubleArrow, .doubleColon, .and, .or, .coalesce, .increment, .decrement, .power,
   .plusEqual, .minusEqual, .timesEqual, .divideEqual, .concatEqual, .moduloEqual, .andEqual,
   .orEqual, .xorEqual, .shiftLeft, .shiftRight]

/-- The label of the operator's kind. -/
def label : Operator → String
  | .identical => "T_IS_IDENTICAL"
  | .notIdentical => "T_IS_NOT_IDENTICAL"
  | .compare => "T_SPACESHIP"
  | .powerEqual => "T_POW_EQUAL"
  | .ellipsis => "T_ELLIPSIS"
  | .shiftLeftEqual => "T_SL_EQUAL"
  | .shiftRightEqual => "T_SR_EQUAL"
  | .coalesceEqual => "T_COALESCE_EQUAL"
  | .nullsafeArrow => "T_NULLSAFE_OBJECT_OPERATOR"
  | .equal => "T_IS_EQUAL"
  | .notEqual => "T_IS_NOT_EQUAL"
  | .atMost => "T_IS_SMALLER_OR_EQUAL"
  | .atLeast => "T_IS_GREATER_OR_EQUAL"
  | .arrow => "T_OBJECT_OPERATOR"
  | .doubleArrow => "T_DOUBLE_ARROW"
  | .doubleColon => "T_DOUBLE_COLON"
  | .and => "T_BOOLEAN_AND"
  | .or => "T_BOOLEAN_OR"
  | .coalesce => "T_COALESCE"
  | .increment => "T_INC"
  | .decrement => "T_DEC"
  | .power => "T_POW"
  | .plusEqual => "T_PLUS_EQUAL"
  | .minusEqual => "T_MINUS_EQUAL"
  | .timesEqual => "T_MUL_EQUAL"
  | .divideEqual => "T_DIV_EQUAL"
  | .concatEqual => "T_CONCAT_EQUAL"
  | .moduloEqual => "T_MOD_EQUAL"
  | .andEqual => "T_AND_EQUAL"
  | .orEqual => "T_OR_EQUAL"
  | .xorEqual => "T_XOR_EQUAL"
  | .shiftLeft => "T_SL"
  | .shiftRight => "T_SR"

/-- The written forms of the operators, the longer before the shorter, so that the first one that
    fits is the longest. -/
def spellings : List (String × Operator) :=
  [("===", .identical), ("!==", .notIdentical), ("<=>", .compare), ("**=", .powerEqual),
   ("...", .ellipsis), ("<<=", .shiftLeftEqual), (">>=", .shiftRightEqual),
   ("??=", .coalesceEqual), ("?->", .nullsafeArrow), ("==", .equal), ("!=", .notEqual),
   ("<>", .notEqual), ("<=", .atMost), (">=", .atLeast), ("->", .arrow), ("=>", .doubleArrow),
   ("::", .doubleColon), ("&&", .and), ("||", .or), ("??", .coalesce), ("++", .increment),
   ("--", .decrement), ("**", .power), ("+=", .plusEqual), ("-=", .minusEqual),
   ("*=", .timesEqual), ("/=", .divideEqual), (".=", .concatEqual), ("%=", .moduloEqual),
   ("&=", .andEqual), ("|=", .orEqual), ("^=", .xorEqual), ("<<", .shiftLeft),
   (">>", .shiftRight)]

/-- An operator after which a word names a member and is never a keyword. -/
def isMemberAccess : Operator → Bool
  | .arrow | .nullsafeArrow | .doubleColon => true
  | _ => false

end Operator

/-! ## Kinds -/

/-- What a typed token is (`TokenKind`). -/
inductive Kind where
  | inlineHtml | openTag | openTagWithEcho | closeTag
  | whitespace | comment | docComment
  | name | variable | integer | decimal | literal | separator
  | keyword (word : Keyword)
  | operator (sign : Operator)
  deriving DecidableEq, Repr

namespace Kind

/-- The label of a kind. -/
def label : Kind → String
  | .inlineHtml => "T_INLINE_HTML"
  | .openTag => "T_OPEN_TAG"
  | .openTagWithEcho => "T_OPEN_TAG_WITH_ECHO"
  | .closeTag => "T_CLOSE_TAG"
  | .whitespace => "T_WHITESPACE"
  | .comment => "T_COMMENT"
  | .docComment => "T_DOC_COMMENT"
  | .name => "T_STRING"
  | .variable => "T_VARIABLE"
  | .integer => "T_LNUMBER"
  | .decimal => "T_DNUMBER"
  | .literal => "T_CONSTANT_ENCAPSED_STRING"
  | .separator => "T_NS_SEPARATOR"
  | .keyword word => word.label
  | .operator sign => sign.label

/-- All kinds. -/
def all : List Kind :=
  [.inlineHtml, .openTag, .openTagWithEcho, .closeTag, .whitespace, .comment, .docComment, .name,
   .variable, .integer, .decimal, .literal, .separator] ++
    Keyword.all.map .keyword ++ Operator.all.map .operator

/-- The kind with a given label. -/
def ofLabel? (label : String) : Option Kind := all.find? fun k => k.label == label

/-- White space and comments, which stand between the parts of a declaration. -/
def isTrivia : Kind → Bool
  | .whitespace | .comment | .docComment => true
  | _ => false

end Kind

/-! ## Tokens -/

/-- A piece of source text. Punctuation of one character has no kind. Lines are counted from one
    in source text; a token list that does not come from a source may hold any line. -/
structure Token where
  kind : Option Kind
  content : String
  line : Int
  deriving DecidableEq, Repr

namespace Token

/-- White space or a comment. -/
def isTrivia (t : Token) : Bool := t.kind.any Kind.isTrivia

/-- The token has the given kind. -/
def isKind (t : Token) (kind : Kind) : Bool := t.kind == some kind

/-- The token is the given keyword. -/
def isKeyword (t : Token) (word : Keyword) : Bool := t.kind == some (.keyword word)

/-- The token is the given punctuation (`_is_punct`). -/
def isPunct (t : Token) (sign : String) : Bool := t.kind.isNone && t.content == sign

end Token

end PhpOutline
