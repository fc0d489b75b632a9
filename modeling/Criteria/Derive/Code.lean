import Criteria.Derive.Model
import Criteria.Formula.Inspect

/-!
# Generated code

The tokens of what is generated.  Types, generic parameters and conditions are
repeated as the declaration gives them; names of fields occur as text literals, and as
identifiers where a field is read.
-/

namespace Criteria.Derive

open Criteria.Source

/-- A path into the library that the generated code is written against. -/
def libraryPath (words : String) : Tokens :=
  code ":: sieve_compiler ::" ++ code words

/-- Code for a shared reference to text that lives forever. -/
def staticText : Tokens := code "& 'static str"

/-! ## Rules -/

/-- The path of a choice: that of its family and, at the end, the choice's own name. -/
def choiceTokens (family choice : String) : Tokens := libraryPath family ++ [.ident choice]

def caseTokens (c : Case) : Tokens := choiceTokens "Case ::" c.inspect

def textMatchTokens (m : TextMatch) : Tokens := choiceTokens "TextMatch ::" m.inspect

def dateOpTokens (op : DateOp) : Tokens := choiceTokens "DateOp ::" op.inspect

def logicTokens (l : Logic) : Tokens := choiceTokens "Logic ::" l.inspect

/-- The call of a setter. -/
def Setter.tokens : Setter → Tokens
  | target name => code ". target" ++ [parens [.text name]]
  | case c => code ". case" ++ [parens (caseTokens c)]
  | textMatch m => code ". text_match" ++ [parens (textMatchTokens m)]
  | dateOp op => code ". date_op" ++ [parens (dateOpTokens op)]
  | logic l => code ". logic" ++ [parens (logicTokens l)]
  | skipSynthesis b => code ". skip_synthesis" ++ [parens [.ident (boolText b)]]
  | ignoreIfEmpty b => code ". ignore_if_empty" ++ [parens [.ident (boolText b)]]

/-- The rules of a row: the default ones and the calls of its setters. -/
def setterTokens (setters : List Setter) : Tokens :=
  libraryPath "FieldMeta :: new" ++ [parens []] ++ setters.flatMap Setter.tokens

/-! ## Shared phrases -/

/-- The kind of the values of a type, under one of the two classes of types. -/
def kindTokens (className : String) (type : Tokens) : Tokens :=
  code "<" ++ type ++ code "as" ++ libraryPath className ++ code "> :: KIND"

/-- The receiver of an accessor. -/
def receiver : Tokens := code "& self"

/-- The parameter for the name of a field. -/
def nameParameter : Tokens := code "field : & str"

/-- Reads a field of the receiver. -/
def readField (field : String) : Tokens := code "self ." ++ [.ident field]

/-- A function with a body. -/
def functionTokens (name : String) (inputs result body : Tokens) : Tokens :=
  code "fn" ++ [.ident name, parens inputs] ++ code "->" ++ result ++ [braces body]

/-- A choice by the name of a field: arms and, for every other name, a last one. -/
def matchTokens (arms otherwise : Tokens) : Tokens :=
  code "match field" ++ [braces (arms ++ code "_ =>" ++ otherwise ++ code ",")]

/-- An arm that reads a field through a class of types. -/
def Arm.tokens (readerPath : String) (arm : Arm) : Tokens :=
  .text arm.name :: code "=>" ++ libraryPath readerPath
    ++ parens (code "&" ++ readField arm.field) :: code ","

/-- The head of an implementation, of something for a type or of a type by itself. -/
def implTokens (generics : Generics) (what : Tokens) (name : String) (body : Tokens) : Tokens :=
  code "impl" ++ generics.declared ++ what ++ .ident name :: generics.applied
    ++ generics.conditions ++ [braces body]

/-! ## Filters -/

/-- A row of a table. -/
def FilterRow.tokens (row : FilterRow) : Tokens :=
  libraryPath "FilterField :: new"
    ++ [parens (.text row.name :: code "," ++ kindTokens "FilterFieldType" row.type ++ code ","
      ++ setterTokens row.setters ++ code ",")]

/-- The function that gives the page. -/
def pagingTokens (field : String) : Tokens :=
  functionTokens "paging" receiver (libraryPath "Paging") (readField field)

/-- The code that makes a type a filter. -/
def GeneratedFilter.tokens (f : GeneratedFilter) : Tokens :=
  let table := (f.rows.map FilterRow.tokens).intersperse (code ",") |>.flatten
  let arms := f.arms.flatMap (Arm.tokens "FilterFieldType :: filter_value")
  implTokens f.generics (libraryPath "Filter for") f.name
    (code "type Model =" ++ f.model ++ code ";"
      ++ code "const FIELDS : & 'static" ++ [brackets (libraryPath "FilterField")]
      ++ code "= &" ++ brackets table :: code ";"
      ++ functionTokens "filter_value" (receiver ++ code "," ++ nameParameter)
        (libraryPath "FilterValue < '_ >")
        (matchTokens arms (libraryPath "FilterValue :: None"))
      ++ (f.paging.map pagingTokens).getD [])

/-! ## Records -/

/-- The documentation of every constant. -/
def constantDoc : Tokens :=
  let text := " Model field name constant, usable as a filter target."
  code "#"
    ++ [brackets (code "doc =" ++ [.literal ⟨"r\"" ++ text ++ "\"", some text⟩])]

/-- A constant. -/
def Constant.tokens (c : Constant) : Tokens :=
  constantDoc ++ code "pub const" ++ .ident c.ident :: code ":" ++ staticText
    ++ code "=" ++ .text c.name :: code ";"

/-- The path of the type of optional values. -/
def optionPath (words : String) : Tokens :=
  code ":: core :: option :: Option" ++ code words

/-- An arm of the function that tells kinds. -/
def KindArm.tokens (arm : KindArm) : Tokens :=
  .text arm.name :: code "=>" ++ optionPath ":: Some"
    ++ parens (kindTokens "ModelFieldType" arm.type) :: code ","

/-- The code that makes a type a record. -/
def GeneratedModel.tokens (m : GeneratedModel) : Tokens :=
  let kindArms := m.kindArms.flatMap KindArm.tokens
  let valueArms := m.valueArms.flatMap (Arm.tokens "ModelFieldType :: model_value")
  implTokens m.generics [] m.name (m.constants.flatMap Constant.tokens)
    ++ implTokens m.generics (libraryPath "Model for") m.name
      (functionTokens "field_kind" nameParameter
          (optionPath "<" ++ libraryPath "FieldKind >")
          (matchTokens kindArms (optionPath ":: None"))
        ++ functionTokens "field_value" (receiver ++ code "," ++ nameParameter)
          (libraryPath "Value < '_ >")
          (matchTokens valueArms (libraryPath "Value :: None")))

/-! ## From source text -/

/-- The code that is generated for the declaration of a filter. -/
def deriveFilter (item : Item) : Except DeriveError Tokens :=
  (GeneratedFilter.ofItem item).map GeneratedFilter.tokens

/-- The code that is generated for the declaration of a record. -/
def deriveModel (item : Item) : Except DeriveError Tokens :=
  (GeneratedModel.ofItem item).map GeneratedModel.tokens

end Criteria.Derive
