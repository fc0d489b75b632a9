import Criteria.Derive.Spelling
import Criteria.Source.Reading

/-!
# Directives

What the attributes on a declaration and on its fields say about the filter or the
record that the declaration describes.

* On a filter's declaration, `filter(model = Type)` names the type of the records.
* On a filter's field, `filter` makes the field a criterion, and the entries in its
  parentheses are the rules of the criterion; the entry `paging` makes it the field
  of the page instead.
* On a record's field, `model` leaves the field out or gives it another name.

Of several attributes with one name the first counts.  Of several entries for one
rule the last counts.
-/

namespace Criteria.Derive

open Criteria.Source

/-- What is wrong with a directive. -/
inductive DirectiveError where
  /-- Its text cannot be cut into tokens. -/
  | untokenized
  /-- Its tokens are no entries. -/
  | malformed (error : ParseError)
  /-- It has no arguments. -/
  | bare (path : Path)
  /-- It has a value in place of arguments. -/
  | assigned (path : Path)
  /-- The declaration names no type of records. -/
  | noModel
  /-- The argument of a declaration's directive is not the type of records. -/
  | unknownArgument
  /-- Something follows the type of records. -/
  | afterModel
  /-- A single word is not the name of a flag. -/
  | unknownFlag
  /-- A word with a value is not the name of a rule. -/
  | unknownRule
  /-- A word has arguments of its own. -/
  | nested
  /-- The value of a rule is not a text. -/
  | notText (rule : String)
  /-- The value of a rule is not a truth value. -/
  | notBool (rule : String)
  /-- The value of a rule is an empty text. -/
  | emptyText (rule : String)
  /-- The value of a rule is not a keyword. -/
  | unknownWord (family : KeywordFamily) (word : String)
  /-- The field of the page has rules. -/
  | pagingWithRules
  /-- An entry on a record's field is none of those that may stand there. -/
  | unknownModelEntry
deriving DecidableEq, Repr

namespace DirectiveError

/-- What is wrong with a directive, in words. -/
def message : DirectiveError → String
  | untokenized => "cannot parse string into token stream"
  | malformed error => error.message
  | bare path => "expected attribute arguments in parentheses: #[" ++ path.text ++ "(...)]"
  | assigned path => "expected parentheses: #[" ++ path.text ++ "(...)]"
  | noModel =>
    "Filter requires a struct attribute naming the model: #[filter(model = Type)]"
  | unknownArgument => "unknown filter attribute. Expected: model = Type"
  | afterModel => "unexpected tokens after model type"
  | unknownFlag => "unknown filter flag. Expected: skip_synthesis, paging, or ignore_if_empty"
  | unknownRule =>
    "unknown filter attribute. Expected: target, case, method, op, logic, "
      ++ "ignore_if_empty, or skip_synthesis"
  | nested => "unknown filter attribute. Expected key = \"value\" pairs or flags"
  | notText rule => rule ++ " must be a string literal"
  | notBool rule => rule ++ " must be true or false"
  | emptyText rule => rule ++ " must not be empty"
  | unknownWord family word =>
    "unknown " ++ family.subject ++ ": '" ++ word ++ "'. Expected one of: "
      ++ ", ".intercalate (familyWords family)
  | pagingWithRules => "a paging field takes no other filter attributes"
  | unknownModelEntry => "unknown model attribute. Expected: skip or rename = \"...\""

end DirectiveError

/-! ## Arguments -/

/-- The first attribute with a name. -/
def named? (name : String) (attributes : List Attribute) : Option Attribute :=
  attributes.find? fun a => a.entry.name.isIdent name

/-- The tokens in the parentheses of an attribute. -/
def arguments : Entry → Except DirectiveError Tokens
  | .list _ tokens => .ok tokens
  | .path path => .error (.bare path)
  | .nameValue path _ => .error (.assigned path)

/-- The tokens in parentheses that are given as text. -/
def argumentTokens (s : String) : Except DirectiveError Tokens :=
  match lex? s with
  | some tokens => .ok tokens
  | none => .error .untokenized

/-- The text that is the value of a rule. -/
def textValue (rule : String) : EntryValue → Except DirectiveError String
  | .text s => .ok s
  | _ => .error (.notText rule)

/-- The text, not empty, that is the value of a rule. -/
def nonemptyValue (rule : String) (v : EntryValue) : Except DirectiveError String :=
  match textValue rule v with
  | .ok s => if s = "" then .error (.emptyText rule) else .ok s
  | .error e => .error e

/-- The truth value that is the value of a rule. -/
def boolValue (rule : String) : EntryValue → Except DirectiveError Bool
  | .bool b => .ok b
  | _ => .error (.notBool rule)

/-- The choice that the value of a rule spells. -/
def wordValue {α : Type} (family : KeywordFamily) (table : Spellings α) (rule : String)
    (v : EntryValue) : Except DirectiveError α :=
  match textValue rule v with
  | .ok s =>
    match table.find? s with
    | some choice => .ok choice
    | none => .error (.unknownWord family s)
  | .error e => .error e

/-! ## The type of records -/

/-- A phrase at the front of what is left, with what is left after it. -/
def phrase {α : Type} (p : Parser α) (s : Input) : Except DirectiveError (α × Input) :=
  (p s).mapError .malformed

/-- The type of records that the arguments of a filter's declaration name.  A comma may
follow it. -/
def modelOfArguments (tokens : Tokens) : Except DirectiveError Tokens := do
  let inner := Grammar.phrase (Grammar.depthBound tokens)
  let (key, rest) ← phrase Parser.ident { tokens }
  if key != "model" then throw .unknownArgument
  let (_, rest) ← phrase (Parser.op "=") rest
  let (model, rest) ← phrase inner.type rest
  let (_, rest) ← phrase (Parser.optionally (!·.isEmpty) (Parser.op ",")) rest
  if !rest.tokens.isEmpty then throw .afterModel
  rest.finish.mapError .malformed
  return model

/-- The type of records that the attributes of a filter's declaration name. -/
def modelOfAttributes (attributes : List Attribute) : Except DirectiveError Tokens :=
  match named? "filter" attributes with
  | none => .error .noModel
  | some a => (arguments a.entry).bind modelOfArguments

/-! ## Directives on a filter's fields -/

/-- What the directive of a filter's field says. -/
structure FilterDirective where
  target : Option String := none
  case : Option Case := none
  textMatch : Option TextMatch := none
  dateOp : Option DateOp := none
  logic : Option Logic := none
  ignoreIfEmpty : Option Bool := none
  skipSynthesis : Bool := false
  /-- Whether the field holds the page. -/
  paging : Bool := false
deriving DecidableEq, Repr

namespace FilterDirective

/-- Whether a rule of a criterion is set. -/
def hasRules (a : FilterDirective) : Bool :=
  a.target.isSome || a.case.isSome || a.textMatch.isSome || a.dateOp.isSome
    || a.logic.isSome || a.ignoreIfEmpty.isSome || a.skipSynthesis

/-- Sets a flag. -/
def setFlag (a : FilterDirective) : Option String → Except DirectiveError FilterDirective
  | some "skip_synthesis" => .ok { a with skipSynthesis := true }
  | some "paging" => .ok { a with paging := true }
  | some "ignore_if_empty" => .ok { a with ignoreIfEmpty := some true }
  | _ => .error .unknownFlag

/-- Sets a rule to a value. -/
def setRule (a : FilterDirective) (rule : Option String) (v : EntryValue) :
    Except DirectiveError FilterDirective :=
  match rule with
  | some "target" => do return { a with target := some (← nonemptyValue "target" v) }
  | some "case" => do return { a with case := some (← wordValue .case caseSpellings "case" v) }
  | some "method" => do
    return { a with textMatch := some (← wordValue .textMatch textMatchSpellings "method" v) }
  | some "op" => do
    return { a with dateOp := some (← wordValue .dateOp dateOpSpellings "op" v) }
  | some "logic" => do
    return { a with logic := some (← wordValue .logic logicSpellings "logic" v) }
  | some "ignore_if_empty" => do
    return { a with ignoreIfEmpty := some (← boolValue "ignore_if_empty" v) }
  | some "skip_synthesis" => do
    return { a with skipSynthesis := ← boolValue "skip_synthesis" v }
  | _ => .error .unknownRule

/-- Adds a mark or a rule; entries with entries inside are none. -/
def add (a : FilterDirective) : Entry → Except DirectiveError FilterDirective
  | .path path => a.setFlag path.ident?
  | .nameValue path v => a.setRule path.ident? v
  | .list .. => .error .nested

/-- What entries say together; the field of the page takes no rules. -/
def ofEntries (es : List Entry) : Except DirectiveError FilterDirective := do
  let a ← es.foldlM add {}
  if a.paging && a.hasRules then .error .pagingWithRules else .ok a

/-- What the arguments of a directive say.  They are taken apart into entries before
any entry is looked at. -/
def ofArguments (tokens : Tokens) : Except DirectiveError FilterDirective :=
  match entries tokens with
  | .ok es => ofEntries es
  | .error e => .error (.malformed e)

/-- What the attributes of a field say; nothing if the field is no part of the filter. -/
def ofAttributes (attributes : List Attribute) :
    Except DirectiveError (Option FilterDirective) :=
  match named? "filter" attributes with
  | none => .ok none
  | some ⟨.path _, _⟩ => .ok (some {})
  | some a => do return some (← ofArguments (← arguments a.entry))

end FilterDirective

/-! ## Directives on a record's fields -/

/-- What the directive of a record's field says. -/
structure ModelDirective where
  /-- Whether filters do not see the field. -/
  skip : Bool := false
  /-- The name by which filters see it. -/
  rename : Option String := none
deriving DecidableEq, Repr

namespace ModelDirective

/-- Adds the mark of a field that is left out, or the name of one that is not. -/
def add (a : ModelDirective) : Entry → Except DirectiveError ModelDirective
  | .path path =>
    if path.isIdent "skip" then .ok { a with skip := true } else .error .unknownModelEntry
  | .nameValue path v =>
    if path.isIdent "rename" then do
      return { a with rename := some (← nonemptyValue "rename" v) }
    else .error .unknownModelEntry
  | .list .. => .error .unknownModelEntry

/-- What the arguments of a directive say. -/
def ofArguments (tokens : Tokens) : Except DirectiveError ModelDirective :=
  match entries tokens with
  | .ok es => es.foldlM add {}
  | .error e => .error (.malformed e)

/-- What the attributes of a field say. -/
def ofAttributes (attributes : List Attribute) : Except DirectiveError ModelDirective :=
  match named? "model" attributes with
  | none => .ok {}
  | some a => (arguments a.entry).bind ofArguments

end ModelDirective

end Criteria.Derive
