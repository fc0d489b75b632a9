import Criteria.Derive.Code
import Criteria.Proofs.Source.Literal
import Criteria.Proofs.Source.Token

/-!
# Reading generated code

What generated code says is read off its tokens, phrase by phrase.  A reader knows the words and
marks of the language and the names of the library, and none of what the code was printed from;
only the name and the generic parameters of the type are given to it.  Each reader has a law for
what is printed, and the law of the whole is put together from them.

* `GeneratedFilter.read?_tokens`, `GeneratedModel.read?_tokens`: what is printed reads back.
-/

namespace Criteria.Derive

open Criteria.Source

/-- A path, with a double colon before each name. -/
def pathTo (names : List String) : Tokens :=
  names.flatMap fun name => [.punct ':' true, .punct ':' false, .ident name]

/-! ## Rules -/

/-- The choice that stands under its name after the path of its family. -/
def choiceAt? {α : Type} (family : String) (choices : List (String × α)) (ts : Tokens) :
    Option α :=
  match past? (pathTo ["sieve_compiler", family]) ts with
  | some [.punct ':' true, .punct ':' false, .ident name] => choices.lookup name
  | _ => none

def truthAt? : Tokens → Option Bool
  | [.ident "true"] => some true
  | [.ident "false"] => some false
  | _ => none

def textAt? : Tokens → Option String
  | [.literal l] => l.meaning?
  | _ => none

/-- The setter that is called by a name with an argument. -/
def call? (name : String) (argument : Tokens) : Option Setter :=
  match name with
  | "target" => (textAt? argument).map .target
  | "case" =>
    (choiceAt? "Case" [("Sensitive", .sensitive), ("Insensitive", .insensitive)] argument).map .case
  | "text_match" =>
    (choiceAt? "TextMatch" [("Equals", .equals), ("Contains", .contains)] argument).map .textMatch
  | "date_op" =>
    (choiceAt? "DateOp" [("Equality", .equality), ("Inequality", .inequality),
      ("LessThan", .lessThan), ("LessThanOrEqual", .lessThanOrEqual),
      ("GreaterThan", .greaterThan), ("GreaterThanOrEqual", .greaterThanOrEqual)]
      argument).map .dateOp
  | "logic" => (choiceAt? "Logic" [("And", .and), ("Or", .or)] argument).map .logic
  | "skip_synthesis" => (truthAt? argument).map .skipSynthesis
  | "ignore_if_empty" => (truthAt? argument).map .ignoreIfEmpty
  | _ => none

/-- The setters that are called one after the other. -/
def callAll? : Tokens → Option (List Setter)
  | [] => some []
  | .punct '.' false :: .ident name :: .group .parenthesis argument :: rest =>
    (call? name argument).bind fun s => (callAll? rest).map (s :: ·)
  | _ => none

/-- The setters that are called on the default rules. -/
def settersOf? (ts : Tokens) : Option (List Setter) :=
  match past? (pathTo ["sieve_compiler", "FieldMeta", "new"]) ts with
  | some (.group .parenthesis [] :: calls) => callAll? calls
  | _ => none

/-- The rules that a chain of calls on the default ones comes to. -/
def rulesOf? (ts : Tokens) : Option Rules :=
  (settersOf? ts).map Setter.chain

theorem choiceAt?_choiceTokens {α : Type} {family path : String}
    (hpath : libraryPath path =
      pathTo ["sieve_compiler", family] ++ [.punct ':' true, .punct ':' false])
    (choices : List (String × α)) (name : String) :
    choiceAt? family choices (choiceTokens path name) = choices.lookup name := by
  rw [choiceTokens, hpath, List.append_assoc, choiceAt?, past?_append]
  rfl

theorem textAt?_text (s : String) : textAt? [.text s] = some s :=
  Literal.meaning?_ofText s

theorem call?_tokens (s : Setter) :
    ∃ name argument, s.tokens = [.punct '.' false, .ident name, parens argument] ∧
      call? name argument = some s := by
  cases s with
  | target name =>
    refine ⟨"target", [.text name], rfl, ?_⟩
    rw [call?, textAt?_text, Option.map_some]
  | case choice =>
    refine ⟨"case", caseTokens choice, rfl, ?_⟩
    rw [call?, caseTokens, choiceAt?_choiceTokens rfl]
    cases choice <;> rfl
  | textMatch choice =>
    refine ⟨"text_match", textMatchTokens choice, rfl, ?_⟩
    rw [call?, textMatchTokens, choiceAt?_choiceTokens rfl]
    cases choice <;> rfl
  | dateOp choice =>
    refine ⟨"date_op", dateOpTokens choice, rfl, ?_⟩
    rw [call?, dateOpTokens, choiceAt?_choiceTokens rfl]
    cases choice <;> rfl
  | logic choice =>
    refine ⟨"logic", logicTokens choice, rfl, ?_⟩
    rw [call?, logicTokens, choiceAt?_choiceTokens rfl]
    cases choice <;> rfl
  | skipSynthesis skip =>
    exact ⟨"skip_synthesis", [.ident (boolText skip)], rfl, by cases skip <;> rfl⟩
  | ignoreIfEmpty ignore =>
    exact ⟨"ignore_if_empty", [.ident (boolText ignore)], rfl, by cases ignore <;> rfl⟩

theorem callAll?_flatMap (setters : List Setter) :
    callAll? (setters.flatMap Setter.tokens) = some setters := by
  induction setters with
  | nil => rfl
  | cons s rest ih =>
    obtain ⟨name, argument, htokens, hcall⟩ := call?_tokens s
    rw [List.flatMap_cons, htokens]
    simp [callAll?, parens, hcall, ih]

theorem settersOf?_setterTokens (setters : List Setter) :
    settersOf? (setterTokens setters) = some setters := by
  have hnew : setterTokens setters = pathTo ["sieve_compiler", "FieldMeta", "new"] ++
      parens [] :: setters.flatMap Setter.tokens := rfl
  rw [hnew, settersOf?, past?_append]
  exact callAll?_flatMap setters

theorem rulesOf?_setterTokens (setters : List Setter) :
    rulesOf? (setterTokens setters) = some (Setter.chain setters) := by
  rw [rulesOf?, settersOf?_setterTokens, Option.map_some]

/-! ## Kinds and arms -/

/-- The type whose kind is asked for under a class of types, and what comes after.  A type may have
conversions in it, so the last one counts. -/
def kind? (className : String) (ts : Tokens) : Option (Tokens × Tokens) := do
  let (front, back) ← splitLast? "as" ts
  let type ← past? [.punct '<' false] front
  let rest ← past?
    (pathTo ["sieve_compiler", className] ++ .punct '>' false :: pathTo ["KIND"]) back
  return (type, rest)

/-- What an arm for a name gives. -/
def armOf? (path : Tokens) : Tokens → Option (String × Tokens)
  | .literal name :: rest =>
    match past? (.punct '=' true :: .punct '>' false :: path) rest with
    | some [.group .parenthesis given] => name.meaning?.map (·, given)
    | _ => none
  | _ => none

/-- An arm that hands a field of the receiver to a function of a class of types. -/
def arm? (className function : String) (ts : Tokens) : Option Arm :=
  match armOf? (pathTo ["sieve_compiler", className, function]) ts with
  | some (name, [.punct '&' false, .ident "self", .punct '.' false, .ident field]) =>
    some ⟨name, field⟩
  | _ => none

def kindArm? (ts : Tokens) : Option KindArm := do
  let (name, given) ← armOf? (pathTo ["core", "option", "Option", "Some"]) ts
  let (type, []) ← kind? "ModelFieldType" given | none
  return ⟨name, type⟩

/-- The arms of a choice by the name of a field, of which the last one is for every other name. -/
def matchArms? (otherwise : Tokens) : Tokens → Option Tokens
  | [.ident "match", .ident "field", .group .brace arms] =>
    before? (.ident "_" :: .punct '=' true :: .punct '>' false :: otherwise ++ [.punct ',' false])
      arms
  | _ => none

theorem kind?_kindTokens (className : String) (hclass : code className = [.ident className])
    (has : className ≠ "as") (type rest : Tokens)
    (hrest : rest.any (Token.isIdent "as") = false) :
    kind? className (kindTokens className type ++ rest) = some (type, rest) := by
  have htokens : kindTokens className type ++ rest = ([.punct '<' false] ++ type) ++
      .ident "as" :: ((pathTo ["sieve_compiler", className] ++
        .punct '>' false :: pathTo ["KIND"]) ++ rest) := by
    simp only [kindTokens, libraryPath, hclass, List.append_assoc]
    rfl
  have hback : ((pathTo ["sieve_compiler", className] ++ .punct '>' false :: pathTo ["KIND"]) ++
      rest).any (Token.isIdent "as") = false := by
    simp [pathTo, Token.isIdent, hrest, has]
  simp only [htokens, kind?, splitLast?_append _ hback, past?_append, Option.bind_eq_bind,
    Option.bind_some, Option.pure_def]

/-- An arm as it is written: a name, and a function with what it is given. -/
def armPhrase (names : List String) (name : String) (given : Tokens) : Tokens :=
  .text name :: ((.punct '=' true :: .punct '>' false :: pathTo names) ++ [parens given])

theorem armOf?_armPhrase (names : List String) (name : String) (given : Tokens) :
    armOf? (pathTo names) (armPhrase names name given) = some (name, given) := by
  simp only [armPhrase, Token.text, armOf?, past?_append, parens, Literal.meaning?_ofText,
    Option.map_some]

theorem comma_notMem_pathTo (names : List String) : Token.punct ',' false ∉ pathTo names := by
  simp [pathTo]

theorem comma_notMem_armPhrase (names : List String) (name : String) (given : Tokens) :
    Token.punct ',' false ∉ armPhrase names name given := by
  simp [armPhrase, Token.text, parens, comma_notMem_pathTo]

section

variable {className function reader : String}

theorem Arm.tokens_eq
    (hreader : libraryPath reader = pathTo ["sieve_compiler", className, function]) (arm : Arm) :
    arm.tokens reader = armPhrase ["sieve_compiler", className, function] arm.name
      [.punct '&' false, .ident "self", .punct '.' false, .ident arm.field] ++
        [.punct ',' false] := by
  simp only [Arm.tokens, hreader, armPhrase, List.append_assoc, List.cons_append]
  rfl

theorem readEnded?_arm
    (hreader : libraryPath reader = pathTo ["sieve_compiler", className, function])
    (arms : List Arm) :
    readEnded? ',' (arm? className function) (arms.flatMap (Arm.tokens reader)) = some arms := by
  rw [funext (Arm.tokens_eq hreader)]
  refine readEnded?_flatMap (fun arm => comma_notMem_armPhrase _ _ _) (fun arm => ?_) arms
  rw [arm?, armOf?_armPhrase]
  rfl

end

theorem KindArm.tokens_eq (arm : KindArm) :
    arm.tokens = armPhrase ["core", "option", "Option", "Some"] arm.name
      (kindTokens "ModelFieldType" arm.type) ++ [.punct ',' false] := by
  simp only [KindArm.tokens, armPhrase, List.append_assoc, List.cons_append]
  rfl

theorem readEnded?_kindArm (arms : List KindArm) :
    readEnded? ',' kindArm? (arms.flatMap KindArm.tokens) = some arms := by
  rw [funext KindArm.tokens_eq]
  refine readEnded?_flatMap (fun arm => comma_notMem_armPhrase _ _ _) (fun arm => ?_) arms
  have hkind := kind?_kindTokens "ModelFieldType" rfl (by decide) arm.type [] rfl
  rw [List.append_nil] at hkind
  simp only [kindArm?, armOf?_armPhrase, hkind, Option.bind_eq_bind, Option.bind_some,
    Option.pure_def]

theorem matchArms?_matchTokens (arms otherwise : Tokens) :
    matchArms? otherwise (matchTokens arms otherwise) = some arms := by
  have hmatch : matchTokens arms otherwise = [.ident "match", .ident "field",
      braces (arms ++ (.ident "_" :: .punct '=' true :: .punct '>' false ::
        otherwise ++ [.punct ',' false]))] := by
    simp only [matchTokens, List.append_assoc]
    rfl
  rw [hmatch]
  exact before?_append _ _

/-- What the arms of a function say that chooses by the name of a field, and what comes after
it. -/
def function? {α : Type} (head otherwise : Tokens) (read? : Tokens → Option α) (ts : Tokens) :
    Option (List α × Tokens) := do
  let (body, rest) ← braced? head ts
  let arms ← matchArms? otherwise body
  return (← readEnded? ',' read? arms, rest)

theorem function?_append {α : Type} {read? : Tokens → Option α} {arms : Tokens} {xs : List α}
    (h : readEnded? ',' read? arms = some xs) (head otherwise rest : Tokens) :
    function? head otherwise read? (head ++ braces (matchTokens arms otherwise) :: rest) =
      some (xs, rest) := by
  simp only [function?, braced?_append, matchArms?_matchTokens, h, Option.bind_eq_bind,
    Option.bind_some, Option.pure_def]

/-! ## Heads -/

def selfParameter : Tokens := [.punct '&' false, .ident "self"]

def fieldParameter : Tokens :=
  [.ident "field", .punct ':' false, .punct '&' false, .ident "str"]

def functionHead (name : String) (parameters result : Tokens) : Tokens :=
  .ident "fn" :: .ident name :: .group .parenthesis parameters ::
    .punct '-' true :: .punct '>' false :: result

/-- The head of an accessor to values that borrow from the receiver. -/
def accessorHead (name type : String) : Tokens :=
  functionHead name (selfParameter ++ .punct ',' false :: fieldParameter)
    (pathTo ["sieve_compiler", type] ++
      [.punct '<' false, .punct '\'' true, .ident "_", .punct '>' false])

/-- The head of an implementation for the type with a name, `what` being the class with its
preposition or nothing. -/
def implementationHead (generics : Generics) (what : Tokens) (name : String) : Tokens :=
  .ident "impl" ::
    (generics.declared ++ what ++ .ident name :: generics.applied ++ generics.conditions)

theorem implTokens_eq (generics : Generics) (what : Tokens) (name : String) (body : Tokens) :
    implTokens generics what name body =
      implementationHead generics what name ++ [braces body] := by
  simp only [implTokens, implementationHead, List.append_assoc, List.cons_append]
  rfl

def instanceHead (generics : Generics) (className name : String) : Tokens :=
  implementationHead generics (pathTo ["sieve_compiler", className] ++ [.ident "for"]) name

/-! ## Filters -/

/-- A row: a name, the type that tells its kind, and the rules. -/
def row? (ts : Tokens) : Option FilterRow :=
  match past? (pathTo ["sieve_compiler", "FilterField", "new"]) ts with
  | some [.group .parenthesis (.literal name :: .punct ',' false :: rest)] => do
    let name ← name.meaning?
    let (type, rest) ← kind? "FilterFieldType" rest
    let setters ← settersOf? (← before? [.punct ',' false] (← past? [.punct ',' false] rest))
    return { name, type, setters }
  | _ => none

/-- There is no conversion in rules. -/
theorem any_isIdent_setterTokens (setters : List Setter) :
    (setterTokens setters).any (Token.isIdent "as") = false := by
  have hsetter : ∀ s ∈ setters, s.tokens.any (Token.isIdent "as") = false := by
    intro s _
    obtain ⟨name, argument, htokens, hcall⟩ := call?_tokens s
    have hname : name ≠ "as" := by
      rintro rfl
      cases hcall
    simp [htokens, parens, Token.isIdent, hname]
  have hnew : (libraryPath "FieldMeta :: new" ++ [parens []]).any (Token.isIdent "as") = false :=
    rfl
  rw [setterTokens, List.any_append, hnew, Bool.false_or, List.any_flatMap, List.any_eq_false]
  simpa using hsetter

theorem FilterRow.tokens_eq (row : FilterRow) :
    row.tokens = pathTo ["sieve_compiler", "FilterField", "new"] ++
      [parens (.text row.name :: .punct ',' false :: (kindTokens "FilterFieldType" row.type ++
        ([.punct ',' false] ++ (setterTokens row.setters ++ [.punct ',' false]))))] := by
  simp only [FilterRow.tokens, List.append_assoc]
  rfl

theorem row?_tokens (row : FilterRow) : row? row.tokens = some row := by
  have hrest : ([Token.punct ',' false] ++ (setterTokens row.setters ++
      [Token.punct ',' false])).any (Token.isIdent "as") = false := by
    rw [List.any_append, List.any_append, any_isIdent_setterTokens]
    rfl
  rw [FilterRow.tokens_eq, row?, past?_append]
  simp only [parens, Token.text, Literal.meaning?_ofText,
    kind?_kindTokens "FilterFieldType" rfl (by decide) row.type _ hrest, past?_append,
    before?_append, settersOf?_setterTokens, Option.bind_eq_bind, Option.bind_some, Option.pure_def]

def pagingHead : Tokens :=
  functionHead "paging" selfParameter (pathTo ["sieve_compiler", "Paging"])

/-- The field of the function for the page, if there is one. -/
def paging? (ts : Tokens) : Option (Option String) :=
  if ts.isEmpty then some none
  else
    match braced? pagingHead ts with
    | some ([.ident "self", .punct '.' false, .ident field], []) => some (some field)
    | _ => none

theorem paging?_pagingTokens (paging : Option String) :
    paging? ((paging.map pagingTokens).getD []) = some paging := by
  cases paging with
  | none => rfl
  | some field =>
    have hpaging : pagingTokens field =
        pagingHead ++ [braces [.ident "self", .punct '.' false, .ident field]] := rfl
    rw [Option.map_some, Option.getD_some, hpaging, paging?, braced?_append]
    rfl

/-- What stands before the rows of a table. -/
def tableHead : Tokens :=
  [.ident "FIELDS", .punct ':' false, .punct '&' false, .punct '\'' true, .ident "static",
    .group .bracket (pathTo ["sieve_compiler", "FilterField"]), .punct '=' false, .punct '&' false]

namespace GeneratedFilter

/-- The filter that is implemented for the type with a name and generic parameters. -/
def read? (name : String) (generics : Generics) (ts : Tokens) : Option GeneratedFilter := do
  let (body, []) ← braced? (instanceHead generics "Filter" name) ts | none
  let (front, back) ← splitLast? "const" body
  let front ← past? [.ident "type", .ident "Model", .punct '=' false] front
  let model ← before? [.punct ';' false] front
  let .group .bracket table :: .punct ';' false :: rest ← past? tableHead back | none
  let rows ← readBetween? ',' row? table
  let (arms, rest) ← function? (accessorHead "filter_value" "FilterValue")
    (pathTo ["sieve_compiler", "FilterValue", "None"]) (arm? "FilterFieldType" "filter_value") rest
  let paging ← paging? rest
  return { rows, arms, paging, name, generics, model }

def table (g : GeneratedFilter) : Tokens :=
  [Token.punct ',' false].intercalate (g.rows.map FilterRow.tokens)

theorem readBetween?_table (g : GeneratedFilter) :
    readBetween? ',' row? g.table = some g.rows := by
  refine readBetween?_intercalate (fun row => ?_) row?_tokens rfl g.rows
  simp [FilterRow.tokens_eq, comma_notMem_pathTo, parens]

/-- What stands after the table. -/
def accessors (g : GeneratedFilter) : Tokens :=
  accessorHead "filter_value" "FilterValue" ++
    braces (matchTokens (g.arms.flatMap (Arm.tokens "FilterFieldType :: filter_value"))
      (pathTo ["sieve_compiler", "FilterValue", "None"])) ::
    (g.paging.map pagingTokens).getD []

theorem tokens_eq (g : GeneratedFilter) :
    g.tokens = instanceHead g.generics "Filter" g.name ++ [braces
      (([.ident "type", .ident "Model", .punct '=' false] ++ (g.model ++ [.punct ';' false])) ++
        .ident "const" :: (tableHead ++ brackets g.table :: .punct ';' false :: g.accessors))] := by
  simp only [GeneratedFilter.tokens, implTokens_eq, List.append_assoc]
  rfl

/-- The table is the last constant. -/
theorem any_isIdent_accessors (g : GeneratedFilter) :
    (tableHead ++ brackets g.table :: .punct ';' false :: g.accessors).any
      (Token.isIdent "const") = false := by
  unfold accessors
  cases g.paging <;> rfl

/-- **The code of a filter reads back.** -/
theorem read?_tokens (g : GeneratedFilter) : read? g.name g.generics g.tokens = some g := by
  have harms : readEnded? ',' (arm? "FilterFieldType" "filter_value")
      (g.arms.flatMap (Arm.tokens "FilterFieldType :: filter_value")) = some g.arms :=
    readEnded?_arm rfl g.arms
  rw [tokens_eq, read?, braced?_append]
  simp only [Option.bind_eq_bind, Option.bind_some, splitLast?_append _ g.any_isIdent_accessors,
    past?_append, before?_append]
  simp only [brackets, readBetween?_table, accessors, function?_append harms, paging?_pagingTokens,
    Option.bind_some, Option.pure_def]

end GeneratedFilter

/-! ## Records -/

def kindHead : Tokens :=
  functionHead "field_kind" fieldParameter
    (pathTo ["core", "option", "Option"] ++ .punct '<' false ::
      (pathTo ["sieve_compiler", "FieldKind"] ++ [.punct '>' false]))

/-- A constant with its documentation. -/
def constant? : Tokens → Option Constant
  | .punct '#' false :: .group .bracket [.ident "doc", .punct '=' false, .literal _] ::
      .ident "pub" :: .ident "const" :: .ident ident :: rest =>
    match past? [.punct ':' false, .punct '&' false, .punct '\'' true, .ident "static",
      .ident "str", .punct '=' false] rest with
    | some [.literal name] => name.meaning?.map (⟨ident, ·⟩)
    | _ => none
  | _ => none

/-- A constant as it is written, with a literal for its documentation. -/
def constantPhrase (doc : Literal) (c : Constant) : Tokens :=
  .punct '#' false :: brackets [.ident "doc", .punct '=' false, .literal doc] :: .ident "pub" ::
    .ident "const" :: .ident c.ident :: ([.punct ':' false, .punct '&' false, .punct '\'' true,
      .ident "static", .ident "str", .punct '=' false] ++ [.text c.name])

theorem constant?_constantPhrase (doc : Literal) (c : Constant) :
    constant? (constantPhrase doc c) = some c := by
  simp only [constantPhrase, brackets, constant?, past?_append, Token.text,
    Literal.meaning?_ofText, Option.map_some]

theorem exists_constant_tokens_eq :
    ∃ doc, Constant.tokens = fun c => constantPhrase doc c ++ [.punct ';' false] :=
  ⟨_, rfl⟩

theorem readEnded?_constant (constants : List Constant) :
    readEnded? ';' constant? (constants.flatMap Constant.tokens) = some constants := by
  obtain ⟨doc, htokens⟩ := exists_constant_tokens_eq
  rw [htokens]
  refine readEnded?_flatMap (fun c => ?_) (constant?_constantPhrase doc) constants
  simp [constantPhrase, brackets, Token.text]

namespace GeneratedModel

/-- The record that is implemented for the type with a name and generic parameters. -/
def read? (name : String) (generics : Generics) (ts : Tokens) : Option GeneratedModel := do
  let (constants, rest) ← braced? (implementationHead generics [] name) ts
  let constants ← readEnded? ';' constant? constants
  let (body, []) ← braced? (instanceHead generics "Model" name) rest | none
  let (kindArms, rest) ←
    function? kindHead (pathTo ["core", "option", "Option", "None"]) kindArm? body
  let (valueArms, []) ← function? (accessorHead "field_value" "Value")
    (pathTo ["sieve_compiler", "Value", "None"]) (arm? "ModelFieldType" "model_value") rest | none
  return { constants, kindArms, valueArms, name, generics }

theorem tokens_eq (m : GeneratedModel) :
    m.tokens = implementationHead m.generics [] m.name ++
      braces (m.constants.flatMap Constant.tokens) ::
      (instanceHead m.generics "Model" m.name ++ [braces
        (kindHead ++ braces (matchTokens (m.kindArms.flatMap KindArm.tokens)
          (pathTo ["core", "option", "Option", "None"])) ::
        (accessorHead "field_value" "Value" ++ [braces (matchTokens
          (m.valueArms.flatMap (Arm.tokens "ModelFieldType :: model_value"))
          (pathTo ["sieve_compiler", "Value", "None"]))]))]) := by
  simp only [GeneratedModel.tokens, implTokens_eq, List.append_assoc]
  rfl

/-- **The code of a record reads back.** -/
theorem read?_tokens (m : GeneratedModel) : read? m.name m.generics m.tokens = some m := by
  have hvalues : readEnded? ',' (arm? "ModelFieldType" "model_value")
      (m.valueArms.flatMap (Arm.tokens "ModelFieldType :: model_value")) = some m.valueArms :=
    readEnded?_arm rfl m.valueArms
  simp only [tokens_eq, read?, braced?_append, readEnded?_constant,
    function?_append (readEnded?_kindArm m.kindArms), function?_append hvalues, Option.bind_eq_bind,
    Option.bind_some, Option.pure_def]

end GeneratedModel

end Criteria.Derive
