import Criteria.Derive.Code

/-!
# Directives and filters share their keywords

A word in a directive is looked up in a table, a word that is read for a filter is matched against
alternatives, and generated code spells out a path.  In each of the four families they agree on
every text (`keywords_coherent`).

What holds of one family holds of all: a vocabulary is coherent as soon as its reader follows its
table, no word stands in the table twice, and names and paths are in order (`Vocabulary.coherent`).
-/

namespace Criteria.Derive

open Criteria.Source

variable {α : Type}

/-! ## Folding -/

/-- A character with an ASCII capital made small. -/
def foldChar (c : Char) : Char :=
  if 'A' ≤ c ∧ c ≤ 'Z' then Char.ofNat (c.toNat + 32) else c

theorem toLower_eq_foldChar (c : Char) : c.toLower = foldChar c := by
  unfold Char.toLower foldChar
  by_cases h : 'A' ≤ c ∧ c ≤ 'Z'
  · have hmax : c.val.toNat ≤ 90 := h.2
    have hsmall : c.val.toNat + 32 < 123 := by omega
    have hvalid : (c.toNat + 32).isValidChar := Or.inl (Nat.lt_trans hsmall (by decide))
    rw [if_pos h]
    -- both sides are built from a code point and a proof that it is one
    refine (dif_pos h).trans (Eq.trans ?_ (dif_pos hvalid).symm)
    refine Char.ext (UInt32.toNat_inj.1 ?_)
    show (c.val + 32).toNat = c.val.toNat + 32
    rw [UInt32.toNat_add]
    exact Nat.mod_eq_of_lt (Nat.lt_trans hsmall (by decide))
  · rw [if_neg h]
    exact dif_neg h

theorem foldAscii_toList (s : String) : (foldAscii s).toList = s.toList.map foldChar := by
  unfold foldAscii
  rw [String.toList_ofList]
  exact List.map_congr_left fun c _ => toLower_eq_foldChar c

/-- A character outside ASCII is left where it stands. -/
theorem mem_foldAscii_of_foreign {s : String} {c : Char} (hc : c ∈ s.toList)
    (hforeign : 128 ≤ c.toNat) : c ∈ (foldAscii s).toList := by
  rw [foldAscii_toList]
  refine List.mem_map.2 ⟨c, hc, if_neg ?_⟩
  rintro ⟨-, hmax⟩
  have : c.toNat ≤ 90 := hmax
  omega

/-! ## Tables -/

namespace Spellings

/-- Whether a table has a word as a spelling of a choice. -/
def Lists (table : Spellings α) (choice : α) (word : String) : Prop :=
  ∃ row ∈ table, row.1 = choice ∧ word ∈ row.2

instance [DecidableEq α] (table : Spellings α) (choice : α) (word : String) :
    Decidable (table.Lists choice word) :=
  inferInstanceAs (Decidable (∃ row ∈ table, row.1 = choice ∧ word ∈ row.2))

/-- Whether all words of a table are within ASCII. -/
def isAscii (table : Spellings α) : Bool :=
  table.words.all fun word => word.toList.all fun c => decide (c.toNat < 128)

theorem toNat_lt_of_isAscii {table : Spellings α} (h : table.isAscii = true) {word : String}
    (hword : word ∈ table.words) {c : Char} (hc : c ∈ word.toList) : c.toNat < 128 :=
  of_decide_eq_true (List.all_eq_true.1 (List.all_eq_true.1 h word hword) c hc)

theorem mem_words_iff {table : Spellings α} {word : String} :
    word ∈ table.words ↔ ∃ choice, table.Lists choice word := by
  unfold words Lists
  rw [List.mem_flatMap]
  constructor
  · rintro ⟨row, hrow, hword⟩
    exact ⟨row.1, row, hrow, rfl, hword⟩
  · rintro ⟨choice, row, hrow, -, hword⟩
    exact ⟨row, hrow, hword⟩

theorem lists_cons_iff {table : Spellings α} {row : α × List String} {choice : α}
    {word : String} :
    Lists (row :: table) choice word ↔
      (row.1 = choice ∧ word ∈ row.2) ∨ table.Lists choice word := by
  simp only [Lists, List.mem_cons, or_and_right, exists_or, exists_eq_left]

theorem find?_eq_none_iff {table : Spellings α} {s : String} :
    table.find? s = none ↔ foldAscii s ∉ table.words := by
  unfold find? words
  rw [Option.map_eq_none_iff, List.find?_eq_none, List.mem_flatMap, not_exists]
  refine forall_congr' fun row => ?_
  rw [List.contains_iff_mem, not_and]

/-- Where no word stands twice, the first row that has a word is the only one. -/
theorem find?_eq_some_iff {table : Spellings α} (h : table.words.Nodup) {s : String} {choice : α} :
    table.find? s = some choice ↔ table.Lists choice (foldAscii s) := by
  induction table with
  | nil => simp [find?, Lists]
  | cons row table ih =>
    have hwords : (row.2 ++ words table).Nodup := h
    obtain ⟨-, hrest, happart⟩ := List.nodup_append.1 hwords
    rw [lists_cons_iff]
    by_cases hmem : foldAscii s ∈ row.2
    · have hnot : ¬ Lists table choice (foldAscii s) := fun hlists =>
        happart _ hmem _ (mem_words_iff.2 ⟨choice, hlists⟩) rfl
      simp only [find?, List.find?_cons, List.contains_iff_mem.2 hmem, Option.map_some,
        Option.some.injEq, hmem, and_true, hnot, or_false]
    · have hcontains : row.2.contains (foldAscii s) = false :=
        Bool.eq_false_iff.2 (mt List.contains_iff_mem.1 hmem)
      rw [← ih hrest]
      simp only [find?, List.find?_cons, hcontains, hmem, and_false, false_or]

end Spellings

/-! ## Vocabularies -/

/-- A family of keywords, as all that deals with it has it. -/
structure Vocabulary (α : Type) where
  family : KeywordFamily
  /-- The words of directives. -/
  spellings : Spellings α
  /-- Reads a word for a filter. -/
  parse : String → Except Fault α
  /-- The canonical word. -/
  name : α → String
  /-- Where the choices are found in generated code. -/
  typePath : String
  /-- The name of a choice there. -/
  choiceName : α → String
  /-- What generated code has for a choice. -/
  tokens : α → Tokens

namespace Vocabulary

/-- The path to a choice in generated code. -/
def path (v : Vocabulary α) (choice : α) : Tokens :=
  libraryPath v.typePath ++ [.ident (v.choiceName choice)]

/-- What a directive makes of a word, whatever the rule that it is given for. -/
def read (v : Vocabulary α) (rule s : String) : Except DirectiveError α :=
  wordValue v.family v.spellings rule (.text s)

/-- Whether directives, filters and generated code agree on a family. -/
structure Coherent (v : Vocabulary α) : Prop where
  /-- A directive takes a word for what a filter takes it for, and refuses it with a filter. -/
  read_eq : ∀ rule s, v.read rule s = (v.parse s).mapError fun _ => .unknownWord v.family s
  /-- The code for a word of a directive is the path to the choice that a filter reads. -/
  code_iff : ∀ rule s choice,
    (v.read rule s).map v.tokens = .ok (v.path choice) ↔ v.parse s = .ok choice
  /-- A word is read as a choice exactly if it is, folded, one of its spellings. -/
  parse_iff : ∀ s choice, v.parse s = .ok choice ↔ v.spellings.Lists choice (foldAscii s)
  /-- Any other word is refused, and the fault has it unfolded. -/
  fault_iff : ∀ s e,
    v.parse s = .error e ↔ e = .unknownKeyword v.family s ∧ foldAscii s ∉ v.spellings.words
  name_listed : ∀ choice, v.spellings.Lists choice (v.name choice)
  /-- A word with a character outside ASCII is none of the spellings. -/
  foreign : ∀ s c, c ∈ s.toList → 128 ≤ c.toNat → foldAscii s ∉ v.spellings.words

theorem coherent (v : Vocabulary α) (hnodup : v.spellings.words.Nodup)
    (hascii : v.spellings.isAscii = true)
    (hparse : ∀ s, v.parse s =
      (v.spellings.find? s).elim (.error (.unknownKeyword v.family s)) .ok)
    (hname : ∀ choice, v.spellings.Lists choice (v.name choice))
    (htokens : ∀ choice, v.tokens choice = v.path choice)
    (hchoice : ∀ choice choice', v.choiceName choice = v.choiceName choice' → choice = choice') :
    v.Coherent := by
  have hread : ∀ rule s, v.read rule s = (v.parse s).mapError fun _ => .unknownWord v.family s := by
    intro rule s
    have htext : textValue rule (.text s) = .ok s := rfl
    rw [hparse]
    simp only [read, wordValue, htext]
    cases v.spellings.find? s <;> rfl
  have hsome : ∀ s choice, v.parse s = .ok choice ↔ v.spellings.find? s = some choice := by
    intro s choice
    rw [hparse]
    cases v.spellings.find? s <;> simp
  have hpath : ∀ choice choice', v.tokens choice = v.path choice' ↔ choice = choice' := by
    intro choice choice'
    rw [htokens]
    constructor
    · intro h
      have hident := List.append_cancel_left h
      simp only [List.cons.injEq, Token.ident.injEq, and_true] at hident
      exact hchoice choice choice' hident
    · rintro rfl
      rfl
  refine ⟨hread, ?_, ?_, ?_, hname, ?_⟩
  · intro rule s choice
    rw [hread]
    cases v.parse s with
    | error e =>
      refine iff_of_false (fun h => ?_) (fun h => ?_)
      · cases h
      · cases h
    | ok found =>
      show Except.ok (v.tokens found) = .ok (v.path choice) ↔ _
      rw [Except.ok.injEq, Except.ok.injEq, hpath]
  · intro s choice
    rw [hsome, Spellings.find?_eq_some_iff hnodup]
  · intro s e
    rw [hparse, ← Spellings.find?_eq_none_iff]
    cases v.spellings.find? s with
    | none => simp [eq_comm]
    | some choice => simp
  · intro s c hc hforeign hmem
    have hlt := Spellings.toNat_lt_of_isAscii hascii hmem (mem_foldAscii_of_foreign hc hforeign)
    omega

end Vocabulary

/-! ## The four families -/

def caseVocabulary : Vocabulary Case where
  family := .case
  spellings := caseSpellings
  parse := Case.parse
  name := Case.name
  typePath := "Case ::"
  choiceName := Case.inspect
  tokens := caseTokens

def textMatchVocabulary : Vocabulary TextMatch where
  family := .textMatch
  spellings := textMatchSpellings
  parse := TextMatch.parse
  name := TextMatch.name
  typePath := "TextMatch ::"
  choiceName := TextMatch.inspect
  tokens := textMatchTokens

def dateOpVocabulary : Vocabulary DateOp where
  family := .dateOp
  spellings := dateOpSpellings
  parse := DateOp.parse
  name := DateOp.name
  typePath := "DateOp ::"
  choiceName := DateOp.inspect
  tokens := dateOpTokens

def logicVocabulary : Vocabulary Logic where
  family := .logic
  spellings := logicSpellings
  parse := Logic.parse
  name := Logic.name
  typePath := "Logic ::"
  choiceName := Logic.inspect
  tokens := logicTokens

theorem find?_caseSpellings (s : String) : caseSpellings.find? s = Case.ofKeyword? s := by
  unfold Spellings.find? Case.ofKeyword?
  generalize foldAscii s = word
  split
  all_goals simp_all [caseSpellings]

theorem find?_textMatchSpellings (s : String) :
    textMatchSpellings.find? s = TextMatch.ofKeyword? s := by
  unfold Spellings.find? TextMatch.ofKeyword?
  generalize foldAscii s = word
  split
  all_goals simp_all [textMatchSpellings]

theorem find?_dateOpSpellings (s : String) : dateOpSpellings.find? s = DateOp.ofKeyword? s := by
  unfold Spellings.find? DateOp.ofKeyword?
  generalize foldAscii s = word
  split
  all_goals simp_all [dateOpSpellings]

theorem find?_logicSpellings (s : String) : logicSpellings.find? s = Logic.ofKeyword? s := by
  unfold Spellings.find? Logic.ofKeyword?
  generalize foldAscii s = word
  split
  all_goals simp_all [logicSpellings]

/-- **The keywords of directives and of filters are one language.**  In each family a directive
takes exactly the words that are read for a filter, and the code that is generated for one is the
path to the very choice that is read; these words are the spellings of the family, up to ASCII
capitals and nothing else; the canonical word of a choice is one of its own spellings; and a word
that is refused stands in the fault as it was. -/
theorem keywords_coherent :
    (∀ s : String, (foldAscii s).toList = s.toList.map foldChar) ∧
      caseVocabulary.Coherent ∧ textMatchVocabulary.Coherent ∧ dateOpVocabulary.Coherent ∧
      logicVocabulary.Coherent := by
  refine ⟨foldAscii_toList, ?_, ?_, ?_, ?_⟩
  · refine caseVocabulary.coherent (by decide) (by decide) (fun s => ?_) (fun c => ?_)
      (fun _ => rfl) (fun c d => ?_)
    · exact congrArg (fun found => Option.elim found _ _) (find?_caseSpellings s).symm
    · cases c <;> decide
    · cases c <;> cases d <;> decide
  · refine textMatchVocabulary.coherent (by decide) (by decide) (fun s => ?_) (fun c => ?_)
      (fun _ => rfl) (fun c d => ?_)
    · exact congrArg (fun found => Option.elim found _ _) (find?_textMatchSpellings s).symm
    · cases c <;> decide
    · cases c <;> cases d <;> decide
  · refine dateOpVocabulary.coherent (by decide) (by decide) (fun s => ?_) (fun c => ?_)
      (fun _ => rfl) (fun c d => ?_)
    · exact congrArg (fun found => Option.elim found _ _) (find?_dateOpSpellings s).symm
    · cases c <;> decide
    · cases c <;> cases d <;> decide
  · refine logicVocabulary.coherent (by decide) (by decide) (fun s => ?_) (fun c => ?_)
      (fun _ => rfl) (fun c d => ?_)
    · exact congrArg (fun found => Option.elim found _ _) (find?_logicSpellings s).symm
    · cases c <;> decide
    · cases c <;> cases d <;> decide

end Criteria.Derive
