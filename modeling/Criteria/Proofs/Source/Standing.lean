import Criteria.Proofs.Except
import Criteria.Proofs.Source.Identifier
import Criteria.Proofs.Source.Parser
import Criteria.Source.Reading

/-!
# Texts that are identifiers

The lexer finds one identifier and nothing else in a text exactly if the text is one with blanks
and comments around it (`lex?_eq_identifier_iff`), and this is all that a text may be to be taken
for an identifier (`identifier?_eq_some_iff`).
-/

namespace Criteria.Source

/-! ## Lexemes -/

theorem lexemes?_of_gap {cs : List Char} (h : Gap cs []) (fuel : Nat) :
    lexemes? (fuel + 1) cs = some [] := by
  have hnil : ∀ fuel, skipBlanks fuel [] = [] := by
    intro fuel
    cases fuel <;> rfl
  rw [lexemes?, skipBlanks_of_gap h hnil (Nat.le_refl _)]
  rfl

theorem lexemes?_identifier {cs x after : List Char} (hx : IsIdentifier x)
    (hbefore : Gap cs (x ++ after)) (hafter : Gap after []) (fuel : Nat) :
    lexemes? (fuel + 2) cs = some [.leaf (.ident (String.ofList x))] := by
  have hleaf := readLeaf?_append hx (beginsOutside_of_gap hafter)
  obtain ⟨c, tail, rfl, hc⟩ := hx.exists_cons
  have hne : ∀ d ∈ nameless, c ≠ d := fun d => ne_of_isIdentStart hc
  have hslash : c ≠ '/' := hne '/' (by decide)
  have hdoc : readDoc? (c :: tail ++ after) = none := by
    rw [List.cons_append, readDoc?]
    · intro mark rest hcs
      exact hslash (List.cons.inj hcs).1
    · intro mark rest hcs
      exact hslash (List.cons.inj hcs).1
  have hdelimiter : delimiter? c = none := by
    unfold delimiter?
    split
    · exact absurd rfl (hne '(' (by decide))
    · exact absurd rfl (hne ')' (by decide))
    · exact absurd rfl (hne '[' (by decide))
    · exact absurd rfl (hne ']' (by decide))
    · exact absurd rfl (hne '\x7b' (by decide))
    · exact absurd rfl (hne '\x7d' (by decide))
    · rfl
  have hstop := skipBlanks_of_head hslash (isSourceBlank_of_isIdentStart hc) (tail ++ after)
  rw [lexemes?, skipBlanks_of_gap hbefore hstop (Nat.le_refl _), hdoc]
  simp only [List.cons_append] at hleaf ⊢
  simp only [hdelimiter, ite_self, hleaf, lexemes?_of_gap hafter fuel, Option.map_some]

/-- A documentation comment and a delimiter are no identifiers. -/
theorem lexemes?_cases {fuel : Nat} {cs : List Char} {ls : List Lexeme}
    (h : lexemes? (fuel + 1) cs = some ls) :
    (ls = [] ∧ Gap cs []) ∨
      (∃ start t rest more, Gap cs start ∧ readLeaf? start = some (t, rest) ∧
        lexemes? fuel rest = some more ∧ ls = .leaf t :: more) ∨
      ∃ first more, ls = first :: more ∧ ∀ name, first ≠ .leaf (.ident name) := by
  have hgap := gap_skipBlanks cs.length cs
  rw [lexemes?] at h
  generalize skipBlanks cs.length cs = start at h hgap
  split at h
  · next inner content rest hdoc =>
    refine .inr (.inr ?_)
    split at h
    · obtain ⟨more, -, rfl⟩ := Option.map_eq_some_iff.1 h
      exact ⟨_, _, rfl, nofun⟩
    · cases h
  split at h
  · cases h
    exact .inl ⟨rfl, hgap⟩
  · next c tail =>
    split at h
    · next d hdelimiter =>
      refine .inr (.inr ?_)
      obtain ⟨more, -, rfl⟩ := Option.map_eq_some_iff.1 h
      refine ⟨d, more, rfl, ?_⟩
      rintro name rfl
      split at hdelimiter
      · cases hdelimiter
      · unfold delimiter? at hdelimiter
        split at hdelimiter <;> cases hdelimiter
    · split at h
      · next t rest hleaf =>
        obtain ⟨more, hmore, rfl⟩ := Option.map_eq_some_iff.1 h
        exact .inr (.inl ⟨_, t, rest, more, hgap, hleaf, hmore, rfl⟩)
      · cases h

theorem gap_of_lexemes? {fuel : Nat} {cs : List Char} (h : lexemes? fuel cs = some []) :
    Gap cs [] := by
  cases fuel with
  | zero => cases h
  | succ fuel =>
    obtain ⟨-, hgap⟩ | ⟨_, _, _, _, -, -, -, hcons⟩ | ⟨_, _, hcons, -⟩ := lexemes?_cases h
    · exact hgap
    · cases hcons
    · cases hcons

theorem gap_of_lexemes?_identifier {fuel : Nat} {cs : List Char} {name : String}
    (h : lexemes? fuel cs = some [.leaf (.ident name)]) :
    ∃ x after, name = String.ofList x ∧ IsIdentifier x ∧ Gap cs (x ++ after) ∧ Gap after [] := by
  cases fuel with
  | zero => cases h
  | succ fuel =>
    obtain ⟨hnil, -⟩ | ⟨start, t, rest, more, hbefore, hleaf, hmore, hcons⟩ |
      ⟨first, more, hcons, hfirst⟩ := lexemes?_cases h
    · cases hnil
    · cases hcons
      obtain ⟨x, hx, rfl, rfl⟩ := isIdentifier_of_readLeaf? hleaf
      exact ⟨x, rest, rfl, hx, hbefore, gap_of_lexemes? hmore⟩
    · cases hcons
      exact absurd rfl (hfirst name)

/-! ## Trees -/

/-- What is put together goes on from the trees before the outermost open group. -/
theorem assemble?_append (ls : List Lexeme) :
    (∀ {done ts}, assemble? [] done ls = some ts →
      ∃ more, ts = done.reverse ++ more ∧ (more = [] → ls = [])) ∧
    ∀ around {d before done ts}, assemble? (around ++ [(d, before)]) done ls = some ts →
      ∃ inside more, ts = before.reverse ++ .group d inside :: more := by
  induction ls with
  | nil =>
    refine ⟨fun h => ⟨[], ?_, fun _ => rfl⟩, fun around _ _ _ _ h => ?_⟩
    · cases h
      rw [List.append_nil]
    · cases around <;> cases h
  | cons l ls ih =>
    cases l with
    | leaf t =>
      refine ⟨fun h => ?_, fun around _ _ _ _ h => ih.2 around h⟩
      obtain ⟨more, rfl, -⟩ := ih.1 h
      exact ⟨t :: more, by simp, nofun⟩
    | opening d =>
      refine ⟨fun {done _} h => ?_, fun around _ _ done _ h => ih.2 ((d, done) :: around) h⟩
      obtain ⟨inside, more, rfl⟩ := ih.2 [] h
      exact ⟨.group d inside :: more, rfl, nofun⟩
    | closing d =>
      refine ⟨nofun, fun around opened before done ts h => ?_⟩
      cases around with
      | nil =>
        rw [List.nil_append, assemble?] at h
        split at h
        · next hopened =>
          obtain ⟨more, rfl, -⟩ := ih.1 h
          exact ⟨done.reverse, more, by simp [hopened]⟩
        · cases h
      | cons outer around =>
        rw [List.cons_append, assemble?] at h
        split at h
        · exact ih.2 around h
        · cases h

theorem assemble?_eq_identifier_iff {ls : List Lexeme} {name : String} :
    assemble? [] [] ls = some [.ident name] ↔ ls = [.leaf (.ident name)] := by
  constructor
  · intro h
    cases ls with
    | nil => cases h
    | cons l ls =>
      cases l with
      | leaf t =>
        obtain ⟨more, hmore, hnil⟩ := (assemble?_append ls).1 h
        obtain ⟨rfl, rfl⟩ := List.cons.inj hmore
        rw [hnil rfl]
      | opening d =>
        obtain ⟨inside, more, hmore⟩ := (assemble?_append ls).2 [] h
        cases hmore
      | closing d => cases h
  · rintro rfl
    rfl

/-! ## A text that is an identifier -/

/-- An identifier stands alone in a text: there is nothing around it but blanks and comments, and
perhaps a byte order mark in front of all. -/
def StandsAlone (name s : String) : Prop :=
  ∃ mark cs after, (mark = [] ∨ mark = ['\uFEFF']) ∧ s.toList = mark ++ cs ∧
    IsIdentifier name.toList ∧ Gap cs (name.toList ++ after) ∧ Gap after []

theorem lex?_eq_bind {s : String} {mark cs : List Char} (hmark : mark = [] ∨ mark = ['\uFEFF'])
    (hs : s.toList = mark ++ cs) (hcs : cs.head? ≠ some '\uFEFF') :
    lex? s = (lexemes? (cs.length + 1) cs).bind (assemble? [] []) := by
  unfold lex?
  rw [hs]
  rcases hmark with rfl | rfl
  · rw [List.nil_append]
    split
    · next rest => exact absurd rfl hcs
    · rfl
  · rfl

theorem exists_mark_of_lex? {s : String} {ts : Tokens} (h : lex? s = some ts) :
    ∃ mark cs ls, (mark = [] ∨ mark = ['\uFEFF']) ∧ s.toList = mark ++ cs ∧
      lexemes? (cs.length + 1) cs = some ls ∧ assemble? [] [] ls = some ts := by
  unfold lex? at h
  obtain ⟨ls, hls, hts⟩ := Option.bind_eq_some_iff.1 h
  split at hls
  · next rest hs => exact ⟨['\uFEFF'], rest, ls, .inr rfl, hs, hls, hts⟩
  · exact ⟨[], s.toList, ls, .inl rfl, rfl, hls, hts⟩

theorem lex?_eq_identifier_iff {s name : String} :
    lex? s = some [.ident name] ↔ StandsAlone name s := by
  constructor
  · intro h
    obtain ⟨mark, cs, ls, hmark, hs, hls, hts⟩ := exists_mark_of_lex? h
    rw [assemble?_eq_identifier_iff.1 hts] at hls
    obtain ⟨x, after, rfl, hx, hbefore, hafter⟩ := gap_of_lexemes?_identifier hls
    refine ⟨mark, cs, after, hmark, hs, ?_⟩
    rw [String.toList_ofList]
    exact ⟨hx, hbefore, hafter⟩
  · rintro ⟨mark, cs, after, hmark, hs, hx, hbefore, hafter⟩
    obtain ⟨c, tail, hname, hc⟩ := hx.exists_cons
    have hhead : ∃ d rest, cs = d :: rest ∧ d ≠ '\uFEFF' := by
      rcases hbefore.eq_or_exists_cons with rfl | ⟨d, rest, rfl, hd⟩
      · exact ⟨c, tail ++ after, by rw [hname, List.cons_append],
          ne_of_isIdentStart hc (by decide)⟩
      · refine ⟨d, rest, rfl, ?_⟩
        rintro rfl
        rcases hd with hblank | hslash
        · cases hblank
        · cases hslash
    obtain ⟨d, rest, rfl, hd⟩ := hhead
    rw [lex?_eq_bind hmark hs (by simpa using hd), List.length_cons,
      lexemes?_identifier hx hbefore hafter, String.ofList_toList]
    rfl

theorem StandsAlone.unique {a b s : String} (ha : StandsAlone a s) (hb : StandsAlone b s) :
    a = b := by
  have h := (lex?_eq_identifier_iff.2 ha).symm.trans (lex?_eq_identifier_iff.2 hb)
  simpa using h

/-- Characters that may stand around an identifier. -/
def isAround (c : Char) : Bool :=
  isSourceBlank c || c == '/' || c == '\uFEFF'

theorem isAround_eq_false_iff {c : Char} :
    isAround c = false ↔
      sourceBlanks.has c.toNat = false ∧ c.toNat ≠ 47 ∧ c.toNat ≠ 65279 := by
  have hslash : c.toNat = 47 ↔ c = '/' := Char.toNat_inj (d := '/')
  have hmark : c.toNat = 65279 ↔ c = '\uFEFF' := Char.toNat_inj (d := '\uFEFF')
  rw [isAround, Bool.or_eq_false_iff, Bool.or_eq_false_iff, beq_eq_false_iff_ne,
    beq_eq_false_iff_ne, and_assoc, isSourceBlank, ne_eq, ne_eq, ← hslash, ← hmark]

theorem Gap.eq_of_bare {cs rest : List Char} (h : Gap cs rest)
    (hcs : ∀ c ∈ cs, isAround c = false) : cs = rest := by
  rcases h.eq_or_exists_cons with rfl | ⟨c, tail, rfl, hc⟩
  · rfl
  · have hbare := hcs c List.mem_cons_self
    simp only [isAround, Bool.or_eq_false_iff, beq_eq_false_iff_ne] at hbare
    rcases hc with hblank | hslash
    · rw [hbare.1.1] at hblank
      cases hblank
    · exact absurd hslash hbare.1.2

/-- In a text of other characters nothing stands around the identifier. -/
theorem StandsAlone.eq_of_bare {name s : String} (h : StandsAlone name s)
    (hs : ∀ c ∈ s.toList, isAround c = false) : name = s := by
  obtain ⟨mark, cs, after, hmark, hchars, -, hbefore, hafter⟩ := h
  rw [hchars, List.forall_mem_append] at hs
  obtain rfl : mark = [] := by
    rcases hmark with rfl | rfl
    · rfl
    · exact absurd (hs.1 '\uFEFF' List.mem_cons_self) (by decide)
  obtain rfl := hbefore.eq_of_bare hs.2
  obtain rfl := hafter.eq_of_bare (List.forall_mem_append.1 hs.2).2
  rw [List.nil_append, List.append_nil] at hchars
  exact String.toList_injective hchars.symm

/-- **Texts that are identifiers.**  A text gives an identifier exactly if this stands alone in it
and is no keyword. -/
theorem identifier?_eq_some_iff {s name : String} :
    identifier? s = some name ↔ keywords.contains name = false ∧ StandsAlone name s := by
  unfold identifier?
  rw [← lex?_eq_identifier_iff, Option.bind_eq_some_iff]
  constructor
  · rintro ⟨ts, hlex, hrun⟩
    obtain ⟨hkeyword, rfl⟩ := Parser.run_ident_eq_ok_iff.1 (toOption_eq_some_iff.1 hrun)
    exact ⟨hkeyword, hlex⟩
  · rintro ⟨hkeyword, hlex⟩
    exact ⟨_, hlex, toOption_eq_some_iff.2 (Parser.run_ident_eq_ok_iff.2 ⟨hkeyword, rfl⟩)⟩

/-- A comment to the end of the line may follow, a second identifier may not. -/
example : identifier? " due // a day" = some "due" ∧ identifier? "due date" = none := by
  decide +kernel

end Criteria.Source
