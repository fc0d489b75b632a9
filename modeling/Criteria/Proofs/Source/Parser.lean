import Criteria.Proofs.Except
import Criteria.Source.Parser

/-!
# What parsers take

When a parser of a small phrase gives a result, and what it leaves.
-/

namespace Criteria.Source

theorem Input.finish_eq_ok_iff {s : Input} :
    s.finish = .ok () ↔ s.unused = none ∧ s.tokens = [] := by
  obtain ⟨tokens, unused⟩ := s
  cases unused with
  | none => cases tokens <;> simp [Input.finish]
  | some d => simp [Input.finish]

namespace Parser

theorem run_eq_ok_iff {α : Type} {p : Parser α} {tokens : Tokens} {x : α} :
    run p tokens = .ok x ↔ ∃ t, p { tokens } = .ok (x, t) ∧ t.finish = .ok () := by
  unfold run
  cases h : p { tokens } with
  | error e => simp
  | ok found =>
    obtain ⟨y, t⟩ := found
    simp only [Except.ok.injEq, Prod.mk.injEq]
    rw [map_eq_ok_iff]
    constructor
    · rintro ⟨⟨⟩, hfinish, rfl⟩
      exact ⟨t, ⟨rfl, rfl⟩, hfinish⟩
    · rintro ⟨left, ⟨rfl, rfl⟩, hfinish⟩
      exact ⟨(), hfinish, rfl⟩

theorem ident_eq_ok_iff {s t : Input} {name : String} :
    ident s = .ok (name, t) ↔
      keywords.contains name = false ∧
        ∃ rest, s.tokens = .ident name :: rest ∧ t = { s with tokens := rest } := by
  unfold ident
  split
  · next found rest htokens =>
    rw [htokens]
    by_cases hkeyword : keywords.contains found = true
    · rw [if_pos hkeyword]
      simp only [reduceCtorEq, List.cons.injEq, Token.ident.injEq, false_iff]
      rintro ⟨hname, rest', ⟨rfl, -⟩, -⟩
      rw [hname] at hkeyword
      cases hkeyword
    · rw [if_neg hkeyword]
      simp only [Except.ok.injEq, Prod.mk.injEq, List.cons.injEq, Token.ident.injEq]
      constructor
      · rintro ⟨rfl, rfl⟩
        exact ⟨Bool.eq_false_iff.2 hkeyword, rest, ⟨rfl, rfl⟩, rfl⟩
      · rintro ⟨-, rest', ⟨rfl, rfl⟩, rfl⟩
        exact ⟨rfl, rfl⟩
  · next htokens =>
    simp only [reduceCtorEq, false_iff]
    rintro ⟨-, rest, hrest, -⟩
    exact htokens name rest hrest

theorem run_ident_eq_ok_iff {tokens : Tokens} {name : String} :
    run ident tokens = .ok name ↔ keywords.contains name = false ∧ tokens = [.ident name] := by
  rw [run_eq_ok_iff]
  constructor
  · rintro ⟨t, hident, hfinish⟩
    obtain ⟨hkeyword, rest, htokens, rfl⟩ := ident_eq_ok_iff.1 hident
    obtain ⟨-, hrest⟩ := Input.finish_eq_ok_iff.1 hfinish
    dsimp only at htokens hrest
    exact ⟨hkeyword, by rw [htokens, hrest]⟩
  · rintro ⟨hkeyword, rfl⟩
    exact ⟨_, ident_eq_ok_iff.2 ⟨hkeyword, [], rfl, rfl⟩, rfl⟩

/-- An operator of one mark. -/
theorem op_eq_ok_iff {text : String} {c : Char} (htext : text.toList = [c]) {s t : Input}
    {ts : Tokens} :
    op text s = .ok (ts, t) ↔
      ts = operatorTokens [c] ∧
        ∃ joint rest, s.tokens = .punct c joint :: rest ∧ t = { s with tokens := rest } := by
  have hlength : text.length = 1 := by rw [← String.length_toList, htext]; rfl
  unfold op atOp
  rw [htext, hlength]
  cases htokens : s.tokens with
  | nil => simp [beginsOperator]
  | cons first rest =>
    cases first with
    | punct d joint =>
      by_cases hd : c = d
      · subst hd
        simp only [beginsOperator, beq_self_eq_true, if_true, Except.ok.injEq, Prod.mk.injEq,
          List.drop_succ_cons, List.drop_zero]
        constructor
        · rintro ⟨rfl, rfl⟩
          exact ⟨rfl, joint, rest, rfl, rfl⟩
        · rintro ⟨rfl, joint', rest', hrest, rfl⟩
          cases hrest
          exact ⟨rfl, rfl⟩
      · simp [beginsOperator, hd, Ne.symm hd]
    | ident name => simp [beginsOperator]
    | literal l => simp [beginsOperator]
    | group d inside => simp [beginsOperator]

theorem optionally_eq (p : Tokens → Bool) (phrase : Parser Tokens) (s : Input) :
    optionally p phrase s = if p s.tokens = true then phrase s else .ok ([], s) := by
  have hpeek : optionally p phrase s = (if p s.tokens = true then phrase else pure []) s := rfl
  rw [hpeek]
  by_cases h : p s.tokens = true
  · rw [if_pos h, if_pos h]
  · rw [if_neg h, if_neg h]
    rfl

end Parser

end Criteria.Source
