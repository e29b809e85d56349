import Mathlib
import PropCalc.Formula.Render
import PropCalc.Proofs.Semantics
import PropCalc.Proofs.Lexing
import PropCalc.Proofs.Derivation

namespace PropCalc

namespace Formula

open Grammar Lexer

/-- The tokens of a formula printed at a place, with the parentheses the place asks for. -/
def tokensAt : Place → Formula → Tokens
  | place, t =>
    let body := match t with
      | const b => [⟨if b then "1" else "0", .constant⟩]
      | var v => [⟨v.text, .var⟩]
      | neg a => opToken "-" :: tokensAt (.operand 4) a
      | bin op a b =>
        tokensAt (.operand op.precedence) a ++ opToken op.symbol :: tokensAt (.right op.precedence) b
    if place.wraps t.precedence then opToken "(" :: body ++ [opToken ")"] else body

/-- The grammar level a formula is read at when it stands without parentheses. -/
def tier : Formula → Nat
  | bin op _ _ => op.tier
  | _ => 0

theorem tokensAt_eq (p : Place) (t : Formula) :
    tokensAt p t =
      if p.wraps t.precedence then opToken "(" :: tokensAt .top t ++ [opToken ")"]
      else tokensAt .top t := by
  cases t <;> rfl

theorem renderAt_eq (p : Place) (t : Formula) :
    renderAt p t = if p.wraps t.precedence then "(" ++ renderAt .top t ++ ")" else renderAt .top t := by
  cases t <;> rfl

theorem renderAt_top_const (b : Bool) : renderAt .top (const b) = if b then "1" else "0" := rfl

theorem renderAt_top_var (v : Var) : renderAt .top (var v) = v.text := rfl

theorem renderAt_top_neg (a : Formula) : renderAt .top (neg a) = "-" ++ renderAt (.operand 4) a := rfl

theorem renderAt_top_bin (op : Connective) (a b : Formula) :
    renderAt .top (bin op a b) =
      renderAt (.operand op.precedence) a ++ " " ++ op.symbol ++ " " ++
        renderAt (.right op.precedence) b := rfl

theorem tokensAt_top_neg (a : Formula) :
    tokensAt .top (neg a) = opToken "-" :: tokensAt (.operand 4) a := rfl

theorem tokensAt_top_bin (op : Connective) (a b : Formula) :
    tokensAt .top (bin op a b) =
      tokensAt (.operand op.precedence) a ++ opToken op.symbol :: tokensAt (.right op.precedence) b :=
  rfl

theorem tier_le_three (t : Formula) : t.tier ≤ 3 := by
  cases t with
  | bin op => exact op.tier_le_three
  | _ => exact Nat.zero_le 3

/-- A formula stands unparenthesised at level `m` exactly when it binds at least as tightly as
a connective of tier `m`. -/
theorem tier_le_iff {m : Nat} (hm : m ≤ 3) (t : Formula) : t.tier ≤ m ↔ 4 - m ≤ t.precedence := by
  cases t with
  | bin op =>
    have := op.one_le_tier
    have := op.tier_le_three
    simp only [tier, precedence, Connective.precedence]
    omega
  | _ => simp only [tier, precedence]; omega

/-- A formula printed at a place is derived at every level from its own, or from a term's when
the place parenthesises it. -/
theorem derives_tokensAt {t : Formula} (ht : Derives t.tier (tokensAt .top t) t) {p : Place}
    {k : Nat} (hk : p.wraps t.precedence = true ∨ t.tier ≤ k) : Derives k (tokensAt p t) t := by
  rw [tokensAt_eq]
  split_ifs with hw
  · exact (Derives.group (ht.lift_le (tier_le_three t))).lift_le (Nat.zero_le k)
  · exact ht.lift_le (hk.resolve_left hw)

theorem derives_tokensAt_top (t : Formula) : Derives t.tier (tokensAt .top t) t := by
  induction t with
  | const b => cases b <;> simp [tokensAt, tier, Place.wraps, Derives.zero, Derives.one]
  | var v => exact Derives.var v
  | neg a iha =>
    refine Derives.neg (derives_tokensAt iha ?_)
    by_cases hw : Place.wraps (.operand 4) a.precedence = true
    · exact Or.inl hw
    · refine Or.inr ((tier_le_iff (Nat.zero_le 3) a).mpr ?_)
      simpa [Place.wraps] using hw
  | bin op a b iha ihb =>
    obtain ⟨k, hk⟩ : ∃ k, op.tier = k + 1 := ⟨op.tier - 1, by have := op.one_le_tier; omega⟩
    have h3 := op.tier_le_three
    have hl : Derives (k + 1) (tokensAt (.operand op.precedence) a) a := by
      refine derives_tokensAt iha ?_
      by_cases hw : Place.wraps (.operand op.precedence) a.precedence = true
      · exact Or.inl hw
      · refine Or.inr ((tier_le_iff (by omega) a).mpr ?_)
        have : ¬ a.precedence < op.precedence := by simpa [Place.wraps] using hw
        simp only [Connective.precedence] at this
        omega
    have hr : Derives k (tokensAt (.right op.precedence) b) b := by
      refine derives_tokensAt ihb ?_
      by_cases hw : Place.wraps (.right op.precedence) b.precedence = true
      · exact Or.inl hw
      · refine Or.inr ((tier_le_iff (by omega) b).mpr ?_)
        have : ¬ b.precedence ≤ op.precedence := by simpa [Place.wraps] using hw
        simp only [Connective.precedence] at this
        omega
    have h := Derives.join hl hk (Connective.symbol_mem_spellings op) hr
    rw [← hk] at h
    simpa [tokensAt, tier, Place.wraps] using h

theorem parse_tokensAt_top (t : Formula) : (parse (tokensAt .top t)).value = .ok t := by
  have h := (derives_tokensAt_top t).lift_le (tier_le_three t)
  rw [parse_value_eq_ok_iff]
  exact ⟨h.ne_nil, by simpa using (reads_of_derives h).1 [] (ends_nil 3)⟩

theorem renderAt_opens (p : Place) (t : Formula) :
    ∃ c cs, (renderAt p t).toList = c :: cs ∧
      (c = '(' ∨ c = '-' ∨ c = '0' ∨ c = '1' ∨ c.isAlpha = true) := by
  induction t generalizing p with
  | const b =>
    rw [renderAt_eq]
    split_ifs
    · exact ⟨'(', (renderAt .top (const b)).toList ++ [')'], by simp, Or.inl rfl⟩
    · cases b
      · exact ⟨'0', [], by simp [renderAt_top_const], by simp⟩
      · exact ⟨'1', [], by simp [renderAt_top_const], by simp⟩
  | var v =>
    rw [renderAt_eq]
    split_ifs
    · exact ⟨'(', (renderAt .top (var v)).toList ++ [')'], by simp, Or.inl rfl⟩
    · exact ⟨v.name, [], by simp [renderAt_top_var, Var.text], Or.inr (Or.inr (Or.inr (Or.inr v.letter)))⟩
  | neg a =>
    rw [renderAt_eq]
    split_ifs
    · exact ⟨'(', (renderAt .top (neg a)).toList ++ [')'], by simp, Or.inl rfl⟩
    · exact ⟨'-', (renderAt (.operand 4) a).toList, by simp [renderAt_top_neg], Or.inr (Or.inl rfl)⟩
  | bin op a b iha =>
    rw [renderAt_eq]
    split_ifs
    · exact ⟨'(', (renderAt .top (bin op a b)).toList ++ [')'], by simp, Or.inl rfl⟩
    · obtain ⟨c, cs, hcs, hc⟩ := iha (.operand op.precedence)
      exact ⟨c, cs ++ ' ' :: (op.symbol.toList ++ ' ' :: (renderAt (.right op.precedence) b).toList),
        by simp [renderAt_top_bin, hcs], hc⟩

theorem solid_renderAt (p : Place) (t : Formula) (rest : List Char) :
    Solid ((renderAt p t).toList ++ rest) := by
  obtain ⟨c, cs, hcs, hc⟩ := renderAt_opens p t
  rw [hcs]
  intro d hd
  obtain rfl : c = d := Option.mem_some_iff.mp hd
  rcases hc with rfl | rfl | rfl | rfl | hα
  · decide
  · decide
  · decide
  · decide
  · exact ⟨ne_of_isAlpha hα rfl, ne_of_isAlpha hα rfl, ne_of_isAlpha hα rfl,
      ne_of_isAlpha hα rfl, ne_of_isAlpha hα rfl⟩

theorem lexes_space : Lexes Solid [' '] [] :=
  lexes_skip (by simp) fun rest hr => matchOf_space hr

theorem lexes_symbol (op : Connective) : Lexes (fun _ => True) op.symbol.toList [opToken op.symbol] := by
  refine lexes_token (by cases op <;> simp [Connective.symbol]) fun rest _ => ?_
  cases op
  case imply => simpa [Connective.symbol] using matchOf_imply rest
  case iff => simpa [Connective.symbol] using matchOf_iff rest
  all_goals simpa [Connective.symbol] using matchOf_operator (by simp) rest

theorem lexes_wrap {cs : List Char} {ts : Tokens} (h : Lexes (fun _ => True) cs ts) :
    Lexes (fun _ => True) ("(".toList ++ cs ++ ")".toList) (opToken "(" :: ts ++ [opToken ")"]) := by
  have hopen : Lexes (fun _ => True) "(".toList [opToken "("] :=
    lexes_token (by simp) fun rest _ => by simpa using matchOf_operator (c := '(') (by simp) rest
  have hclose : Lexes (fun _ => True) ")".toList [opToken ")"] :=
    lexes_token (by simp) fun rest _ => by simpa using matchOf_operator (c := ')') (by simp) rest
  simpa using (hopen.append h fun _ _ => trivial).append hclose fun _ _ => trivial

theorem lexes_renderAt_of_top {t : Formula}
    (h : Lexes (fun _ => True) (renderAt .top t).toList (tokensAt .top t)) (p : Place) :
    Lexes (fun _ => True) (renderAt p t).toList (tokensAt p t) := by
  rw [renderAt_eq, tokensAt_eq]
  split_ifs
  · simpa using lexes_wrap h
  · exact h

theorem lexes_renderAt (p : Place) (t : Formula) (hV : ∀ v ∈ t.vars, v.name ≠ 'V') :
    Lexes (fun _ => True) (renderAt p t).toList (tokensAt p t) := by
  induction t generalizing p with
  | const b =>
    refine lexes_renderAt_of_top ?_ p
    cases b
    · show Lexes _ "0".toList [⟨"0", .constant⟩]
      exact lexes_token (by simp) fun rest _ => by simpa using matchOf_digit (c := '0') (by simp) rest
    · show Lexes _ "1".toList [⟨"1", .constant⟩]
      exact lexes_token (by simp) fun rest _ => by simpa using matchOf_digit (c := '1') (by simp) rest
  | var v =>
    refine lexes_renderAt_of_top ?_ p
    have hv : v.name ≠ 'V' := hV v (by simp)
    exact lexes_token (by simp [renderAt_top_var, Var.text]) fun rest _ => by
      simpa [renderAt_top_var, Var.text] using matchOf_letter v.letter hv rest
  | neg a iha =>
    refine lexes_renderAt_of_top ?_ p
    have hminus : Lexes Solid "-".toList [opToken "-"] :=
      lexes_token (by simp) fun rest hr => by simpa using matchOf_minus hr
    have h := hminus.append (iha (.operand 4) hV) fun rest _ => solid_renderAt _ a rest
    simpa [renderAt_top_neg, tokensAt_top_neg] using h
  | bin op a b iha ihb =>
    refine lexes_renderAt_of_top ?_ p
    have ha := iha (.operand op.precedence) fun v hv => hV v (by simp [hv])
    have hb := ihb (.right op.precedence) fun v hv => hV v (by simp [hv])
    have h := (((ha.append lexes_space fun _ _ => trivial).append (lexes_symbol op)
      fun rest _ => by cases op <;> simp [Connective.symbol, Solid]).append lexes_space
      fun _ _ => trivial).append hb fun rest _ => solid_renderAt _ b rest
    simpa [renderAt_top_bin, tokensAt_top_bin] using h

theorem lex_render (t : Formula) (hV : ∀ v ∈ t.vars, v.name ≠ 'V') :
    (lex t.render).value = .ok (tokensAt .top t) := by
  obtain ⟨pos, byte, h⟩ := lexes_renderAt .top t hV [] trivial 0 0
  rw [List.append_nil] at h
  rw [lex, tokenize, render, h, scan.eq_1]
  simp [Except.map]

/-- Printing a formula in which no variable is named `V` and reading the text back gives the
formula again. -/
theorem read_render (t : Formula) (hV : ∀ v ∈ t.vars, v.name ≠ 'V') :
    (read t.render).value = .ok t := by
  simp [read, lex_render t hV, parse_tokensAt_top]

theorem read_render_implication :
    (∀ v ∈ (bin .imply (bin .imply (var ⟨'a', rfl⟩) (var ⟨'b', rfl⟩))
        (neg (bin .or (bin .and (var ⟨'c', rfl⟩) (const false)) (var ⟨'b', rfl⟩)))).vars,
        v.name ≠ 'V') ∧
      (read (bin .imply (bin .imply (var ⟨'a', rfl⟩) (var ⟨'b', rfl⟩))
        (neg (bin .or (bin .and (var ⟨'c', rfl⟩) (const false)) (var ⟨'b', rfl⟩)))).render).value =
        .ok (bin .imply (bin .imply (var ⟨'a', rfl⟩) (var ⟨'b', rfl⟩))
          (neg (bin .or (bin .and (var ⟨'c', rfl⟩) (const false)) (var ⟨'b', rfl⟩)))) :=
  ⟨by decide, read_render _ (by decide)⟩

end Formula

end PropCalc
