import Mathlib
import PropCalc.Proofs.Derivation

namespace PropCalc

namespace Grammar

/-- The parser accepts the tokens as one whole expression. -/
def Accepts (ts : Tokens) : Prop := ∃ e, (parse ts).value = .ok e

theorem derives_of_parse {ts : Tokens} {e : Formula} (h : (parse ts).value = .ok e) :
    Derives 3 ts e := by
  obtain ⟨p, rfl, hp⟩ := derives_of_reads 3 ts e [] (parse_value_eq_ok_iff.mp h).2
  simpa using hp

theorem parse_of_derives {ts : Tokens} {e : Formula} (h : Derives 3 ts e) :
    (parse ts).value = .ok e :=
  parse_value_eq_ok_iff.mpr ⟨h.ne_nil, by simpa using (reads_of_derives h).1 [] (ends_nil 3)⟩

theorem accepts_iff {ts : Tokens} : Accepts ts ↔ ∃ e, Derives 3 ts e :=
  ⟨fun ⟨e, h⟩ => ⟨e, derives_of_parse h⟩, fun ⟨e, h⟩ => ⟨e, parse_of_derives h⟩⟩

theorem length_foldReads_le (k : Nat) (acc : Formula) (ts : Tokens) :
    (foldReads k acc ts).2.length ≤ ts.length :=
  (fold k acc ts).2

theorem reads_zero_of_derives {q : Tokens} {t : Formula} (h : Derives 0 q t) (rest : Tokens) :
    reads 0 (q ++ rest) = some (t, rest) :=
  (reads_of_derives h).1 rest (ends_zero rest)

theorem reads_append_of_derives {k : Nat} {q : Tokens} {t : Formula} (h : Derives k q t)
    (rest : Tokens) : ∃ t' r, reads k (q ++ rest) = some (t', r) ∧ r.length ≤ rest.length := by
  induction h generalizing rest with
  | neg hd => exact ⟨_, rest, reads_zero_of_derives (.neg hd) rest, le_rfl⟩
  | zero => exact ⟨_, rest, reads_zero_of_derives .zero rest, le_rfl⟩
  | one => exact ⟨_, rest, reads_zero_of_derives .one rest, le_rfl⟩
  | var v => exact ⟨_, rest, reads_zero_of_derives (.var v) rest, le_rfl⟩
  | group hd => exact ⟨_, rest, reads_zero_of_derives (.group hd) rest, le_rfl⟩
  | @lift k q a _ ih =>
    -- the fold of the next level starts after what level `k` read, and only shortens the rest
    obtain ⟨a', r, hread, hr⟩ := ih rest
    refine ⟨_, _, by rw [reads_succ, hread]; rfl, ?_⟩
    exact (length_foldReads_le k a' r).trans hr
  | @join k ts us a b op s hl htier hs _ _ ihr =>
    -- the left operand is read exactly up to the connective, which the fold then takes
    have hopen := ends_opToken (k := k) hs (by omega) (us ++ rest)
    obtain ⟨b', r, hread, hr⟩ := ihr rest
    refine ⟨(foldReads k (.bin op a b') r).1, (foldReads k (.bin op a b') r).2, ?_,
      (length_foldReads_le k (.bin op a b') r).trans hr⟩
    rw [List.append_assoc, List.cons_append, (reads_of_derives hl).2 k _ rfl hopen, foldReads_cons,
      connectiveAt_eq_some_iff.mpr ⟨htier, s, hs, rfl⟩]
    simp only [hread]

theorem reads_of_accepts_take {ts : Tokens} {k : Nat} (hk : k ≤ ts.length) (h : Accepts (ts.take k)) :
    ∃ e r, reads 3 ts = some (e, r) ∧ r.length + k ≤ ts.length := by
  obtain ⟨e, he⟩ := accepts_iff.mp h
  obtain ⟨e', r, hread, hr⟩ := reads_append_of_derives he (ts.drop k)
  rw [List.take_append_drop] at hread
  refine ⟨e', r, hread, ?_⟩
  rw [List.length_drop] at hr
  omega

theorem accepts_take_of_reads {ts r : Tokens} {e : Formula} (h : reads 3 ts = some (e, r)) :
    Accepts (ts.take (ts.length - r.length)) ∧ r.length < ts.length := by
  obtain ⟨p, rfl, hp⟩ := derives_of_reads 3 ts e r h
  have hlen : (p ++ r).length - r.length = p.length := by simp
  refine ⟨⟨e, ?_⟩, ?_⟩
  · rw [hlen, List.take_left]
    exact parse_of_derives hp
  · have := List.length_pos_of_ne_nil hp.ne_nil
    simp only [List.length_append]
    omega

theorem parse_value_of_ne_nil {ts : Tokens} (hts : ts ≠ []) :
    (parse ts).value = match reads 3 ts with
      | some (e, []) => .ok e
      | some (_, r) => .error (.unexpected (ts.length - r.length) ((r.head?.map Token.lexeme).getD ""))
      | none => .error (.incomplete ts.length) := by
  obtain ⟨t, rest, rfl⟩ := List.exists_cons_of_ne_nil hts
  simp only [parse, expression, reads]
  rcases level 3 (t :: rest) with _ | ⟨⟨f, _ | ⟨u, r⟩⟩, h⟩ <;> rfl

theorem parse_value_eq_empty_iff {ts : Tokens} : (parse ts).value = .error .empty ↔ ts = [] := by
  cases ts with
  | nil => simp [parse]
  | cons t rest =>
    rw [parse_value_of_ne_nil (List.cons_ne_nil t rest)]
    rcases reads 3 (t :: rest) with _ | ⟨f, _ | ⟨u, r⟩⟩ <;> simp

theorem parse_value_eq_incomplete_iff {ts : Tokens} (hts : ts ≠ []) :
    (parse ts).value = .error (.incomplete ts.length) ↔ reads 3 ts = none := by
  rw [parse_value_of_ne_nil hts]
  rcases reads 3 ts with _ | ⟨f, _ | ⟨u, r⟩⟩ <;> simp

theorem parse_value_eq_incomplete_iff_none_accepted {ts : Tokens} (hts : ts ≠ []) :
    (parse ts).value = .error (.incomplete ts.length) ↔
      ∀ k, 0 < k → k ≤ ts.length → ¬ Accepts (ts.take k) := by
  rw [parse_value_eq_incomplete_iff hts]
  constructor
  · intro hnone k _ hkl hacc
    obtain ⟨e, r, hread, -⟩ := reads_of_accepts_take hkl hacc
    rw [hnone] at hread
    cases hread
  · intro hno
    cases hread : reads 3 ts with
    | none => rfl
    | some er =>
      obtain ⟨e, r⟩ := er
      obtain ⟨hacc, hlt⟩ := accepts_take_of_reads hread
      exact absurd hacc (hno _ (by omega) (by omega))

/-- When some prefix is accepted but not the whole sequence, the parser points at the token right
after the longest accepted prefix. -/
theorem parse_value_unexpected_of_accepts_take {ts : Tokens} (hts : ts ≠ []) (hnot : ¬ Accepts ts)
    {k : Nat} (hkl : k ≤ ts.length) (hacc : Accepts (ts.take k)) :
    ∃ p l, (parse ts).value = .error (.unexpected p l) ∧ 1 ≤ p ∧ p < ts.length ∧
      ts[p]?.map Token.lexeme = some l ∧ Accepts (ts.take p) ∧
      ∀ k, p < k → k ≤ ts.length → ¬ Accepts (ts.take k) := by
  obtain ⟨e, r, hread, hr⟩ := reads_of_accepts_take hkl hacc
  obtain ⟨hpre, hlt⟩ := accepts_take_of_reads hread
  -- the reader stopped before the end, since the whole sequence is not accepted
  obtain ⟨u, r', rfl⟩ : ∃ u r', r = u :: r' := by
    cases r with
    | nil =>
      refine absurd ?_ hnot
      simpa using hpre
    | cons u r' => exact ⟨u, r', rfl⟩
  obtain ⟨p, hts_eq, -⟩ := derives_of_reads 3 ts e _ hread
  have hlen : ts.length = p.length + (u :: r').length := by simp [hts_eq]
  have hp : ts.length - (u :: r').length = p.length := by omega
  refine ⟨p.length, u.lexeme, ?_, ?_, ?_, ?_, ?_, fun k' hk' hk'l hacc' => ?_⟩
  · rw [parse_value_of_ne_nil hts, hread]
    dsimp only
    rw [hp]
    rfl
  · simp only [List.length_cons] at hr
    omega
  · simp [hts_eq]
  · simp [hts_eq]
  · rwa [← hp]
  · -- a longer accepted prefix would be read too, and the reader reads one phrase only
    obtain ⟨e', r'', hread', hr'⟩ := reads_of_accepts_take hk'l hacc'
    rw [hread] at hread'
    obtain ⟨-, rfl⟩ := Prod.mk.inj (Option.some.inj hread')
    omega

/-- A parse error names the end of the longest prefix the parser accepts. The sequence is empty,
or no prefix is accepted and the parser says so, or the parser points at the token right after
the longest accepted prefix; that token exists, so no placeholder lexeme is ever reported. -/
theorem parse_error_at_longest_sentence (ts : Tokens) :
    ((parse ts).value = .error .empty ↔ ts = []) ∧
    (ts ≠ [] → ¬ Accepts ts →
      ((parse ts).value = .error (.incomplete ts.length) ↔
        ∀ k, 0 < k → k ≤ ts.length → ¬ Accepts (ts.take k))) ∧
    (ts ≠ [] → ¬ Accepts ts → (∃ k, 0 < k ∧ k ≤ ts.length ∧ Accepts (ts.take k)) →
      ∃ p l, (parse ts).value = .error (.unexpected p l) ∧ 1 ≤ p ∧ p < ts.length ∧
        ts[p]?.map Token.lexeme = some l ∧ Accepts (ts.take p) ∧
        ∀ k, p < k → k ≤ ts.length → ¬ Accepts (ts.take k)) :=
  ⟨parse_value_eq_empty_iff, fun hts _ => parse_value_eq_incomplete_iff_none_accepted hts,
    fun hts hnot ⟨_, _, hkl, hacc⟩ => parse_value_unexpected_of_accepts_take hts hnot hkl hacc⟩

theorem parse_error_at_longest_sentence_trailing :
    [⟨"a", .var⟩, ⟨"&", .operator⟩, ⟨"b", .var⟩, ⟨"c", .var⟩] ≠ ([] : Tokens) ∧
      ¬ Accepts [⟨"a", .var⟩, ⟨"&", .operator⟩, ⟨"b", .var⟩, ⟨"c", .var⟩] ∧
      (∃ k, 0 < k ∧ k ≤ 4 ∧
        Accepts (List.take k [⟨"a", .var⟩, ⟨"&", .operator⟩, ⟨"b", .var⟩, ⟨"c", .var⟩])) ∧
      ∃ p l, (parse [⟨"a", .var⟩, ⟨"&", .operator⟩, ⟨"b", .var⟩, ⟨"c", .var⟩]).value =
          .error (.unexpected p l) ∧ 1 ≤ p ∧ p < 4 ∧
        ([⟨"a", .var⟩, ⟨"&", .operator⟩, ⟨"b", .var⟩, ⟨"c", .var⟩] : Tokens)[p]?.map Token.lexeme =
          some l ∧
        Accepts (List.take p [⟨"a", .var⟩, ⟨"&", .operator⟩, ⟨"b", .var⟩, ⟨"c", .var⟩]) ∧
        ∀ k, p < k → k ≤ 4 →
          ¬ Accepts (List.take k [⟨"a", .var⟩, ⟨"&", .operator⟩, ⟨"b", .var⟩, ⟨"c", .var⟩]) := by
  have hfull : reads 3 [⟨"a", .var⟩, ⟨"&", .operator⟩, ⟨"b", .var⟩, ⟨"c", .var⟩] =
      some (.bin .and (.var ⟨'a', rfl⟩) (.var ⟨'b', rfl⟩), [⟨"c", .var⟩]) := by
    simp [reads_succ, reads_zero, termReads_cons, foldReads_cons, isOperator, atom, connectiveAt,
      Connective.spelledAt?, Var.ofLexeme?, Var.ofChar?, Connective.spellings, Connective.tier]
  have hpre : reads 3 [⟨"a", .var⟩, ⟨"&", .operator⟩, ⟨"b", .var⟩] =
      some (.bin .and (.var ⟨'a', rfl⟩) (.var ⟨'b', rfl⟩), []) := by
    simp [reads_succ, reads_zero, termReads_cons, foldReads_cons, foldReads_nil, isOperator, atom,
      connectiveAt, Connective.spelledAt?, Var.ofLexeme?, Var.ofChar?, Connective.spellings,
      Connective.tier]
  have hne : [⟨"a", .var⟩, ⟨"&", .operator⟩, ⟨"b", .var⟩, ⟨"c", .var⟩] ≠ ([] : Tokens) := by simp
  have hnot : ¬ Accepts [⟨"a", .var⟩, ⟨"&", .operator⟩, ⟨"b", .var⟩, ⟨"c", .var⟩] := by
    rintro ⟨e, he⟩
    rw [parse_value_of_ne_nil hne, hfull] at he
    cases he
  have hacc : ∃ k, 0 < k ∧ k ≤ 4 ∧
      Accepts (List.take k [⟨"a", .var⟩, ⟨"&", .operator⟩, ⟨"b", .var⟩, ⟨"c", .var⟩]) :=
    ⟨3, by decide, by decide, _, parse_value_eq_ok_iff.mpr ⟨by simp, hpre⟩⟩
  exact ⟨hne, hnot, hacc, (parse_error_at_longest_sentence _).2.2 hne hnot hacc⟩

end Grammar

end PropCalc
